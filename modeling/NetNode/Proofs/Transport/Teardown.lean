import Mathlib
import NetNode.Transport.Process

/-!
# Every call tears down the same way

Whatever the handler's `handle` does (it returns success, returns any error, or panics with any
payload), a processor's call makes one handler, runs `handle` once, shuts a connection's write
half down, runs the handler's `close` once, and only then lets the unit go. It returns what
`handle` returned, a panic caught as a handler error. If `close` panics, the panic escapes the
call after the same teardown; the unit still goes as the panic unwinds. The connections of one
bound TCP processor are numbered 1, 2, 3, ... in the order their calls begin.

The main statement is `processor_teardown`.
-/

namespace NetNode

open NetNode.Address

/-- The panic boundary turns every way a call can end into the result it is caught as. -/
theorem catchUnwind_call (o : CallOutcome) : catchUnwind o.call = pure o.caught := by
  cases o <;> rfl

/-- How a processor's call ends: with the handler's result, a panic of `handle` caught, or with
the panic of the handler's `close`. -/
def Handler.ending (h : Handler) : Except PanicPayload (Except HandlerError Unit) :=
  match h.closePanic with
  | none => .ok h.handle.caught
  | some p => .error p

/-- A call on a connection makes the handler, runs it told the connection's context, shuts the
write half down, closes the handler and lets the connection go, in that order, however the
handler ends. -/
theorem serveConnection_run (ctx : ConnectionContext) (h : Handler) :
    (serveConnection ctx h).run.run [] =
      (h.ending, [.create, .handle (some ctx), .shutdown, .close, .release]) := by
  obtain ⟨o, c⟩ := h
  unfold serveConnection
  rw [catchUnwind_call]
  cases c <;> rfl

/-- A call on a datagram makes the handler, runs it, closes it and gives the buffer back, in
that order, however the handler ends. -/
theorem processDatagram_run (h : Handler) :
    (processDatagram h).run.run [] = (h.ending, [.create, .handle none, .close, .release]) := by
  obtain ⟨o, c⟩ := h
  unfold processDatagram
  rw [catchUnwind_call]
  cases c <;> rfl

/-- Calls that begin one after another on a processor take the counter's numbers in that order,
each serving its connection with the next number; the counter moves on by one per call. -/
theorem BoundSocket.beginCalls_eq (b : BoundSocket)
    (calls : List (Option SocketAddress × Handler)) :
    b.beginCalls calls =
      ((calls.zipIdx b.nextId).map fun c => serveConnection ⟨c.2, b.address, c.1.1⟩ c.1.2,
        { b with nextId := b.nextId + calls.length }) := by
  -- induction on the calls, the counter moving on with each
  induction calls generalizing b with
  | nil => rfl
  | cons call calls ih =>
    obtain ⟨remote, h⟩ := call
    simp only [BoundSocket.beginCalls, BoundSocket.processConnection, BoundSocket.begin, ih,
      List.zipIdx_cons, List.map_cons, List.length_cons, Prod.mk.injEq, true_and]
    simp only [Nat.add_assoc, Nat.add_comm 1]

/-- The teardown contract of the processors: each call makes its handler, runs it once, shuts the
write half down (TCP only), closes the handler once before letting its unit go, and returns what
the handler returned, a panic caught; TCP calls number their connections 1, 2, 3, .... -/
theorem processor_teardown (address : SocketAddress) (fd : Nat)
    (calls : List (Option SocketAddress × Handler)) (hclose : ∀ c ∈ calls, c.2.closePanic = none) :
    ((BoundSocket.beginCalls { address, fd } calls).1.map fun call => call.run.run []) =
      (calls.zipIdx 1).map (fun c =>
        (.ok c.1.2.handle.caught,
          [.create, .handle (some ⟨c.2, address, c.1.1⟩), .shutdown, .close, .release])) ∧
    ∀ h : Handler, h.closePanic = none →
      (processDatagram h).run.run [] =
        (.ok h.handle.caught, [.create, .handle none, .close, .release]) := by
  refine ⟨?_, fun h hc => ?_⟩
  · rw [BoundSocket.beginCalls_eq, List.map_map]
    apply List.map_congr_left
    intro c hc
    -- the call's handler closes normally
    have hnone : c.1.2.closePanic = none := hclose c.1 (List.fst_mem_of_mem_zipIdx hc)
    simp only [Function.comp, serveConnection_run, Handler.ending, hnone]
  · rw [processDatagram_run, Handler.ending, hc]

/-- Two connections on a freshly bound processor: one whose handler panics, and one whose handler
reports cancellation. -/
theorem processor_teardown_of_panic_and_cancel :
    let calls : List (Option SocketAddress × Handler) :=
      [(none, ⟨.panicked (.text "handler exploded"), none⟩),
        (some default, ⟨.error .cancelled, none⟩)]
    ((BoundSocket.beginCalls { address := default, fd := 3 } calls).1.map fun call =>
        call.run.run []) =
      (calls.zipIdx 1).map (fun c =>
        (.ok c.1.2.handle.caught,
          [.create, .handle (some ⟨c.2, default, c.1.1⟩), .shutdown, .close, .release])) ∧
    ∀ h : Handler, h.closePanic = none →
      (processDatagram h).run.run [] =
        (.ok h.handle.caught, [.create, .handle none, .close, .release]) :=
  processor_teardown default 3 _ (by decide)

end NetNode
