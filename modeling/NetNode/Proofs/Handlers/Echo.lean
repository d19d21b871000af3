import Mathlib
import NetNode.Handlers.Echo
import NetNode.Proofs.Transport.Teardown

/-!
# The echo gives back the bytes it gets

The stream echo writes back the bytes of each read before it reads again
(`StreamEcho.run_reads`), so a client that sends bytes and then ends its stream gets the same
bytes back, in order, however its reads split them, and the echo's count is their number; the
processor then shuts the write half down, so the client reads its own bytes and then the end of
the stream. A cancellation that comes first ends the call with the bytes read so far written
back. The datagram echo sends one datagram: the payload, unchanged, to its sender.

The main statement is `echo_identity`.
-/

namespace NetNode.Echo

open NetNode.Os NetNode.Address

/-- A read that returns bytes writes them back whole, counts them, and the loop goes on. -/
theorem StreamEcho.run_read (s : StreamEcho) {bytes : List UInt8} (h : bytes ≠ [])
    (rest : List Wake) :
    s.run (.read bytes none :: rest) =
      StreamEcho.run { written := s.written ++ bytes, echoed := s.echoed + bytes.length } rest := by
  cases bytes with
  | nil => contradiction
  | cons b bs => rfl

/-- Reads that each return some bytes write back their concatenation, in order, and count it. -/
theorem StreamEcho.run_reads (s : StreamEcho) (chunks : List (List UInt8))
    (hne : ∀ c ∈ chunks, c ≠ []) (rest : List Wake) :
    s.run (chunks.map (Wake.read · none) ++ rest) =
      StreamEcho.run
        { written := s.written ++ chunks.flatten, echoed := s.echoed + chunks.flatten.length }
        rest := by
  -- induction on the reads, the echo so far carried along
  induction chunks generalizing s with
  | nil => simp
  | cons c cs ih =>
    rw [List.map_cons, List.cons_append, StreamEcho.run_read s (hne c List.mem_cons_self),
      ih _ fun d hd => hne d (List.mem_cons_of_mem c hd)]
    simp [List.append_assoc, Nat.add_assoc]

/-- A send puts on the wire the datagram it is given or nothing. -/
theorem sendTo_wire (b : BoundSocket) (out : Outgoing) (sent : Except IoError Nat) :
    ∀ o ∈ (sendTo b out sent).1, o = out := by
  unfold sendTo
  split
  · simp
  · cases sent <;> simp

/-- A send on a live socket that the host takes puts the datagram on the wire. -/
theorem sendTo_live (b : BoundSocket) (out : Outgoing) (h : b.released = false) (n : Nat) :
    sendTo b out (.ok n) = ([out], .ok n) := by
  simp [sendTo, h]

/-- The echo is the identity on the bytes: however reads split a stream, the client gets back
exactly what it sent and then the end of the stream, or the bytes read before a cancellation;
a datagram goes back unchanged to its sender. -/
theorem echo_identity :
    (∀ (data : List UInt8) (chunks : List (List UInt8)), chunks.flatten = data →
      (∀ c ∈ chunks, c ≠ []) →
      StreamEcho.run {} (chunks.map (Wake.read · none) ++ [.read []]) =
          (some (.ok ()), { written := data, echoed := data.length }) ∧
        ∀ ctx : ConnectionContext,
          (serveConnection ctx (StreamEcho.handler (.ok ()))).run.run [] =
            (.ok (.ok ()), [.create, .handle (some ctx), .shutdown, .close, .release])) ∧
    (∀ (chunks : List (List UInt8)) (rest : List Wake), (∀ c ∈ chunks, c ≠ []) →
      StreamEcho.run {} (chunks.map (Wake.read · none) ++ .cancelled :: rest) =
        (some (.error .cancelled), { written := chunks.flatten, echoed := chunks.flatten.length })) ∧
    (∀ (b : BoundSocket) (payload : List UInt8) (peer : SocketAddress) (sent : Except IoError Nat),
      (∀ o ∈ (echoDatagram b payload peer sent).1, o = ⟨payload, peer⟩) ∧
      (b.released = false → ∀ n, echoDatagram b payload peer (.ok n) = ([⟨payload, peer⟩], .ok ()))) := by
  refine ⟨fun data chunks hdata hne => ⟨?_, fun ctx => ?_⟩, fun chunks rest hne => ?_,
    fun b payload peer sent => ⟨?_, fun hlive n => ?_⟩⟩
  · rw [StreamEcho.run_reads {} chunks hne, hdata]
    simp [StreamEcho.run]
  · -- the echo's `handle` returns and its `close` does nothing
    rw [serveConnection_run]
    rfl
  · rw [StreamEcho.run_reads {} chunks hne]
    simp [StreamEcho.run]
  · exact sendTo_wire b _ sent
  · simp [echoDatagram, sendTo_live b _ hlive, Except.map, Except.mapError]

end NetNode.Echo
