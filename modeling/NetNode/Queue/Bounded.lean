import NetNode.Queue.Notify

/-!
# Bounded queues

A first-in first-out queue that never holds more than its capacity. A push to a full queue
either waits for room or evicts the oldest item and hands it back; a push to a closed queue is
refused with its item. A pop waits while the queue is empty and open, and ends with nothing
once it is closed and empty. Two signals wake waiting callers: `notEmpty` on every push and
on closing, `notFull` on every pop and on closing.

A waiting caller is a value: `push` and `pop` either finish or give back a waiting caller
holding a ticket, and `resume` lets it look again after a wake-up.
-/

namespace NetNode.Queue

/-- What a push to a full queue does. -/
inductive FullMode where
  | wait
  | dropOldest
  deriving DecidableEq, Inhabited, Repr

/-- The name of a mode. -/
def FullMode.name : FullMode → String
  | .wait => "Wait"
  | .dropOldest => "DropOldest"

/-- A bounded queue; the capacity is at least one. -/
structure Bounded (α : Type) where
  items : List α := []
  capacity : Nat
  mode : FullMode
  closed : Bool := false
  notEmpty : Signal := {}
  notFull : Signal := {}
  nextTicket : Nat := 0
  deriving Inhabited

variable {α : Type}

/-- An empty queue; a capacity of zero is taken as one. -/
def Bounded.new (capacity : Nat) (mode : FullMode) : Bounded α :=
  { capacity := max capacity 1, mode }

/-- How a push ended: accepted, with the item evicted to make room, or refused by a closed
queue, with the refused item. -/
inductive PushResult (α : Type) where
  | accepted (evicted : Option α)
  | rejected (item : α)
  deriving Inhabited

/-- The text of the refusal of a closed queue. -/
def closedMessage : String := "queue is closed"

/-- A caller waiting on a queue. -/
inductive Waiter (α : Type) where
  | push (item : α) (ticket : Ticket)
  | pop (ticket : Ticket)
  deriving Inhabited

/-- Where a push or pop stands: finished with a result, or waiting. -/
inductive Progress (β α : Type) where
  | done (result : β)
  | waiting (w : Waiter α)

/-- Take a ticket from `notFull` and register it. -/
def Bounded.takeFull (q : Bounded α) : Ticket × Bool × Bounded α :=
  let t := q.notFull.ticket q.nextTicket
  let (ready, s) := q.notFull.register t
  (t, ready, { q with notFull := s, nextTicket := q.nextTicket + 1 })

/-- Take a ticket from `notEmpty` and register it. -/
def Bounded.takeEmpty (q : Bounded α) : Ticket × Bool × Bounded α :=
  let t := q.notEmpty.ticket q.nextTicket
  let (ready, s) := q.notEmpty.register t
  (t, ready, { q with notEmpty := s, nextTicket := q.nextTicket + 1 })

/-- A push that evicts: refused when closed, otherwise in at the back, the oldest item out
when the queue was full. -/
def Bounded.pushEvicting (q : Bounded α) (item : α) : PushResult α × Bounded α :=
  if q.closed then (.rejected item, q)
  else
    let (evicted, rest) := if q.capacity ≤ q.items.length then
        match q.items with
        | x :: xs => (some x, xs)
        | [] => (none, [])
      else (none, q.items)
    (.accepted evicted, { q with items := rest ++ [item], notEmpty := q.notEmpty.wakeOne })

/-- One look of a waiting push: register a ticket, then either finish or keep the ticket;
`true` with the ticket when the ticket was woken at once. -/
def Bounded.pushLook (q : Bounded α) (item : α) :
    (PushResult α ⊕ (Bool × Ticket)) × Bounded α :=
  let (t, ready, q) := q.takeFull
  let release (q : Bounded α) : Bounded α :=
    if ready then q else { q with notFull := q.notFull.leave t }
  if q.closed then (.inl (.rejected item), release q)
  else if q.items.length < q.capacity then
    (.inl (.accepted none), release { q with items := q.items ++ [item], notEmpty := q.notEmpty.wakeOne })
  else (.inr (ready, t), q)

/-- A waiting push, looking again while its ticket was woken at once (at most `fuel` times). -/
def Bounded.pushWaiting (q : Bounded α) (item : α) : Nat → Progress (PushResult α) α × Bounded α
  | 0 => (.waiting (.push item default), q)
  | fuel + 1 =>
    match q.pushLook item with
    | (.inl r, q) => (.done r, q)
    | (.inr (true, _), q) => q.pushWaiting item fuel
    | (.inr (false, t), q) => (.waiting (.push item t), q)

/-- One look of a pop. -/
def Bounded.popLook (q : Bounded α) : (Option α ⊕ (Bool × Ticket)) × Bounded α :=
  let (t, ready, q) := q.takeEmpty
  let release (q : Bounded α) : Bounded α :=
    if ready then q else { q with notEmpty := q.notEmpty.leave t }
  match q.items with
  | x :: xs => (.inl (some x), release { q with items := xs, notFull := q.notFull.wakeOne })
  | [] => if q.closed then (.inl none, release q) else (.inr (ready, t), q)

/-- A pop, looking again while its ticket was woken at once (at most `fuel` times). -/
def Bounded.popWaiting (q : Bounded α) : Nat → Progress (Option α) α × Bounded α
  | 0 => (.waiting (.pop default), q)
  | fuel + 1 =>
    match q.popLook with
    | (.inl r, q) => (.done r, q)
    | (.inr (true, _), q) => q.popWaiting fuel
    | (.inr (false, t), q) => (.waiting (.pop t), q)

/-- Push an item: evicting or waiting as the mode says. -/
def Bounded.push (q : Bounded α) (item : α) : Progress (PushResult α) α × Bounded α :=
  match q.mode with
  | .dropOldest => let (r, q) := q.pushEvicting item; (.done r, q)
  | .wait => q.pushWaiting item 3

/-- Pop the oldest item, waiting while the queue is empty and open. -/
def Bounded.pop (q : Bounded α) : Progress (Option α) α × Bounded α := q.popWaiting 3

/-- Pop the oldest item without waiting. -/
def Bounded.tryPop (q : Bounded α) : Option α × Bounded α :=
  match q.items with
  | x :: xs => (some x, { q with items := xs, notFull := q.notFull.wakeOne })
  | [] => (none, q)

/-- Close the queue and wake every waiting caller. -/
def Bounded.close (q : Bounded α) : Bounded α :=
  { q with closed := true, notEmpty := q.notEmpty.wakeAll, notFull := q.notFull.wakeAll }

/-- Close the queue and take every item in it. -/
def Bounded.drain (q : Bounded α) : List α × Bounded α :=
  (q.items, { q.close with items := [] })

/-- What a waiting caller finished with. -/
inductive Finished (α : Type) where
  | pushed (r : PushResult α)
  | popped (item : Option α)
  deriving Inhabited

/-- Let a waiting caller look again: it finishes, or waits on. -/
def Bounded.resume (q : Bounded α) : Waiter α → (Finished α ⊕ Waiter α) × Bounded α
  | .push item t =>
    let (ready, s) := q.notFull.check t
    let q := { q with notFull := s }
    if ready then
      match q.pushWaiting item 3 with
      | (.done r, q) => (.inl (.pushed r), q)
      | (.waiting w, q) => (.inr w, q)
    else (.inr (.push item t), q)
  | .pop t =>
    let (ready, s) := q.notEmpty.check t
    let q := { q with notEmpty := s }
    if ready then
      match q.popWaiting 3 with
      | (.done r, q) => (.inl (.popped r), q)
      | (.waiting w, q) => (.inr w, q)
    else (.inr (.pop t), q)

/-- A waiting caller gives up; a wake-up meant for it goes to the next one. -/
def Bounded.abandon (q : Bounded α) : Waiter α → Bounded α
  | .push _ t => { q with notFull := q.notFull.leave t }
  | .pop t => { q with notEmpty := q.notEmpty.leave t }

/-- The one-line description of a queue. -/
def Bounded.describe (q : Bounded α) : String :=
  s!"BoundedQueue \x7b len: {q.items.length}, capacity: {q.capacity}, mode: {q.mode.name}, closed: {q.closed} \x7d"

end NetNode.Queue
