/-!
# Wake-up signals

A signal lets waiting callers sleep until something changes. A caller takes a ticket and
registers it; `wakeOne` wakes the caller that has waited longest, or, when nobody waits,
keeps one wake-up for the next caller to register; `wakeAll` wakes every registered caller
and also every ticket taken before it but not yet registered. A caller that leaves after
being woken by `wakeOne` passes its wake-up on, so none is lost.
-/

namespace NetNode.Queue

/-- How a registered ticket was woken. -/
inductive Wake where
  | one
  | all
  deriving DecidableEq, Inhabited, Repr

/-- A wake-up signal. -/
structure Signal where
  /-- Registered tickets, longest waiting first. -/
  waiting : List Nat := []
  /-- Tickets woken but not yet told so. -/
  woken : List (Nat × Wake) := []
  /-- One stored wake-up for the next registration. -/
  stored : Bool := false
  /-- How often `wakeAll` was called. -/
  rounds : Nat := 0
  deriving DecidableEq, Inhabited, Repr

/-- A ticket: its number and the `wakeAll` count when it was taken. -/
structure Ticket where
  id : Nat
  round : Nat
  deriving DecidableEq, Inhabited, Repr

/-- Wake the longest waiting ticket, or store one wake-up when none waits. -/
def Signal.wakeOne (s : Signal) : Signal :=
  match s.waiting with
  | w :: rest => { s with waiting := rest, woken := s.woken ++ [(w, .one)] }
  | [] => { s with stored := true }

/-- Wake every registered ticket. -/
def Signal.wakeAll (s : Signal) : Signal :=
  { s with rounds := s.rounds + 1, woken := s.woken ++ s.waiting.map (·, .all), waiting := [] }

/-- Take a ticket numbered `id`. -/
def Signal.ticket (s : Signal) (id : Nat) : Ticket := ⟨id, s.rounds⟩

/-- Register a ticket: `true` when it is woken at once, by a stored wake-up or by a
`wakeAll` since it was taken; otherwise it waits. -/
def Signal.register (s : Signal) (t : Ticket) : Bool × Signal :=
  if s.stored then (true, { s with stored := false })
  else if s.rounds ≠ t.round then (true, s)
  else (false, { s with waiting := s.waiting ++ [t.id] })

/-- Look at a waiting ticket: `true` when it was woken (it then leaves the signal). -/
def Signal.check (s : Signal) (t : Ticket) : Bool × Signal :=
  if s.woken.any (·.1 = t.id) then (true, { s with woken := s.woken.filter (·.1 ≠ t.id) })
  else if s.rounds ≠ t.round then (true, { s with waiting := s.waiting.erase t.id })
  else (false, s)

/-- A waiting ticket leaves; a wake-up it got from `wakeOne` goes to the next caller. -/
def Signal.leave (s : Signal) (t : Ticket) : Signal :=
  let s' := { s with waiting := s.waiting.erase t.id, woken := s.woken.filter (·.1 ≠ t.id) }
  if s.woken.contains (t.id, .one) then s'.wakeOne else s'

end NetNode.Queue
