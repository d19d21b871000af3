import NetNode.Queue.Bounded

/-!
# The bounded queue is a linearizable FIFO

Callers of a queue take turns on its lock. A turn is a push, a pop, a `tryPop`, a close, a
drain, a waiting caller that looks again after a wake-up, or a waiting caller dropped before
it finished. A run is any sequence of turns, in the order the lock serves them, each logged
with the answer its caller sees; since a waiting caller may be any value, the runs cover every
interleaving of any number of callers.

The main statement, `serve_linearizable`, says that along every run from a new queue the
queue never holds more than its capacity, the items handed out (popped, evicted or drained)
are exactly the items of the accepted pushes in push order, the queue holds the rest, and the
next call, whatever it is, answers as a bounded FIFO queue should (`Bounded.Serves`).

Read `call_fifo` first: one call hands out what leaves the front of the queue and takes in,
at the back, the item its caller offered when the answer accepts it.
-/

namespace NetNode.Queue

variable {α : Type}

/-! ## Calls, answers and runs -/

/-- A turn on the queue's lock. `resume` is a waiting caller looking again after a wake-up;
`abandon` is a waiting caller dropped before it finished. -/
inductive Call (α : Type) where
  | push (item : α)
  | pop
  | tryPop
  | close
  | drain
  | resume (w : Waiter α)
  | abandon (w : Waiter α)

/-- What the caller of a turn sees. -/
inductive Answer (α : Type) where
  | pushed (result : PushResult α)
  | popped (item : Option α)
  | drained (items : List α)
  | waits (w : Waiter α)
  | closed
  | left

/-- The answer of a push that finished or waits. -/
def Answer.ofPush : Progress (PushResult α) α → Answer α
  | .done r => .pushed r
  | .waiting w => .waits w

/-- The answer of a pop that finished or waits. -/
def Answer.ofPop : Progress (Option α) α → Answer α
  | .done r => .popped r
  | .waiting w => .waits w

/-- The answer of a waiting caller that looked again. -/
def Answer.ofResume : Finished α ⊕ Waiter α → Answer α
  | .inl (.pushed r) => .pushed r
  | .inl (.popped r) => .popped r
  | .inr w => .waits w

/-- Serve one turn. -/
def Bounded.call (q : Bounded α) : Call α → Answer α × Bounded α
  | .push x => let (p, q) := q.push x; (.ofPush p, q)
  | .pop => let (p, q) := q.pop; (.ofPop p, q)
  | .tryPop => let (r, q) := q.tryPop; (.popped r, q)
  | .close => (.closed, q.close)
  | .drain => let (xs, q) := q.drain; (.drained xs, q)
  | .resume w => let (r, q) := q.resume w; (.ofResume r, q)
  | .abandon w => (.left, q.abandon w)

/-- Serve turns in order, logging each with its answer. -/
def Bounded.serve (q : Bounded α) : List (Call α) → List (Call α × Answer α) × Bounded α
  | [] => ([], q)
  | c :: cs =>
    let (log, q') := (q.call c).2.serve cs
    ((c, (q.call c).1) :: log, q')

/-- The item a turn offers to the queue: that of a push, or of a waiting push looking again. -/
def Call.offered : Call α → Option α
  | .push x => some x
  | .resume (.push x _) => some x
  | _ => none

/-- Whether a turn is a pop, or a waiting pop looking again. -/
def Call.pops : Call α → Bool
  | .pop => true
  | .resume (.pop _) => true
  | _ => false

/-- Whether a turn closes the queue. -/
def Call.closes : Call α → Bool
  | .close => true
  | .drain => true
  | _ => false

/-- The item an answer hands back as evicted. -/
def Answer.evicted : Answer α → Option α
  | .pushed (.accepted e) => e
  | _ => none

/-- Whether the answer accepts the offered item. -/
def Answer.accepted : Answer α → Bool
  | .pushed (.accepted _) => true
  | _ => false

/-- The items an answer hands out of the queue: the popped, the evicted or the drained ones. -/
def Answer.taken : Answer α → List α
  | .pushed (.accepted e) => e.toList
  | .popped r => r.toList
  | .drained xs => xs
  | _ => []

/-- The item that enters the queue with a logged turn: the offered one, if it was accepted. -/
def entered (e : Call α × Answer α) : List α :=
  if e.2.accepted then e.1.offered.toList else []

/-! ## What each operation does to the items -/

/-- The capacity, policy and closedness an operation leaves in place. -/
structure Bounded.Keeps (q q' : Bounded α) : Prop where
  capacity : q'.capacity = q.capacity
  mode : q'.mode = q.mode
  closed : q'.closed = q.closed

theorem Bounded.Keeps.trans {q₁ q₂ q₃ : Bounded α} (h₁ : q₁.Keeps q₂)
    (h₂ : q₂.Keeps q₃) : q₁.Keeps q₃ :=
  ⟨h₂.capacity.trans h₁.capacity, h₂.mode.trans h₁.mode, h₂.closed.trans h₁.closed⟩

@[simp] theorem Bounded.takeFull_items (q : Bounded α) : q.takeFull.2.2.items = q.items := rfl
@[simp] theorem Bounded.takeFull_closed (q : Bounded α) : q.takeFull.2.2.closed = q.closed := rfl
@[simp] theorem Bounded.takeFull_capacity (q : Bounded α) :
    q.takeFull.2.2.capacity = q.capacity := rfl
@[simp] theorem Bounded.takeEmpty_items (q : Bounded α) : q.takeEmpty.2.2.items = q.items := rfl
@[simp] theorem Bounded.takeEmpty_closed (q : Bounded α) : q.takeEmpty.2.2.closed = q.closed :=
  rfl

variable {q q' : Bounded α} {x : α}

/-- A waiting push refuses on a closed queue, goes in when there is room, and otherwise waits;
with `more` it waits only because the queue is full and open. -/
def Bounded.Offered (q : Bounded α) (x : α) (more : Bool) (a : Answer α) (q' : Bounded α) :
    Prop :=
  q.closed ∧ a = .pushed (.rejected x) ∧ q'.items = q.items ∨
    ¬q.closed ∧ q.items.length < q.capacity ∧ a = .pushed (.accepted none) ∧
      q'.items = q.items ++ [x] ∨
    (∃ w, a = .waits w) ∧ q'.items = q.items ∧
      (more → ¬q.closed ∧ q.capacity ≤ q.items.length)

/-- A pop returns the oldest item, or nothing from a closed empty queue, and otherwise waits;
with `more` it waits only because the queue is empty and open. -/
def Bounded.Taken (q : Bounded α) (more : Bool) (a : Answer α) (q' : Bounded α) : Prop :=
  (∃ y ys, q.items = y :: ys ∧ a = .popped (some y) ∧ q'.items = ys) ∨
    q.items = [] ∧ q.closed ∧ a = .popped none ∧ q'.items = [] ∨
    (∃ w, a = .waits w) ∧ q'.items = q.items ∧ (more → q.items = [] ∧ ¬q.closed)

/-- One look of a waiting push. -/
theorem Bounded.pushLook_cases {r : PushResult α ⊕ (Bool × Ticket)}
    (h : q.pushLook x = (r, q')) :
    q.Keeps q' ∧
      (q.closed ∧ r = .inl (.rejected x) ∧ q'.items = q.items ∨
        ¬q.closed ∧ q.items.length < q.capacity ∧ r = .inl (.accepted none) ∧
          q'.items = q.items ++ [x] ∨
        ¬q.closed ∧ q.capacity ≤ q.items.length ∧ r.isRight ∧ q'.items = q.items) := by
  unfold Bounded.pushLook at h
  by_cases hc : q.closed
  · simp only [hc, Bounded.takeFull_closed, if_true, Prod.mk.injEq] at h
    obtain ⟨rfl, rfl⟩ := h
    split <;> exact ⟨⟨rfl, rfl, by simp [hc]⟩, by simp [hc]⟩
  · by_cases hl : q.items.length < q.capacity
    · simp only [hc, hl, Bounded.takeFull_closed, Bounded.takeFull_items,
        Bounded.takeFull_capacity, if_true, Bool.false_eq_true, if_false, Prod.mk.injEq] at h
      obtain ⟨rfl, rfl⟩ := h
      split <;> exact ⟨⟨rfl, rfl, by simp [hc]⟩, by simp [hc, hl]⟩
    · simp only [hc, hl, Bounded.takeFull_closed, Bounded.takeFull_items,
        Bounded.takeFull_capacity, Bool.false_eq_true, if_false, Prod.mk.injEq] at h
      obtain ⟨rfl, rfl⟩ := h
      exact ⟨⟨rfl, rfl, rfl⟩, by simp [hc]; omega⟩

/-- A waiting push with `n` looks: a look whose ticket was woken at once is followed by another
while looks remain, so a push that still waits after a look found the queue full and open. -/
theorem Bounded.pushWaiting_cases {n : Nat} {p : Progress (PushResult α) α}
    (h : q.pushWaiting x n = (p, q')) : q.Keeps q' ∧ q.Offered x (n ≠ 0) (.ofPush p) q' := by
  induction n generalizing q with
  | zero =>
    simp only [Bounded.pushWaiting, Prod.mk.injEq] at h
    obtain ⟨rfl, rfl⟩ := h
    exact ⟨⟨rfl, rfl, rfl⟩, .inr (.inr ⟨⟨_, rfl⟩, rfl, by simp⟩)⟩
  | succ n ih =>
    unfold Bounded.pushWaiting at h
    rcases hl : q.pushLook x with ⟨r, q₁⟩
    obtain ⟨hk, hr⟩ := Bounded.pushLook_cases hl
    rw [hl] at h
    rcases hr with ⟨hc, rfl, hi⟩ | ⟨hc, hlt, rfl, hi⟩ | ⟨hc, hfull, hright, hi⟩
    · simp only [Prod.mk.injEq] at h
      obtain ⟨rfl, rfl⟩ := h
      exact ⟨hk, .inl ⟨hc, rfl, hi⟩⟩
    · simp only [Prod.mk.injEq] at h
      obtain ⟨rfl, rfl⟩ := h
      exact ⟨hk, .inr (.inl ⟨hc, hlt, rfl, hi⟩)⟩
    · obtain ⟨⟨ready, t⟩, rfl⟩ : ∃ b, r = .inr b := by
        cases r with
        | inl => simp at hright
        | inr b => exact ⟨b, rfl⟩
      cases ready with
      | true =>
        -- the ticket was woken at once: the next look sees the same items, still full
        obtain ⟨hk', hr'⟩ := ih h
        rw [Bounded.Offered, hk.capacity, hk.closed, hi] at hr'
        rcases hr' with ⟨hc', -⟩ | ⟨-, hlt', -⟩ | ⟨hw, hi', -⟩
        · exact absurd hc' hc
        · omega
        · exact ⟨hk.trans hk', .inr (.inr ⟨hw, hi', fun _ => ⟨hc, hfull⟩⟩)⟩
      | false =>
        simp only [Prod.mk.injEq] at h
        obtain ⟨rfl, rfl⟩ := h
        exact ⟨hk, .inr (.inr ⟨⟨_, rfl⟩, hi, fun _ => ⟨hc, hfull⟩⟩)⟩

/-- One look of a pop. -/
theorem Bounded.popLook_cases {r : Option α ⊕ (Bool × Ticket)} (h : q.popLook = (r, q')) :
    q.Keeps q' ∧
      ((∃ y ys, q.items = y :: ys ∧ r = .inl (some y) ∧ q'.items = ys) ∨
        q.items = [] ∧ q.closed ∧ r = .inl none ∧ q'.items = [] ∨
        q.items = [] ∧ ¬q.closed ∧ r.isRight ∧ q'.items = q.items) := by
  unfold Bounded.popLook at h
  simp only [Bounded.takeEmpty_items, Bounded.takeEmpty_closed] at h
  cases hi : q.items with
  | cons y ys =>
    rw [hi] at h
    simp only [Prod.mk.injEq] at h
    obtain ⟨rfl, rfl⟩ := h
    split <;> exact ⟨⟨rfl, rfl, rfl⟩, .inl ⟨y, ys, rfl, rfl, rfl⟩⟩
  | nil =>
    rw [hi] at h
    by_cases hc : q.closed
    · simp only [hc, if_true, Prod.mk.injEq] at h
      obtain ⟨rfl, rfl⟩ := h
      split <;>
        exact ⟨⟨rfl, rfl, by simp [hc]⟩, .inr (.inl ⟨rfl, hc, rfl, by simp [hi]⟩)⟩
    · simp only [hc, Bool.false_eq_true, if_false, Prod.mk.injEq] at h
      obtain ⟨rfl, rfl⟩ := h
      exact ⟨⟨rfl, rfl, rfl⟩, .inr (.inr ⟨rfl, hc, rfl, hi⟩)⟩

/-- A pop with `n` looks. -/
theorem Bounded.popWaiting_cases {n : Nat} {p : Progress (Option α) α}
    (h : q.popWaiting n = (p, q')) : q.Keeps q' ∧ q.Taken (n ≠ 0) (.ofPop p) q' := by
  induction n generalizing q with
  | zero =>
    simp only [Bounded.popWaiting, Prod.mk.injEq] at h
    obtain ⟨rfl, rfl⟩ := h
    exact ⟨⟨rfl, rfl, rfl⟩, .inr (.inr ⟨⟨_, rfl⟩, rfl, by simp⟩)⟩
  | succ n ih =>
    unfold Bounded.popWaiting at h
    rcases hl : q.popLook with ⟨r, q₁⟩
    obtain ⟨hk, hr⟩ := Bounded.popLook_cases hl
    rw [hl] at h
    rcases hr with ⟨y, ys, hi, rfl, hi'⟩ | ⟨hi, hc, rfl, hi'⟩ | ⟨hi, hc, hright, hi'⟩
    · simp only [Prod.mk.injEq] at h
      obtain ⟨rfl, rfl⟩ := h
      exact ⟨hk, .inl ⟨y, ys, hi, rfl, hi'⟩⟩
    · simp only [Prod.mk.injEq] at h
      obtain ⟨rfl, rfl⟩ := h
      exact ⟨hk, .inr (.inl ⟨hi, hc, rfl, hi'⟩)⟩
    · obtain ⟨⟨ready, t⟩, rfl⟩ : ∃ b, r = .inr b := by
        cases r with
        | inl => simp at hright
        | inr b => exact ⟨b, rfl⟩
      cases ready with
      | true =>
        -- the ticket was woken at once: the next look sees the same empty, open queue
        obtain ⟨hk', hr'⟩ := ih h
        rw [Bounded.Taken, hk.closed, hi', hi] at hr'
        rcases hr' with ⟨_, _, hnil, -⟩ | ⟨-, hc', -⟩ | ⟨hw, hi'', -⟩
        · simp at hnil
        · exact absurd hc' hc
        · exact ⟨hk.trans hk', .inr (.inr ⟨hw, hi''.trans hi.symm, fun _ => ⟨hi, hc⟩⟩)⟩
      | false =>
        simp only [Prod.mk.injEq] at h
        obtain ⟨rfl, rfl⟩ := h
        exact ⟨hk, .inr (.inr ⟨⟨_, rfl⟩, hi', fun _ => ⟨hi, hc⟩⟩)⟩

/-! ## Two looks suffice

A ticket registered as soon as it is taken is woken at once only by the one stored wake-up, and
uses it up. So a look woken at once is followed by a look that is not, and a waiting push or pop
gives the same answer with two looks as with any more: the default ticket of a caller out of
looks is never handed out. -/

theorem Signal.register_ticket (s : Signal) (i : Nat) :
    s.register (s.ticket i) =
      if s.stored then (true, { s with stored := false })
      else (false, { s with waiting := s.waiting ++ [i] }) := by
  unfold Signal.register Signal.ticket
  split <;> simp

theorem Signal.register_ticket_ready (s : Signal) (i : Nat) :
    (s.register (s.ticket i)).1 = s.stored ∧ (s.register (s.ticket i)).2.stored = false := by
  rw [Signal.register_ticket]
  cases hs : s.stored <;> simp

/-- A look of a push woken at once used up the stored wake-up of `notFull`. -/
theorem Bounded.pushLook_ready {t : Ticket} (h : q.pushLook x = (.inr (true, t), q')) :
    q.notFull.stored = true ∧ q'.notFull.stored = false := by
  obtain ⟨hready, hstored⟩ := Signal.register_ticket_ready q.notFull q.nextTicket
  unfold Bounded.pushLook Bounded.takeFull at h
  dsimp only at h
  split at h
  · simp at h
  · split at h
    · simp at h
    · simp only [Prod.mk.injEq, Sum.inr.injEq] at h
      obtain ⟨⟨hr, -⟩, rfl⟩ := h
      exact ⟨hready ▸ hr, hstored⟩

/-- A look of a pop woken at once used up the stored wake-up of `notEmpty`. -/
theorem Bounded.popLook_ready {t : Ticket} (h : q.popLook = (.inr (true, t), q')) :
    q.notEmpty.stored = true ∧ q'.notEmpty.stored = false := by
  obtain ⟨hready, hstored⟩ := Signal.register_ticket_ready q.notEmpty q.nextTicket
  unfold Bounded.popLook Bounded.takeEmpty at h
  dsimp only at h
  split at h
  · simp at h
  · split at h
    · simp at h
    · simp only [Prod.mk.injEq, Sum.inr.injEq] at h
      obtain ⟨⟨hr, -⟩, rfl⟩ := h
      exact ⟨hready ▸ hr, hstored⟩

/-- With no stored wake-up, a waiting push ends after its first look. -/
theorem Bounded.pushWaiting_of_unstored (h : q.notFull.stored = false) (n : Nat) :
    q.pushWaiting x (n + 1) = q.pushWaiting x 1 := by
  rcases hl : q.pushLook x with ⟨r | ⟨ready, t⟩, q₁⟩
  · simp only [Bounded.pushWaiting, hl]
  · cases ready with
    | true => simp [(Bounded.pushLook_ready hl).1] at h
    | false => simp only [Bounded.pushWaiting, hl]

/-- With no stored wake-up, a pop ends after its first look. -/
theorem Bounded.popWaiting_of_unstored (h : q.notEmpty.stored = false) (n : Nat) :
    q.popWaiting (n + 1) = q.popWaiting 1 := by
  rcases hl : q.popLook with ⟨r | ⟨ready, t⟩, q₁⟩
  · simp only [Bounded.popWaiting, hl]
  · cases ready with
    | true => simp [(Bounded.popLook_ready hl).1] at h
    | false => simp only [Bounded.popWaiting, hl]

/-- A waiting push gives the same answer with two looks as with more. -/
theorem Bounded.pushWaiting_two_looks (q : Bounded α) (x : α) (n : Nat) :
    q.pushWaiting x (n + 2) = q.pushWaiting x 2 := by
  rcases hl : q.pushLook x with ⟨r | ⟨ready, t⟩, q₁⟩
  · simp only [Bounded.pushWaiting, hl]
  · cases ready with
    | true =>
      rw [Bounded.pushWaiting.eq_2, Bounded.pushWaiting.eq_2, hl]
      exact Bounded.pushWaiting_of_unstored (Bounded.pushLook_ready hl).2 n
    | false => simp only [Bounded.pushWaiting, hl]

/-- A pop gives the same answer with two looks as with more. -/
theorem Bounded.popWaiting_two_looks (q : Bounded α) (n : Nat) :
    q.popWaiting (n + 2) = q.popWaiting 2 := by
  rcases hl : q.popLook with ⟨r | ⟨ready, t⟩, q₁⟩
  · simp only [Bounded.popWaiting, hl]
  · cases ready with
    | true =>
      rw [Bounded.popWaiting.eq_2, Bounded.popWaiting.eq_2, hl]
      exact Bounded.popWaiting_of_unstored (Bounded.popLook_ready hl).2 n
    | false => simp only [Bounded.popWaiting, hl]

/-- A push that evicts, on an open queue: it evicts the oldest item exactly when the queue is
full, and the item goes in at the back. -/
theorem Bounded.pushEvicting_open (hc : ¬q.closed) :
    q.Keeps (q.pushEvicting x).2 ∧
      (q.pushEvicting x).1 =
        .accepted (if q.capacity ≤ q.items.length then q.items.head? else none) ∧
      (q.pushEvicting x).2.items =
        (if q.capacity ≤ q.items.length then q.items.tail else q.items) ++ [x] := by
  unfold Bounded.pushEvicting
  simp only [hc, Bool.false_eq_true, if_false]
  by_cases hfull : q.capacity ≤ q.items.length
  · simp only [hfull, if_true]
    refine ⟨⟨rfl, rfl, by simp [hc]⟩, ?_⟩
    split <;> simp_all
  · simp only [hfull, if_false]
    exact ⟨⟨rfl, rfl, by simp [hc]⟩, by simp⟩

/-- A waiting push that looks again after a wake-up. -/
theorem Bounded.resume_push_cases {t : Ticket} {r : Finished α ⊕ Waiter α}
    (h : q.resume (.push x t) = (r, q')) : q.Keeps q' ∧ q.Offered x false (.ofResume r) q' := by
  simp only [Bounded.resume] at h
  rcases hc : q.notFull.check t with ⟨ready, s⟩
  rw [hc] at h
  cases ready with
  | true =>
    rcases hw : ({ q with notFull := s } : Bounded α).pushWaiting x 3 with ⟨p, q₁⟩
    obtain ⟨hk, hoff⟩ := Bounded.pushWaiting_cases hw
    have hsignal : q.Keeps { q with notFull := s } := ⟨rfl, rfl, rfl⟩
    replace hk := hsignal.trans hk
    simp only [if_true, hw] at h
    cases p with
    | done r' =>
      simp only [Prod.mk.injEq] at h
      obtain ⟨rfl, rfl⟩ := h
      exact ⟨hk, hoff.imp_right (Or.imp_right fun ⟨hw', hi, _⟩ => ⟨hw', hi, by simp⟩)⟩
    | waiting w =>
      simp only [Prod.mk.injEq] at h
      obtain ⟨rfl, rfl⟩ := h
      exact ⟨hk, hoff.imp_right (Or.imp_right fun ⟨hw', hi, _⟩ => ⟨hw', hi, by simp⟩)⟩
  | false =>
    simp only [Bool.false_eq_true, if_false, Prod.mk.injEq] at h
    obtain ⟨rfl, rfl⟩ := h
    exact ⟨⟨rfl, rfl, rfl⟩, .inr (.inr ⟨⟨_, rfl⟩, rfl, by simp⟩)⟩

/-- A waiting pop that looks again after a wake-up. -/
theorem Bounded.resume_pop_cases {t : Ticket} {r : Finished α ⊕ Waiter α}
    (h : q.resume (.pop t) = (r, q')) : q.Keeps q' ∧ q.Taken false (.ofResume r) q' := by
  simp only [Bounded.resume] at h
  rcases hc : q.notEmpty.check t with ⟨ready, s⟩
  rw [hc] at h
  cases ready with
  | true =>
    rcases hw : ({ q with notEmpty := s } : Bounded α).popWaiting 3 with ⟨p, q₁⟩
    obtain ⟨hk, htaken⟩ := Bounded.popWaiting_cases hw
    have hsignal : q.Keeps { q with notEmpty := s } := ⟨rfl, rfl, rfl⟩
    replace hk := hsignal.trans hk
    simp only [if_true, hw] at h
    cases p with
    | done r' =>
      simp only [Prod.mk.injEq] at h
      obtain ⟨rfl, rfl⟩ := h
      exact ⟨hk, htaken.imp_right (Or.imp_right fun ⟨hw', hi, _⟩ => ⟨hw', hi, by simp⟩)⟩
    | waiting w =>
      simp only [Prod.mk.injEq] at h
      obtain ⟨rfl, rfl⟩ := h
      exact ⟨hk, htaken.imp_right (Or.imp_right fun ⟨hw', hi, _⟩ => ⟨hw', hi, by simp⟩)⟩
  | false =>
    simp only [Bool.false_eq_true, if_false, Prod.mk.injEq] at h
    obtain ⟨rfl, rfl⟩ := h
    exact ⟨⟨rfl, rfl, rfl⟩, .inr (.inr ⟨⟨_, rfl⟩, rfl, by simp⟩)⟩

/-! ## The contract of one turn -/

/-- The queue holds at most its capacity, which is at least one. -/
def Bounded.Fits (q : Bounded α) : Prop := 1 ≤ q.capacity ∧ q.items.length ≤ q.capacity

/-- What a bounded FIFO queue owes the caller of one turn `c`, served at `q` with answer `a`
and leaving `q'`. -/
structure Bounded.Serves (q : Bounded α) (c : Call α) (a : Answer α) (q' : Bounded α) :
    Prop where
  /-- The answer hands out what leaves the front; an accepted item enters at the back. -/
  fifo : a.taken ++ q'.items = q.items ++ entered (c, a)
  /-- The queue stays within its capacity. -/
  fits : q.Fits → q'.Fits
  capacity : q'.capacity = q.capacity
  mode : q'.mode = q.mode
  /-- A closed queue stays closed; `close` and `drain` close it. -/
  closed : (q.closed || c.closes) = true → q'.closed = true
  /-- Only a push in `dropOldest` mode evicts. -/
  evicts : a.evicted.isSome → q.mode = .dropOldest ∧ ∃ x, c = .push x
  /-- A push in `dropOldest` mode never waits: on an open queue it evicts the oldest item
  exactly when the queue is full. -/
  dropOldest : q.mode = .dropOldest → ∀ x, c = .push x →
    a = .pushed (if q.closed then .rejected x
      else .accepted (if q.capacity ≤ q.items.length then q.items.head? else none))
  /-- On a closed queue an offered item comes back refused with itself, or a push that was
  already waiting waits on; the items stay as they are. -/
  refused : q.closed → ∀ x, c.offered = some x → q'.items = q.items ∧
    (a = .pushed (.rejected x) ∨ c ≠ .push x ∧ ∃ w, a = .waits w)
  /-- A pop or `tryPop` returns the oldest item of a non-empty queue, closed or not. -/
  front : c = .pop ∨ c = .tryPop → ∀ y ys, q.items = y :: ys → a = .popped (some y)
  /-- A pop ends with nothing only on a closed, empty queue. -/
  empty : c.pops → a = .popped none → q.closed ∧ q.items = []

theorem Call.pops_of_offered {c : Call α} (h : c.offered = some x) :
    c.pops = false ∧ c.closes = false ∧ c ≠ .pop ∧ c ≠ .tryPop := by
  cases c with
  | resume w => cases w <;> simp_all [Call.offered, Call.pops, Call.closes]
  | _ => simp_all [Call.offered, Call.pops, Call.closes]

/-- A turn that offers `x` and ends as a waiting push does serves its caller. -/
theorem Bounded.Offered.serves {c : Call α} {more : Bool} {a : Answer α} (hk : q.Keeps q')
    (h : q.Offered x more a q') (hx : c.offered = some x)
    (hpush : ∀ y, c = .push y → q.mode = .wait ∧ more = true) : q.Serves c a q' := by
  obtain ⟨hpops, hcloses, hpop, htry⟩ := Call.pops_of_offered hx
  have hevicted : a.evicted = none := by
    rcases h with ⟨_, rfl, _⟩ | ⟨_, _, rfl, _⟩ | ⟨⟨w, rfl⟩, _⟩ <;> rfl
  refine ⟨?_, ?_, hk.capacity, hk.mode, by simp [hk.closed, hcloses], by simp [hevicted], ?_, ?_,
    by simp [hpop, htry], by simp [hpops]⟩
  · rcases h with ⟨_, rfl, hi⟩ | ⟨_, _, rfl, hi⟩ | ⟨⟨w, rfl⟩, hi, _⟩ <;>
      simp [hi, Answer.taken, entered, Answer.accepted, hx]
  · rintro ⟨hone, hlen⟩
    refine ⟨hk.capacity ▸ hone, ?_⟩
    rcases h with ⟨_, _, hi⟩ | ⟨_, hlt, _, hi⟩ | ⟨_, hi, _⟩ <;>
      simp only [hi, hk.capacity, List.length_append, List.length_singleton] <;> omega
  · intro hm y hy
    simp [(hpush y hy).1] at hm
  · intro hc y hy
    simp only [hx, Option.some.injEq] at hy
    subst hy
    rcases h with ⟨_, rfl, hi⟩ | ⟨hc', _⟩ | ⟨⟨w, rfl⟩, hi, hmore⟩
    · exact ⟨hi, .inl rfl⟩
    · exact absurd hc hc'
    · -- a push that waits on a closed queue can only be one that was already waiting
      exact ⟨hi, .inr ⟨fun hp => (hmore (hpush _ hp).2).1 hc, w, rfl⟩⟩

/-- A pop, or a waiting pop looking again, serves its caller. -/
theorem Bounded.Taken.serves {c : Call α} {more : Bool} {a : Answer α} (hk : q.Keeps q')
    (h : q.Taken more a q') (hpops : c.pops) (hmore : c = .pop → more = true) :
    q.Serves c a q' := by
  have hc : c.offered = none ∧ c.closes = false ∧ c ≠ .tryPop ∧ ∀ y, c ≠ .push y := by
    cases c with
    | resume w => cases w <;> simp_all [Call.offered, Call.pops, Call.closes]
    | _ => simp_all [Call.offered, Call.pops, Call.closes]
  obtain ⟨hoffered, hcloses, htry, hpush⟩ := hc
  have hevicted : a.evicted = none := by
    rcases h with ⟨_, _, _, rfl, _⟩ | ⟨_, _, rfl, _⟩ | ⟨⟨w, rfl⟩, _⟩ <;> rfl
  refine ⟨?_, ?_, hk.capacity, hk.mode, by simp [hk.closed, hcloses], by simp [hevicted],
    fun _ y hy => absurd hy (hpush y), by simp [hoffered], ?_, ?_⟩
  · rcases h with ⟨y, ys, hq, rfl, hi⟩ | ⟨hq, _, rfl, hi⟩ | ⟨⟨w, rfl⟩, hi, _⟩
    · simp [hq, hi, Answer.taken, entered, Answer.accepted]
    · simp [hq, hi, Answer.taken, entered, Answer.accepted]
    · simp [hi, Answer.taken, entered, Answer.accepted]
  · rintro ⟨hone, hlen⟩
    refine ⟨hk.capacity ▸ hone, ?_⟩
    rcases h with ⟨y, ys, hq, _, hi⟩ | ⟨_, _, _, hi⟩ | ⟨_, hi, _⟩
    · rw [hq] at hlen
      simp only [hi, hk.capacity]
      simp only [List.length_cons] at hlen
      omega
    · simp [hi]
    · simpa [hi, hk.capacity] using hlen
  · rintro (rfl | rfl) y ys hq
    · rcases h with ⟨y', ys', hq', rfl, _⟩ | ⟨hnil, _⟩ | ⟨_, _, hwait⟩
      · simp_all
      · simp_all
      · simp_all
    · exact absurd rfl htry
  · intro _ hnone
    rcases h with ⟨_, _, _, rfl, _⟩ | ⟨hq, hclosed, _⟩ | ⟨⟨w, rfl⟩, _⟩
    · simp at hnone
    · exact ⟨hclosed, hq⟩
    · simp at hnone

/-- A turn that leaves the items alone and hands out nothing, such as a close or a dropped
waiting caller, serves its caller. -/
theorem Bounded.serves_of_quiet {c : Call α} {a : Answer α} (hitems : q'.items = q.items)
    (hcap : q'.capacity = q.capacity) (hmode : q'.mode = q.mode)
    (hclosed : (q.closed || c.closes) = true → q'.closed = true) (ha : a.taken = [])
    (hacc : a.accepted = false) (hev : a.evicted = none) (hc : c.offered = none)
    (hpops : c.pops = false) (hpush : ∀ y, c ≠ .push y) (hpop : c ≠ .pop)
    (htry : c ≠ .tryPop) :
    q.Serves c a q' where
  fifo := by simp [ha, hitems, entered, hacc]
  fits := fun ⟨hone, hlen⟩ => ⟨hcap ▸ hone, hcap ▸ hitems ▸ hlen⟩
  capacity := hcap
  mode := hmode
  closed := hclosed
  evicts := by simp [hev]
  dropOldest := fun _ y hy => absurd hy (hpush y)
  refused := by simp [hc]
  front := by simp [hpop, htry]
  empty := by simp [hpops]

/-- A push in `dropOldest` mode serves its caller. -/
theorem Bounded.pushEvicting_serves (hm : q.mode = .dropOldest) :
    q.Serves (.push x) (.pushed (q.pushEvicting x).1) (q.pushEvicting x).2 := by
  by_cases hc : q.closed
  · have hpush : q.pushEvicting x = (.rejected x, q) := by simp [Bounded.pushEvicting, hc]
    rw [hpush]
    refine ⟨by simp [Answer.taken, entered, Answer.accepted], id, rfl, rfl, by simp [hc],
      by simp [Answer.evicted], by simp [hc], by simp [Call.offered], by simp,
      by simp [Call.pops]⟩
  · obtain ⟨hk, hres, hitems⟩ := Bounded.pushEvicting_open (x := x) hc
    refine ⟨?_, ?_, hk.capacity, hk.mode, by simp [hc, Call.closes], fun _ => ⟨hm, x, rfl⟩,
      by simp [hres, hc], fun h => absurd h hc, by simp, by simp [Call.pops]⟩
    · rw [hres, hitems]
      by_cases hfull : q.capacity ≤ q.items.length
      · simp only [hfull, if_true]
        cases q.items <;> simp [Answer.taken, entered, Answer.accepted, Call.offered]
      · simp [hfull, Answer.taken, entered, Answer.accepted, Call.offered]
    · rintro ⟨hone, hlen⟩
      refine ⟨hk.capacity ▸ hone, ?_⟩
      rw [hitems, hk.capacity]
      by_cases hfull : q.capacity ≤ q.items.length
      · simp only [hfull, if_true, List.length_append, List.length_tail, List.length_singleton]
        omega
      · simp only [hfull, if_false, List.length_append, List.length_singleton]
        omega

/-- Every turn, at any queue, serves its caller. -/
theorem Bounded.call_serves (q : Bounded α) (c : Call α) :
    q.Serves c (q.call c).1 (q.call c).2 := by
  cases c with
  | push x =>
    cases hm : q.mode with
    | wait =>
      rcases hw : q.pushWaiting x 3 with ⟨p, q'⟩
      have hcall : q.call (.push x) = (.ofPush p, q') := by
        simp [Bounded.call, Bounded.push, hm, hw]
      obtain ⟨hk, hoff⟩ := Bounded.pushWaiting_cases hw
      rw [hcall]
      exact hoff.serves hk rfl fun _ _ => ⟨hm, rfl⟩
    | dropOldest =>
      have hcall : q.call (.push x) = (.pushed (q.pushEvicting x).1, (q.pushEvicting x).2) := by
        simp [Bounded.call, Bounded.push, hm, Answer.ofPush]
      rw [hcall]
      exact Bounded.pushEvicting_serves hm
  | pop =>
    rcases hw : q.popWaiting 3 with ⟨p, q'⟩
    have hcall : q.call .pop = (.ofPop p, q') := by simp [Bounded.call, Bounded.pop, hw]
    obtain ⟨hk, htaken⟩ := Bounded.popWaiting_cases hw
    rw [hcall]
    exact htaken.serves hk rfl fun _ => rfl
  | tryPop =>
    cases hi : q.items with
    | nil =>
      have hcall : q.call .tryPop = (.popped none, q) := by simp [Bounded.call, Bounded.tryPop, hi]
      rw [hcall]
      refine ⟨by simp [hi, Answer.taken, entered, Answer.accepted], id, rfl, rfl,
        by simp [Call.closes], by simp [Answer.evicted], by simp, by simp [Call.offered],
        by simp [hi], by simp [Call.pops]⟩
    | cons y ys =>
      have hcall : q.call .tryPop =
          (.popped (some y), { q with items := ys, notFull := q.notFull.wakeOne }) := by
        simp [Bounded.call, Bounded.tryPop, hi]
      rw [hcall]
      refine ⟨by simp [hi, Answer.taken, entered, Answer.accepted], ?_, rfl, rfl,
        by simp [Call.closes], by simp [Answer.evicted], by simp, by simp [Call.offered],
        by simp [hi], by simp [Call.pops]⟩
      rintro ⟨hone, hlen⟩
      simp only [hi, List.length_cons] at hlen
      exact ⟨hone, by simp; omega⟩
  | close =>
    exact Bounded.serves_of_quiet rfl rfl rfl (by simp [Bounded.call, Bounded.close]) rfl rfl rfl
      rfl rfl (by simp) (by simp) (by simp)
  | drain =>
    have hcall : q.call .drain = (.drained q.items, { q.close with items := [] }) := rfl
    rw [hcall]
    refine ⟨by simp [Answer.taken, entered, Answer.accepted], fun ⟨hone, _⟩ => ⟨hone, by simp⟩,
      rfl, rfl, by simp [Bounded.close], by simp [Answer.evicted], by simp,
      by simp [Call.offered], by simp, by simp [Call.pops]⟩
  | resume w =>
    cases w with
    | push x t =>
      rcases hr : q.resume (.push x t) with ⟨r, q'⟩
      have hcall : q.call (.resume (.push x t)) = (.ofResume r, q') := by
        simp [Bounded.call, hr]
      obtain ⟨hk, hoff⟩ := Bounded.resume_push_cases hr
      rw [hcall]
      exact hoff.serves hk rfl fun _ h => by simp at h
    | pop t =>
      rcases hr : q.resume (.pop t) with ⟨r, q'⟩
      have hcall : q.call (.resume (.pop t)) = (.ofResume r, q') := by
        simp [Bounded.call, hr]
      obtain ⟨hk, htaken⟩ := Bounded.resume_pop_cases hr
      rw [hcall]
      exact htaken.serves hk rfl fun h => by simp at h
  | abandon w =>
    cases w <;>
      exact Bounded.serves_of_quiet rfl rfl rfl
        (by simp [Bounded.call, Bounded.abandon, Call.closes]) rfl rfl rfl rfl rfl (by simp)
        (by simp) (by simp)

/-! ## Runs -/

@[simp] theorem Bounded.serve_nil (q : Bounded α) : q.serve [] = ([], q) := rfl

@[simp] theorem Bounded.serve_cons (q : Bounded α) (c : Call α) (cs : List (Call α)) :
    q.serve (c :: cs) =
      ((c, (q.call c).1) :: ((q.call c).2.serve cs).1, ((q.call c).2.serve cs).2) := rfl

theorem Bounded.serve_append (q : Bounded α) (cs cs' : List (Call α)) :
    (q.serve (cs ++ cs')).2 = ((q.serve cs).2.serve cs').2 := by
  induction cs generalizing q with
  | nil => rfl
  | cons c cs ih =>
    simp only [List.cons_append, Bounded.serve_cons]
    exact ih _

/-- Along a run, the items handed out followed by the items still queued are the items queued
at the start followed by the items that entered, in order. -/
theorem Bounded.serve_fifo (q : Bounded α) (cs : List (Call α)) :
    (q.serve cs).1.flatMap (·.2.taken) ++ (q.serve cs).2.items =
      q.items ++ (q.serve cs).1.flatMap entered := by
  induction cs generalizing q with
  | nil => simp
  | cons c cs ih =>
    have hstep := (q.call_serves c).fifo
    simp only [Bounded.serve_cons, List.flatMap_cons, List.append_assoc, ih]
    rw [← List.append_assoc, hstep, List.append_assoc]

/-- A run keeps the queue within its capacity. -/
theorem Bounded.serve_fits {q : Bounded α} (h : q.Fits) (cs : List (Call α)) :
    (q.serve cs).2.Fits := by
  induction cs generalizing q with
  | nil => exact h
  | cons c cs ih => exact ih ((q.call_serves c).fits h)

/-- A run keeps the capacity and the policy. -/
theorem Bounded.serve_keeps (q : Bounded α) (cs : List (Call α)) :
    (q.serve cs).2.capacity = q.capacity ∧ (q.serve cs).2.mode = q.mode := by
  induction cs generalizing q with
  | nil => exact ⟨rfl, rfl⟩
  | cons c cs ih =>
    obtain ⟨hcap, hmode⟩ := ih (q.call c).2
    exact ⟨hcap.trans (q.call_serves c).capacity, hmode.trans (q.call_serves c).mode⟩

/-- Once closed, a queue stays closed for the rest of the run. -/
theorem Bounded.serve_closed (q : Bounded α) (cs : List (Call α))
    (h : (q.closed || cs.any Call.closes) = true) : (q.serve cs).2.closed = true := by
  induction cs generalizing q with
  | nil => simpa using h
  | cons c cs ih =>
    apply ih
    have hnext := (q.call_serves c).closed
    simp only [List.any_cons, Bool.or_eq_true] at h hnext ⊢
    rcases h with h | h | h
    · exact .inl (hnext (.inl h))
    · exact .inl (hnext (.inr h))
    · exact .inr h

/-- A bounded queue served in the order of its lock is a linearizable FIFO: it never holds more
than its capacity, hands out the accepted pushes in order, stays closed once closed, and serves
each turn as `Bounded.Serves` says. -/
theorem serve_linearizable (c : Nat) (mode : FullMode) (calls : List (Call α)) :
    let run := (Bounded.new c mode : Bounded α).serve calls
    run.2.capacity = max c 1 ∧ run.2.mode = mode ∧ run.2.items.length ≤ max c 1 ∧
      run.1.flatMap (·.2.taken) ++ run.2.items = run.1.flatMap entered ∧
      (calls.any Call.closes = true → run.2.closed = true) ∧
      ∀ next, run.2.Serves next (run.2.call next).1 (run.2.call next).2 := by
  intro run
  have hnew : (Bounded.new c mode : Bounded α).Fits := ⟨Nat.le_max_right c 1, Nat.zero_le _⟩
  obtain ⟨hcap, hmode⟩ := Bounded.serve_keeps (Bounded.new c mode : Bounded α) calls
  have hfifo := Bounded.serve_fifo (Bounded.new c mode : Bounded α) calls
  rw [show (Bounded.new c mode : Bounded α).items = [] from rfl, List.nil_append] at hfifo
  refine ⟨hcap, hmode, ?_, hfifo, fun h => Bounded.serve_closed _ calls (by simp [h]),
    fun next => run.2.call_serves next⟩
  have hlen := (Bounded.serve_fits hnew calls).2
  rwa [hcap] at hlen

-- A queue of one in `dropOldest` mode: the second push evicts the first item, the pop takes the
-- second, and after the close a push is refused and hands out nothing.
example : ((Bounded.new 1 .dropOldest : Bounded Nat).serve
    [.push 1, .push 2, .pop, .close, .push 3]).1.map (·.2.taken) = [[], [1], [2], [], []] := by
  decide

end NetNode.Queue
