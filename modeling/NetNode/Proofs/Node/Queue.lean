import NetNode.Proofs.Node.Pace
import NetNode.Proofs.Queue.Linearizable

/-!
# A run's queue is a bounded queue

A run keeps its queue as a list: its producer pushes at the back, a worker takes from the front,
the producer's exit closes it and the stop that takes the run drains it. Each of these is a call
on a bounded queue of `NetNode.Queue.Bounded` with the plan's capacity and policy, whatever
callers wait on it: a bounded queue that shows the run's items and closedness before the move
shows them after the call (`Run.Shows`). So every move of a run's task changes its queue by calls
on a bounded queue (`Run.move_shows`): pushes and a close by the producer, a pop by a worker, and
a stop drains it (`Machine.beginStop_shows`). What `serve_linearizable` says of bounded queues
therefore holds of the queue of every run.
-/

namespace NetNode.Node

open NetNode.Queue

/-- A bounded queue shows a run's queue under a plan: the same items, closed alike, with the
plan's capacity and policy. -/
structure Run.Shows (plan : Plan) (r : Run) (q : Bounded Item) : Prop where
  items : q.items = r.queue
  closed : q.closed = r.closed
  capacity : q.capacity = plan.capacity
  mode : q.mode = plan.mode

variable {plan : Plan} {r : Run} {q : Bounded Item} {x : Item}

/-- A call keeps showing a run whose queue it leaves as the call leaves the items. -/
theorem Run.Shows.after {r' : Run} {c : Call Item} (h : r.Shows plan q)
    (hi : (q.call c).2.items = r'.queue) (hc : (q.call c).2.closed = r'.closed) :
    r'.Shows plan (q.call c).2 :=
  ⟨hi, hc, (q.call_serves c).capacity.trans h.capacity, (q.call_serves c).mode.trans h.mode⟩

theorem Run.Shows.serve_nil {r' : Run} (h : r.Shows plan q) (hi : r'.queue = r.queue)
    (hc : r'.closed = r.closed) : r'.Shows plan (q.serve []).2 :=
  ⟨h.items.trans hi.symm, h.closed.trans hc.symm, h.capacity, h.mode⟩

/-! ## What a push, a pop, a close and a drain do to the items -/

/-- A push keeps the queue's closedness. -/
theorem Bounded.call_push_closed (q : Bounded Item) (x : Item) :
    (q.call (.push x)).2.closed = q.closed := by
  cases hm : q.mode with
  | wait =>
    rcases hw : q.pushWaiting x 3 with ⟨p, q'⟩
    have hcall : q.call (.push x) = (.ofPush p, q') := by
      simp [Bounded.call, Bounded.push, hm, hw]
    rw [hcall]
    exact (Bounded.pushWaiting_cases hw).1.closed
  | dropOldest =>
    have hcall : q.call (.push x) = (.pushed (q.pushEvicting x).1, (q.pushEvicting x).2) := by
      simp [Bounded.call, Bounded.push, hm, Answer.ofPush]
    rw [hcall]
    by_cases hc : q.closed
    · simp [Bounded.pushEvicting, hc]
    · exact (Bounded.pushEvicting_open (x := x) hc).1.closed

/-- A push to a closed queue is refused and leaves the items. -/
theorem Bounded.call_push_of_closed (hc : q.closed = true) :
    (q.call (.push x)).2.items = q.items := by
  have h := (q.call_serves (.push x)).refused hc x rfl
  exact h.1

/-- A push to an open queue in `wait` mode puts the item at the back when there is room, and
otherwise waits and leaves the items. -/
theorem Bounded.call_push_wait (hm : q.mode = .wait) (hc : q.closed = false) :
    (q.items.length < q.capacity → (q.call (.push x)).2.items = q.items ++ [x]) ∧
      (q.capacity ≤ q.items.length → (q.call (.push x)).2.items = q.items) := by
  rcases hw : q.pushWaiting x 3 with ⟨p, q'⟩
  have hcall : q.call (.push x) = (.ofPush p, q') := by
    simp [Bounded.call, Bounded.push, hm, hw]
  rw [hcall]
  obtain ⟨-, hoff⟩ := Bounded.pushWaiting_cases hw
  rcases hoff with ⟨hc', -⟩ | ⟨-, hroom, -, hi⟩ | ⟨-, hi, hmore⟩
  · simp [hc] at hc'
  · exact ⟨fun _ => hi, fun hfull => absurd hroom (by omega)⟩
  · have hfull := (hmore (by decide)).2
    exact ⟨fun hroom => absurd hroom (by omega), fun _ => hi⟩

/-- A push to an open queue in `dropOldest` mode puts the item at the back, and evicts the
oldest item when the queue is full. -/
theorem Bounded.call_push_evicting (hm : q.mode = .dropOldest) (hc : q.closed = false) :
    (q.call (.push x)).2.items =
      (if q.capacity ≤ q.items.length then q.items.tail else q.items) ++ [x] := by
  have hcall : q.call (.push x) = (.pushed (q.pushEvicting x).1, (q.pushEvicting x).2) := by
    simp [Bounded.call, Bounded.push, hm, Answer.ofPush]
  rw [hcall]
  exact (Bounded.pushEvicting_open (x := x) (by simp [hc])).2.2

/-- A pop hands out the oldest item and keeps the rest, closed or not. -/
theorem Bounded.call_pop_cons {y : Item} {ys : List Item} (hi : q.items = y :: ys) :
    (q.call .pop).1 = .popped (some y) ∧ (q.call .pop).2.items = ys ∧
      (q.call .pop).2.closed = q.closed := by
  rcases hw : q.popWaiting 3 with ⟨p, q'⟩
  have hcall : q.call .pop = (.ofPop p, q') := by simp [Bounded.call, Bounded.pop, hw]
  rw [hcall]
  obtain ⟨hk, htaken⟩ := Bounded.popWaiting_cases hw
  rcases htaken with ⟨y', ys', hi', ha, hq'⟩ | ⟨hnil, -⟩ | ⟨-, -, hmore⟩
  · rw [hi] at hi'
    obtain ⟨rfl, rfl⟩ := List.cons.inj hi'
    exact ⟨ha, hq', hk.closed⟩
  · simp [hi] at hnil
  · simp [hi] at hmore

/-- A pop from a closed, empty queue ends with nothing. -/
theorem Bounded.call_pop_nil (hi : q.items = []) (hc : q.closed = true) :
    (q.call .pop).1 = .popped none ∧ (q.call .pop).2.items = [] ∧
      (q.call .pop).2.closed = true := by
  rcases hw : q.popWaiting 3 with ⟨p, q'⟩
  have hcall : q.call .pop = (.ofPop p, q') := by simp [Bounded.call, Bounded.pop, hw]
  rw [hcall]
  obtain ⟨hk, htaken⟩ := Bounded.popWaiting_cases hw
  rcases htaken with ⟨y', ys', hi', -⟩ | ⟨-, -, ha, hq'⟩ | ⟨-, -, hmore⟩
  · simp [hi] at hi'
  · exact ⟨ha, hq', hk.closed.trans hc⟩
  · simp [hc] at hmore

@[simp] theorem Bounded.call_close (q : Bounded Item) :
    q.call .close = (.closed, q.close) := rfl

@[simp] theorem Bounded.call_drain (q : Bounded Item) :
    q.call .drain = (.drained q.items, { q.close with items := [] }) := rfl

@[simp] theorem Bounded.serve_singleton (q : Bounded Item) (c : Call Item) :
    (q.serve [c]).2 = (q.call c).2 := rfl

/-! ## The producer's pushes and exit -/

/-- The producer's exit closes the queue unless it panicked: a close, or no call. -/
theorem Run.exit_shows (h : r.Shows plan q) (w : World) (e : Ending) :
    (r.exit w e).1.Shows plan (q.serve (if e.closes then [.close] else [])).2 := by
  obtain ⟨hb, p, hx⟩ := Run.exit_frame w r e
  rw [hx]
  cases hcl : e.closes with
  | true => exact ⟨h.items, by simp [Bounded.close], h.capacity, h.mode⟩
  | false => exact h.serve_nil rfl (by simp)

/-- The producer's push of a unit is a push on the bounded queue, followed by nothing: a refused
unit leaves a queue already closed. -/
theorem Run.enqueue_shows {w : World} (h : r.Shows w.plan q) (next : Nat) (item : Item) :
    (r.enqueue w next item).1.Shows w.plan (q.call (.push item)).2 := by
  have hcl := Bounded.call_push_closed q item
  unfold Run.enqueue
  split
  next hc =>
    -- a closed queue refuses the unit and stays closed
    obtain ⟨hb, p, hx⟩ := Run.exit_frame (w.discard [item]) r (.returned .cancelled)
    rw [hx]
    have hqc : q.closed = true := h.closed.trans hc
    exact h.after ((Bounded.call_push_of_closed hqc).trans h.items) (by simp [hcl, hqc, hc])
  next hc =>
    have hqc : q.closed = false := by simpa [h.closed] using hc
    split
    next hroom =>
      have hroom' : q.items.length < q.capacity := by rw [h.items, h.capacity]; exact hroom
      cases hm : w.plan.mode with
      | wait =>
        have hi := (Bounded.call_push_wait (x := item) (h.mode.trans hm) hqc).1 hroom'
        exact h.after (by rw [hi, h.items]) (by simp [hcl, h.closed])
      | dropOldest =>
        have hi := Bounded.call_push_evicting (x := item) (h.mode.trans hm) hqc
        rw [if_neg (by omega)] at hi
        exact h.after (by rw [hi, h.items]) (by simp [hcl, h.closed])
    next hfull =>
      have hfull' : q.capacity ≤ q.items.length := by rw [h.items, h.capacity]; omega
      split
      next old rest hm hq =>
        -- a full queue in `dropOldest` mode evicts its oldest unit
        have hi := Bounded.call_push_evicting (x := item) (h.mode.trans hm) hqc
        rw [if_pos hfull', h.items, hq, List.tail_cons] at hi
        split
        · obtain ⟨hb, p, hx⟩ := Run.exit_frame (w.discard [old])
            { r with queue := rest ++ [item] } .panicked
          rw [hx]
          exact h.after hi (by simp [hcl, h.closed, Ending.closes])
        · exact h.after hi (by simp [hcl, h.closed])
      next hm hq =>
        have hi := Bounded.call_push_evicting (x := item) (h.mode.trans hm) hqc
        rw [if_pos hfull', h.items, hq] at hi
        exact h.after hi (by simp [hcl, h.closed])
      next hm =>
        -- a full queue in `wait` mode makes the producer wait with the unit
        have hi := (Bounded.call_push_wait (x := item) (h.mode.trans hm) hqc).2 hfull'
        exact h.after (hi.trans h.items) (by simp [hcl, h.closed])

/-- The producer's request to the source changes the queue by a push of the unit it gets, by a
close when its loop returns, or not at all. -/
theorem Run.fetch_shows {w : World} (h : r.Shows w.plan q) (pos : Nat) :
    ∃ cs : List (Call Item), (r.fetch w pos).1.Shows w.plan (q.serve cs).2 ∧
      ∀ c ∈ cs, (∃ i, c = .push i) ∨ c = .close := by
  obtain ⟨hb, p, hhold⟩ := Run.holdBuffer_frame w r
  unfold Run.fetch
  rw [hhold]
  dsimp only
  split
  · exact ⟨[], h.serve_nil rfl rfl, by simp⟩
  next work _ =>
    refine ⟨[.push ⟨work, hb⟩], ?_, by simp⟩
    rw [Bounded.serve_singleton]
    exact Run.enqueue_shows (r := { r with holding := none })
      (w := { w with pool := p, stats := { w.stats with accepted := w.stats.accepted + 1 } })
      ⟨h.items, h.closed, h.capacity, h.mode⟩ (pos + 1) ⟨work, hb⟩
  next e cancel _ =>
    obtain ⟨h', p', hr⟩ := Run.returnBuffer_frame { w with pool := p } { r with holding := hb }
    obtain ⟨c, b, hc⟩ :=
      Run.cancelParent_frame { w with pool := p' } { r with holding := h' } cancel
    rw [hr]
    dsimp only
    rw [hc]
    dsimp only
    -- the run seen by the classifier keeps the queue of the request
    have h₁ : ({ r with holding := h', cancelled := c } : Run).Shows w.plan q :=
      ⟨h.items, h.closed, h.capacity, h.mode⟩
    split
    · exact ⟨[], h.serve_nil (by split <;> rfl) (by split <;> rfl), by simp⟩
    · exact ⟨[.close], Run.exit_shows h₁ _ (.returned _), by simp⟩
    · exact ⟨[.close], Run.exit_shows h₁ _ (.returned _), by simp⟩
  next =>
    -- a panic of the source leaves the queue open
    have hx := Run.exit_shows (r := { r with holding := hb })
      ⟨h.items, h.closed, h.capacity, h.mode⟩ { w with pool := p } .panicked
    simp only [Ending.closes, Bool.false_eq_true, if_false] at hx
    exact ⟨[], hx, by simp⟩
  next => exact ⟨[], h.serve_nil rfl rfl, by simp⟩
  next => exact ⟨[], h.serve_nil rfl rfl, by simp⟩

/-- A move of the producer changes the queue by pushes and a close. -/
theorem Run.stepProducer_shows {w : World} {x : Run × World} (hs : r.stepProducer w = some x)
    (h : r.Shows w.plan q) :
    ∃ cs : List (Call Item), x.1.Shows w.plan (q.serve cs).2 ∧
      ∀ c ∈ cs, (∃ i, c = .push i) ∨ c = .close := by
  rcases Run.stepProducer_cases hs with
    ⟨next, item, -, ⟨-, rfl⟩ | ⟨hcc, hroom, rfl⟩⟩ | ⟨-, ⟨-, rfl⟩ | ⟨hc, pos, ⟨-, rfl⟩ | rfl⟩⟩
  · exact ⟨[.close], Run.exit_shows h _ (.returned .cancelled), by simp⟩
  · -- a unit waiting for room goes in once there is room
    refine ⟨[.push item], ?_, by simp⟩
    rw [Bounded.serve_singleton]
    have hqc : q.closed = false := by
      rw [h.closed]
      simp only [Bool.or_eq_false_iff] at hcc
      exact hcc.2
    have hroom' : q.items.length < q.capacity := by rw [h.items, h.capacity]; exact hroom
    have hi : (q.call (.push item)).2.items = q.items ++ [item] := by
      cases hm : w.plan.mode with
      | wait => exact (Bounded.call_push_wait (h.mode.trans hm) hqc).1 hroom'
      | dropOldest =>
        rw [Bounded.call_push_evicting (h.mode.trans hm) hqc, if_neg (by omega)]
    exact h.after (by rw [hi, h.items]) (by rw [Bounded.call_push_closed, h.closed])
  · exact ⟨[.close], Run.exit_shows h _ (.returned .cancelled), by simp⟩
  · exact Run.fetch_shows h pos
  · exact ⟨[], h.serve_nil rfl rfl, by simp⟩

/-! ## The workers' pops -/

/-- A move of a worker pops the queue, or leaves it alone. -/
theorem Run.stepWorker_shows {w : World} {i : Nat} {x : Run × World}
    (hs : r.stepWorker w i = some x) (h : r.Shows w.plan q) :
    ∃ cs : List (Call Item), x.1.Shows w.plan (q.serve cs).2 ∧ ∀ c ∈ cs, c = .pop := by
  have hclosed : x.1.closed = r.closed := (Run.stepWorker_leavesProducer hs).2.2
  unfold Run.stepWorker at hs
  split at hs
  next =>
    split at hs
    · cases hs
      exact ⟨[], h.serve_nil rfl rfl, by simp⟩
    next hc =>
      split at hs
      next item rest hq =>
        -- an idle worker takes the oldest unit, as a pop hands it out
        cases hs
        obtain ⟨-, -, -, hq', -⟩ := Run.take_steady w { r with queue := rest } i item
        obtain ⟨-, hi, hcl⟩ := Bounded.call_pop_cons (h.items.trans hq)
        refine ⟨[.pop], ?_, by simp⟩
        rw [Bounded.serve_singleton]
        exact h.after (hi.trans hq'.symm) (hcl.trans (h.closed.trans hclosed.symm))
      next hq =>
        split at hs <;> cases hs
        next hcl =>
          -- a closed, empty queue ends the worker, as a pop finds nothing
          obtain ⟨-, hi, hcl'⟩ := Bounded.call_pop_nil (h.items.trans hq) (h.closed.trans hcl)
          refine ⟨[.pop], ?_, by simp⟩
          rw [Bounded.serve_singleton]
          exact h.after (hi.trans hq.symm) (hcl'.trans hcl.symm)
  next job _ =>
    obtain ⟨rs, fl, -, hf⟩ := Run.finish_frame w r job
    rw [hf] at hs
    split at hs <;> cases hs
    exact ⟨[], h.serve_nil rfl rfl, by simp⟩
  next item _ =>
    split at hs
    · cases hs
      exact ⟨[], h.serve_nil rfl rfl, by simp⟩
    · split at hs
      · split at hs
        · cases hs
          obtain ⟨-, -, -, hq', -⟩ :=
            Run.spawn_steady w { r with permits := some _, waiters := _ } item
          exact ⟨[], h.serve_nil hq' hclosed, by simp⟩
        · cases hs
      · cases hs
  next => cases hs

/-- Every move of a run's task changes its queue by calls on a bounded queue that showed it:
pushes and a close by the producer, pops by a worker, and none by a dispatched unit. -/
theorem Run.move_shows {w : World} {t : Task} {x : Run × World} (hs : r.move w t = some x)
    (h : r.Shows w.plan q) :
    ∃ cs : List (Call Item), x.1.Shows w.plan (q.serve cs).2 ∧
      (t = .producer → ∀ c ∈ cs, (∃ i, c = .push i) ∨ c = .close) ∧
      (t ≠ .producer → ∀ c ∈ cs, c = .pop) := by
  cases t with
  | producer =>
    obtain ⟨cs, hx, hcs⟩ := Run.stepProducer_shows hs h
    exact ⟨cs, hx, fun _ => hcs, fun hne => absurd rfl hne⟩
  | worker i =>
    obtain ⟨cs, hx, hcs⟩ := Run.stepWorker_shows hs h
    exact ⟨cs, hx, fun hp => (by cases hp), fun _ => hcs⟩
  | dispatched k =>
    refine ⟨[], h.serve_nil (Run.stepDispatched_queue hs)
      (Run.stepDispatched_leavesProducer hs).2.2, fun hp => (by cases hp), fun _ => (by simp)⟩

/-- Along any moves of a run's tasks, its queue is that of a bounded queue that showed it, after
a sequence of pushes, pops and closes. -/
theorem Run.runTasks_shows {w : World} (h : r.Shows w.plan q) (ts : List Task) :
    ∃ cs : List (Call Item), (r.runTasks w ts).1.Shows w.plan (q.serve cs).2 ∧
      ∀ c ∈ cs, (∃ i, c = .push i) ∨ c = .close ∨ c = .pop := by
  induction ts generalizing r w q with
  | nil => exact ⟨[], h.serve_nil rfl rfl, by simp⟩
  | cons t ts ih =>
    cases hm : r.move w t with
    | none =>
      simp only [Run.runTasks_cons, hm, Option.getD_none]
      exact ih h
    | some x =>
      -- the move is calls on the queue, and the moves after it are more
      obtain ⟨cs, hx, hprod, hwork⟩ := Run.move_shows hm h
      have hplan : x.2.plan = w.plan := (Run.move_tally hm).plan
      obtain ⟨cs', hx', hcs'⟩ := ih (w := x.2) (r := x.1) (hplan ▸ hx)
      refine ⟨cs ++ cs', ?_, ?_⟩
      · simp only [Run.runTasks_cons, hm, Option.getD_some, Bounded.serve_append]
        exact hplan ▸ hx'
      · intro c hc
        rcases List.mem_append.mp hc with hc | hc
        · by_cases ht : t = .producer
          · rcases hprod ht c hc with hp | hp
            · exact .inl hp
            · exact .inr (.inl hp)
          · exact .inr (.inr (hwork ht c hc))
        · exact hcs' c hc

/-! ## A stop drains the queue -/

/-- The stop that takes a run cancels it and drains its queue: a drain hands out the units it
drops and leaves the queue closed and empty. -/
theorem Run.drain_shows (h : r.Shows plan q) :
    ({ r with cancelled := true, queue := [], closed := true } : Run).Shows plan
        (q.call .drain).2 ∧ (q.call .drain).1 = .drained r.queue := by
  refine ⟨⟨?_, ?_, h.capacity, h.mode⟩, ?_⟩ <;> simp [Bounded.close, h.items]

/-- A stop that takes the running run leaves the run being stopped as a drain leaves a queue that
showed the run's, and drops exactly the units the drain hands out. -/
theorem Machine.beginStop_shows {m : Machine} {r : Run} (h : r.Shows m.world.plan q) :
    ∃ s, (m.beginStop r).stopping = some s ∧ s.run.Shows m.world.plan (q.call .drain).2 ∧
      (q.call .drain).1 = .drained r.queue ∧
      (m.beginStop r).world.stats.dropped = m.world.stats.dropped + r.queue.length :=
  ⟨_, rfl, (Run.drain_shows h).1, (Run.drain_shows h).2, by simp [Machine.beginStop]⟩

end NetNode.Node
