import NetNode.Proofs.Node.Permits

/-!
# The producer reads its script once, in order

The producer stands at the position of the next answer it asks its source for, until it waits
past the script's end or ends. `producer_loop` says what one answer does; here the moves of a
run's tasks are followed in any order and any number: the producer asks for the answers at
consecutive positions from where it stood, each once, and the units counted accepted are exactly
those its answers delivered (`Run.runTasks_reads`). The step lemma is `Run.move_reads`: a move of
the producer either asks for the answer at its position and goes on at the next one, or asks
nothing and keeps its position, and either may end the producer instead; a move of a worker or
of a dispatched unit asks nothing and counts nothing accepted.
-/

namespace NetNode.Node

/-- The position of the next answer the producer asks its source for, while it pauses, waits at
a gate, backs off or pushes a unit; none once it waits past the script's end or has ended. -/
def Producer.position? : Producer → Option Nat
  | .fetch pos | .pausing pos _ | .gated pos _ _ _ | .backingOff pos _ | .pushing pos _ => some pos
  | .parked | .finished => none

/-- Whether an answer of the source is a unit of work. -/
def Event.delivers : Event → Bool
  | .deliver _ => true
  | _ => false

/-- The units the script delivers at the positions `ps`. -/
def Plan.delivered (plan : Plan) (ps : List Nat) : Nat :=
  ps.countP fun p => (plan.script[p]?).any Event.delivers

theorem Plan.delivered_cons (plan : Plan) (p : Nat) (ps : List Nat) :
    plan.delivered (p :: ps) = plan.delivered [p] + plan.delivered ps := by
  simp only [Plan.delivered, List.countP_cons, List.countP_nil]
  omega

/-- The position whose answer the move `t` asks the source for: the producer's, when it asks
from a run that is not cancelled and the script has an answer there. -/
def Run.asks (w : World) (r : Run) : Task → Option Nat
  | .producer =>
    match r.producer with
    | .fetch pos => if r.cancelled = false ∧ pos < w.plan.script.length then some pos else none
    | _ => none
  | _ => none

/-- The positions whose answers the producer asks for along moves of a run's tasks, in order; a
move that cannot be made asks nothing. -/
def Run.answered (w : World) (r : Run) : List Task → List Nat
  | [] => []
  | t :: ts =>
    let x := (r.move w t).getD (r, w)
    (r.asks w t).toList ++ x.1.answered x.2 ts

@[simp] theorem Run.answered_nil (w : World) (r : Run) : r.answered w [] = [] := rfl

@[simp] theorem Run.answered_cons (w : World) (r : Run) (t : Task) (ts : List Task) :
    r.answered w (t :: ts) =
      (r.asks w t).toList ++ ((r.move w t).getD (r, w)).1.answered ((r.move w t).getD (r, w)).2 ts :=
  rfl

/-! ## Moves that ask nothing of the source -/

@[simp] theorem Run.finish_accepted (w : World) (r : Run) (job : Job) :
    (r.finish w job).2.stats.accepted = w.stats.accepted := by
  obtain ⟨rs, fl, -, hf⟩ := Run.finish_frame w r job
  rw [hf]

@[simp] theorem Run.begin_accepted (w : World) (r : Run) (item : Item) :
    (r.begin w item).2.2.stats.accepted = w.stats.accepted := by
  rcases Run.begin_cases w r item with ⟨-, h⟩ | ⟨-, ⟨j, -, h⟩ | ⟨j, -, h⟩⟩ <;> rw [h] <;> simp

@[simp] theorem Run.spawn_accepted (w : World) (r : Run) (item : Item) :
    (r.spawn w item).2.stats.accepted = w.stats.accepted := by
  have h := Run.begin_accepted w r item
  unfold Run.spawn
  split
  all_goals
    next heq =>
      rw [heq] at h
      exact h

@[simp] theorem Run.take_accepted (w : World) (r : Run) (i : Nat) (item : Item) :
    (r.take w i item).2.stats.accepted = w.stats.accepted := by
  have h := Run.begin_accepted w r item
  unfold Run.take
  split
  · split
    all_goals
      next heq =>
        rw [heq] at h
        exact h
  · split
    · simp
    · rfl
  · rfl

/-- A worker's move counts no unit accepted. -/
theorem Run.stepWorker_accepted {w : World} {r : Run} {i : Nat} {x : Run × World}
    (h : r.stepWorker w i = some x) : x.2.stats.accepted = w.stats.accepted := by
  unfold Run.stepWorker at h
  split at h
  next =>
    split at h
    · cases h
      rfl
    · split at h
      next item rest _ =>
        cases h
        exact Run.take_accepted w _ i item
      next =>
        split at h <;> cases h
        rfl
  next job _ =>
    obtain ⟨rs, fl, -, hf⟩ := Run.finish_frame w r job
    rw [hf] at h
    split at h <;> cases h
    rfl
  next item _ =>
    split at h
    · cases h
      simp
    · split at h
      next =>
        split at h
        · cases h
          exact Run.spawn_accepted w _ item
        · cases h
      · cases h
  next => cases h

/-- A dispatched unit's move counts no unit accepted. -/
theorem Run.stepDispatched_accepted {w : World} {r : Run} {k : Nat} {x : Run × World}
    (h : r.stepDispatched w k = some x) : x.2.stats.accepted = w.stats.accepted := by
  unfold Run.stepDispatched at h
  split at h
  next job _ =>
    obtain ⟨rs, fl, -, hf⟩ :=
      Run.finish_frame w { r with dispatched := r.dispatched.eraseIdx k } job
    rw [hf] at h
    split at h <;> cases h
    rfl
  next => cases h

/-! ## One move -/

/-- What a move from `(r, w)` to `x` does to the producer's reading of its script, `asked`
being the position whose answer it asks for: the producer stood there, and goes on at the next
position; a move that asks nothing keeps the producer where it stood. Either may end the
producer instead. Only the answer asked for counts a unit accepted, if it delivered one; the
plan stays. -/
structure Run.Reads (w : World) (r : Run) (asked : Option Nat) (x : Run × World) : Prop where
  stood : ∀ p ∈ asked, r.producer.position? = some p
  next : x.1.producer.position? = none ∨
    x.1.producer.position? = (asked.map (· + 1)).or r.producer.position?
  accepted : x.2.stats.accepted = w.stats.accepted + w.plan.delivered asked.toList
  plan : x.2.plan = w.plan

/-- A move that asks nothing, counts nothing accepted and keeps the plan reads nothing. -/
theorem Run.Reads.asksNothing {w : World} {r : Run} {x : Run × World}
    (hpos : x.1.producer.position? = none ∨ x.1.producer.position? = r.producer.position?)
    (hacc : x.2.stats.accepted = w.stats.accepted) (hplan : x.2.plan = w.plan) :
    Run.Reads w r none x :=
  ⟨fun _ hp => (by cases hp), by simpa using hpos, by simpa [Plan.delivered] using hacc, hplan⟩

/-- The producer ends by its move. -/
theorem Run.Reads.exit {w : World} {r : Run} (w' : World) (e : Ending)
    (hacc : w'.stats.accepted = w.stats.accepted) (hplan : w'.plan = w.plan) :
    Run.Reads w r none (r.exit w' e) := by
  obtain ⟨h, p, hx⟩ := Run.exit_frame w' r e
  rw [hx]
  exact .asksNothing (.inl rfl) hacc hplan

/-- The answer at the producer's position `pos`, handled as `Run.Handles` says, is read once:
the producer goes on at the next position or ends, and its unit, if any, is counted accepted. -/
theorem Run.Handles.reads {w : World} {r : Run} {pos : Nat} {x : Run × World}
    (hp : r.producer = .fetch pos) (hlt : pos < w.plan.script.length) (hplan : x.2.plan = w.plan)
    (h : Run.Handles w r pos x) : Run.Reads w r (some pos) x := by
  have hstood : ∀ p ∈ some pos, r.producer.position? = some p := by
    intro p hp'
    cases hp'
    simp [hp, Producer.position?]
  obtain ⟨e, he⟩ : ∃ e, w.plan.script[pos]? = some e := ⟨_, List.getElem?_eq_getElem hlt⟩
  -- the next position, or an ended producer, as each answer leaves it
  have hnext : ∀ p : Producer, p.position? = none ∨ p.position? = some (pos + 1) →
      p.position? = none ∨ p.position? = ((some pos).map (· + 1)).or r.producer.position? := by
    intro p hp'
    simpa using hp'
  -- only a delivered unit counts
  have hcount : w.plan.delivered [pos] = if e.delivers then 1 else 0 := by
    simp [Plan.delivered, he, List.countP_cons]
  unfold Run.Handles at h
  rw [he] at h
  cases e with
  | deliver work =>
    obtain ⟨loan, ho⟩ := h
    refine ⟨hstood, hnext _ ?_, ?_, hplan⟩
    · rcases ho with ⟨-, ⟨hfin, -⟩, -⟩ | ⟨-, -, -, hpr, -⟩ | ⟨-, -, -, -, -, ⟨-, hpr⟩ | ⟨-, hfin, -⟩⟩ |
        ⟨-, -, -, -, hpr, -⟩
      · exact .inl (by simp [hfin, Producer.position?])
      · exact .inr (by simp [hpr, Producer.position?])
      · exact .inr (by simp [hpr, Producer.position?])
      · exact .inl (by simp [hfin, Producer.position?])
      · exact .inr (by simp [hpr, Producer.position?])
    · simp only [Option.toList_some, hcount, Event.delivers, if_true]
      rcases ho with ⟨-, -, hs⟩ | ⟨-, -, -, -, hs⟩ | ⟨-, -, -, -, hs, -⟩ | ⟨-, -, -, -, -, hs⟩
      all_goals simp [hs]
  | failure err cancel =>
    obtain ⟨-, hcls⟩ := h
    refine ⟨hstood, hnext _ ?_, ?_, hplan⟩
    · split at hcls
      · obtain ⟨-, hpr⟩ := hcls
        rw [hpr]
        split <;> simp [Producer.position?]
      · exact .inl (by simp [hcls.1.1, Producer.position?])
      · exact .inl (by simp [hcls.1.1, Producer.position?])
    · simp only [Option.toList_some, hcount, Event.delivers, Bool.false_eq_true, if_false,
        Nat.add_zero]
      split at hcls
      · simp [hcls.1]
      · rw [hcls.2]
      · rw [hcls.2]
  | crash msg =>
    obtain ⟨⟨hfin, -⟩, hs⟩ := h
    exact ⟨hstood, .inl (by simp [hfin, Producer.position?]), by simp [hs, hcount, Event.delivers],
      hplan⟩
  | pause ms =>
    obtain ⟨hpr, hs⟩ := h
    exact ⟨hstood, hnext _ (.inr (by simp [hpr, Producer.position?])),
      by simp [hs, hcount, Event.delivers], hplan⟩
  | gate k n =>
    obtain ⟨hpr, hs⟩ := h
    exact ⟨hstood, hnext _ (.inr (by simp [hpr, Producer.position?])),
      by simp [hs, hcount, Event.delivers], hplan⟩

/-- A move of the producer reads its script as `Run.Reads` says. -/
theorem Run.stepProducer_reads {w : World} {r : Run} {x : Run × World}
    (h : r.stepProducer w = some x) : Run.Reads w r (r.asks w .producer) x := by
  have hplan : x.2.plan = w.plan := (Run.stepProducer_sameTasks h).2
  cases hpr : r.producer with
  | finished => simp [Run.stepProducer, hpr] at h
  | fetch pos =>
    cases hc : r.cancelled with
    | true =>
      have hx : x = r.exit w (.returned .cancelled) := by
        simp [Run.stepProducer, hpr, hc] at h
        exact h.symm
      have hask : r.asks w .producer = none := by simp [Run.asks, hpr, hc]
      rw [hask, hx]
      exact .exit w _ rfl rfl
    | false =>
      have hx : x = r.fetch w pos := by
        simp [Run.stepProducer, hpr, hc] at h
        exact h.symm
      have hh := Run.fetch_handles w r pos
      rw [← hx] at hh
      by_cases hlt : pos < w.plan.script.length
      · have hask : r.asks w .producer = some pos := by simp [Run.asks, hpr, hc, hlt]
        rw [hask]
        exact hh.reads hpr hlt hplan
      · -- past the script's end the source waits forever: the producer parks
        have hask : r.asks w .producer = none := by simp [Run.asks, hpr, hc, hlt]
        have hnone : w.plan.script[pos]? = none := List.getElem?_eq_none (Nat.le_of_not_lt hlt)
        unfold Run.Handles at hh
        rw [hnone] at hh
        rw [hask]
        exact .asksNothing (.inl (by simp [hh.1, Producer.position?])) (by rw [hh.2]) hplan
  | pushing next item =>
    have hask : r.asks w .producer = none := by simp [Run.asks, hpr]
    rw [hask]
    simp only [Run.stepProducer, hpr] at h
    split at h
    · cases h
      exact .exit _ _ (by simp) (World.discard_plan w [item])
    · split at h
      · cases h
        exact .asksNothing (.inr (by simp [hpr, Producer.position?])) rfl rfl
      · cases h
  | pausing pos t | backingOff pos t | gated pos k n d =>
    -- a producer held before its position exits once cancelled, or goes back to the position
    have hask : r.asks w .producer = none := by simp [Run.asks, hpr]
    rw [hask]
    simp only [Run.stepProducer, hpr] at h
    split at h
    · cases h
      exact .exit _ _ rfl rfl
    · split at h
      · cases h
        exact .asksNothing (.inr (by simp [hpr, Producer.position?])) rfl rfl
      · cases h
  | parked =>
    have hask : r.asks w .producer = none := by simp [Run.asks, hpr]
    rw [hask]
    simp only [Run.stepProducer, hpr] at h
    split at h
    · cases h
      exact .exit _ _ rfl rfl
    · cases h

/-- Every move of a run's tasks reads the producer's script as `Run.Reads` says, and a move that
cannot be made reads nothing. -/
theorem Run.move_reads (w : World) (r : Run) (t : Task) :
    Run.Reads w r (r.asks w t) ((r.move w t).getD (r, w)) := by
  cases hm : r.move w t with
  | none =>
    -- only a producer at a position asks, and it always moves
    have hask : r.asks w t = none := by
      cases t with
      | producer =>
        cases hpr : r.producer with
        | fetch pos =>
          simp only [Run.asks, hpr]
          split
          next hc => simp [Run.move, Run.stepProducer, hpr, hc.1] at hm
          next => rfl
        | _ => simp [Run.asks, hpr]
      | worker i => rfl
      | dispatched k => rfl
    rw [hask]
    exact .asksNothing (.inr rfl) rfl rfl
  | some x =>
    have hplan : x.2.plan = w.plan := (Run.move_tally hm).plan
    cases t with
    | producer => exact Run.stepProducer_reads hm
    | worker i =>
      have hp := (Run.stepWorker_leavesProducer hm).1
      rw [Option.getD_some]
      exact .asksNothing (.inr (by rw [hp])) (Run.stepWorker_accepted hm) hplan
    | dispatched k =>
      have hp := (Run.stepDispatched_leavesProducer hm).1
      rw [Option.getD_some]
      exact .asksNothing (.inr (by rw [hp])) (Run.stepDispatched_accepted hm) hplan

/-! ## A whole run -/

/-- A producer that has ended, or waits past the script's end, asks nothing more and counts
nothing more accepted, whatever the run's tasks do. -/
theorem Run.runTasks_reads_none {w : World} {r : Run} (hp : r.producer.position? = none)
    (ts : List Task) :
    r.answered w ts = [] ∧ (r.runTasks w ts).2.stats.accepted = w.stats.accepted ∧
      (r.runTasks w ts).1.producer.position? = none := by
  induction ts generalizing r w with
  | nil => exact ⟨rfl, rfl, hp⟩
  | cons t ts ih =>
    have hx := Run.move_reads w r t
    -- a producer with no position asks for nothing
    have hask : r.asks w t = none := by
      cases hq : r.asks w t with
      | none => rfl
      | some p => simp [hx.stood p (by simp [hq])] at hp
    rw [hask] at hx
    have hpos : ((r.move w t).getD (r, w)).1.producer.position? = none := by
      rcases hx.next with h | h
      · exact h
      · simpa [hp] using h
    obtain ⟨ha, hacc, hend⟩ := ih (w := ((r.move w t).getD (r, w)).2) hpos
    refine ⟨by simp [hask, ha], ?_, hend⟩
    rw [Run.runTasks_cons, hacc, hx.accepted]
    simp [Plan.delivered]

/-- Along any moves of a run's tasks, in any order, the producer standing at `pos` asks for the
answers at `pos`, `pos + 1`, … in turn, each once, and the units counted accepted are exactly the
units among them; it then stands at the next position, or has ended. -/
theorem Run.runTasks_reads {w : World} {r : Run} {pos : Nat} (hp : r.producer.position? = some pos)
    (ts : List Task) :
    ∃ n, r.answered w ts = List.range' pos n ∧
      (r.runTasks w ts).2.stats.accepted = w.stats.accepted + w.plan.delivered (List.range' pos n) ∧
      ((r.runTasks w ts).1.producer.position? = some (pos + n) ∨
        (r.runTasks w ts).1.producer.position? = none) := by
  -- induction on the moves, with the producer's absolute position carried along
  induction ts generalizing r w pos with
  | nil => exact ⟨0, rfl, by simp [Plan.delivered], .inl hp⟩
  | cons t ts ih =>
    have hx := Run.move_reads w r t
    set x := (r.move w t).getD (r, w) with hxdef
    have hrun : r.runTasks w (t :: ts) = x.1.runTasks x.2 ts := rfl
    rw [Run.answered_cons, ← hxdef, hrun]
    cases hask : r.asks w t with
    | none =>
      rw [hask] at hx
      have hacc : x.2.stats.accepted = w.stats.accepted := by
        simpa [Plan.delivered] using hx.accepted
      rcases hx.next with hend | hkeep
      · -- the producer ended: nothing more is asked
        obtain ⟨ha, hacc', hend'⟩ := Run.runTasks_reads_none (w := x.2) hend ts
        exact ⟨0, by simp [ha], by simp [hacc', hacc, Plan.delivered], .inr hend'⟩
      · obtain ⟨n, ha, hacc', hpos⟩ := ih (w := x.2) (by simpa [hp] using hkeep)
        refine ⟨n, by simp [ha], ?_, hpos⟩
        rw [hacc', hacc, hx.plan]
    | some p =>
      rw [hask] at hx
      have hpp : p = pos := by
        have := hx.stood p rfl
        rw [hp] at this
        exact (Option.some.inj this).symm
      subst hpp
      have hacc : x.2.stats.accepted = w.stats.accepted + w.plan.delivered [p] := by
        simpa using hx.accepted
      rcases hx.next with hend | hnext
      · obtain ⟨ha, hacc', hend'⟩ := Run.runTasks_reads_none (w := x.2) hend ts
        exact ⟨1, by simp [ha], by simp [hacc', hacc], .inr hend'⟩
      · obtain ⟨n, ha, hacc', hpos⟩ := ih (w := x.2) (show x.1.producer.position? = some (p + 1) by simpa using hnext)
        refine ⟨n + 1, by simp [ha, List.range'_succ], ?_, ?_⟩
        · rw [hx.plan] at hacc'
          rw [hacc', hacc, List.range'_succ, Plan.delivered_cons w.plan p (List.range' (p + 1) n)]
          omega
        · rcases hpos with h | h
          · exact .inl (by rw [h]; congr 1; omega)
          · exact .inr h

end NetNode.Node
