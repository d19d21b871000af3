import NetNode.Proofs.Node.Loans
import NetNode.Proofs.Node.Isolation

/-!
# The producer's loop

The producer of a run asks its source for one answer after another and acts on each: a unit is
counted accepted and pushed into the queue, a failure is classified, a pause or a gate holds it.
It checks for cancellation before each request, while it waits for room in the queue, and while
it pauses after a failure that signals exhausted resources. Its loop returns the reason it
ended (cancellation, a socket closed without cancellation, a critical failure) and closes the
queue; a panic skips the close, and only the stop the producer asks for closes the queue then.

The main statement, `producer_loop`, says for one move of the producer of any run, for any
script of answers, in both modes of a full queue and whether or not the run is cancelled, what
the move does: `Run.Handles` gives the rules for one answer of the source and `Run.Offered`
those for a unit offered to the queue. With it comes `Machine.closed_after_exit`: along every
interleaving of a node, the queue of a run whose producer has ended is closed, save while a
producer that panicked waits for its stop.
-/

namespace NetNode.Node

open NetNode.Pool

/-! ## How the producer ends -/

/-- The producer's loop returned `why` in the move from `(r, w)` to `x`: the producer is gone,
how it ended recorded, its queue closed and left as it was, and a stop of its run asked for. -/
def Run.Returned (w : World) (r : Run) (why : ProducerExit) (x : Run × World) : Prop :=
  x.1.producer = .finished ∧ x.1.ending = some (.returned why) ∧ x.1.closed = true ∧
    x.1.queue = r.queue ∧ x.2.selfStops = w.selfStops ++ [r.generation]

/-- The producer panicked in the move from `(r, w)` to `x`, which its task reports as a critical
exit: it is gone, the queue is left open or closed as it was, and a stop of its run is asked for
all the same. -/
def Run.Panicked (w : World) (r : Run) (x : Run × World) : Prop :=
  x.1.producer = .finished ∧ x.1.ending = some .panicked ∧ x.1.closed = r.closed ∧
    x.2.selfStops = w.selfStops ++ [r.generation]

theorem Run.exit_returned (w : World) (r : Run) (why : ProducerExit) :
    Run.Returned w r why (r.exit w (.returned why)) := by
  obtain ⟨h, p, hx⟩ := Run.exit_frame w r (.returned why)
  rw [hx]
  exact ⟨rfl, rfl, by simp [Ending.closes], rfl, rfl⟩

theorem Run.exit_panicked (w : World) (r : Run) : Run.Panicked w r (r.exit w .panicked) := by
  obtain ⟨h, p, hx⟩ := Run.exit_frame w r .panicked
  rw [hx]
  exact ⟨rfl, rfl, by simp [Ending.closes], rfl⟩

theorem Run.exit_cancelled (w : World) (r : Run) (e : Ending) :
    (r.exit w e).1.cancelled = r.cancelled := by
  obtain ⟨h, p, hx⟩ := Run.exit_frame w r e
  rw [hx]

/-! ## A unit offered to the queue -/

/-- What becomes of the unit `item` the producer offers to the queue before it goes on at
`next`. A closed queue refuses it: the unit is dropped and the loop ends as cancelled. A queue
with room takes it at the back. A full queue in `dropOldest` mode takes it at the back in place
of its oldest unit, which is dropped; the producer panics if that unit's peer does when the
eviction is logged. A full queue in `wait` mode makes the producer wait with the unit. -/
def Run.Offered (w : World) (r : Run) (next : Nat) (item : Item) (x : Run × World) : Prop :=
  (r.closed = true ∧ Run.Returned w r .cancelled x ∧
    x.2.stats = { w.stats with dropped := w.stats.dropped + 1 }) ∨
  (r.closed = false ∧ r.queue.length < w.plan.capacity ∧ x.1.queue = r.queue ++ [item] ∧
    x.1.producer = .fetch next ∧ x.2.stats = w.stats) ∨
  (r.closed = false ∧ w.plan.capacity ≤ r.queue.length ∧ w.plan.mode = .dropOldest ∧
    x.1.queue = r.queue.drop 1 ++ [item] ∧
    x.2.stats = { w.stats with dropped := w.stats.dropped + (r.queue.take 1).length } ∧
    ((∀ old ∈ r.queue.head?, old.work.behavior ≠ .remotePanic) ∧
        x.1.producer = .fetch next ∨
      (∃ old ∈ r.queue.head?, old.work.behavior = .remotePanic) ∧ Run.Panicked w r x)) ∨
  (r.closed = false ∧ w.plan.capacity ≤ r.queue.length ∧ w.plan.mode = .wait ∧
    x.1.queue = r.queue ∧ x.1.producer = .pushing next item ∧ x.2.stats = w.stats)

theorem Run.enqueue_offered (w : World) (r : Run) (next : Nat) (item : Item) :
    Run.Offered w r next item (r.enqueue w next item) := by
  unfold Run.enqueue
  split
  next hc =>
    -- the returned producer sees the world with the unit dropped
    have hx := Run.exit_returned (w.discard [item]) r .cancelled
    refine .inl ⟨hc, ?_, by simp⟩
    obtain ⟨h1, h2, h3, h4, h5⟩ := hx
    exact ⟨h1, h2, h3, h4, by simpa using h5⟩
  next hc =>
    have hc : r.closed = false := by simpa using hc
    split
    next hroom => exact .inr (.inl ⟨hc, hroom, rfl, rfl, rfl⟩)
    next hfull =>
      have hfull : w.plan.capacity ≤ r.queue.length := by omega
      split
      next old rest hmode hq =>
        refine .inr (.inr (.inl ⟨hc, hfull, hmode, ?_⟩))
        split
        next hpanic =>
          have hx := Run.exit_panicked (w.discard [old]) { r with queue := rest ++ [item] }
          obtain ⟨h1, h2, h3, h4⟩ := hx
          refine ⟨by simp [hq], by simp [hq], .inr ⟨⟨old, by simp [hq], hpanic⟩, ?_⟩⟩
          exact ⟨h1, h2, h3, by simpa using h4⟩
        next hpanic =>
          refine ⟨by simp [hq], by simp [hq], .inl ⟨fun o ho => ?_, rfl⟩⟩
          simp only [hq, List.head?_cons, Option.mem_def, Option.some.injEq] at ho
          exact ho ▸ hpanic
      next hmode hq =>
        -- a queue of no capacity has no oldest unit to evict
        refine .inr (.inr (.inl
          ⟨hc, hfull, hmode, by simp [hq], by simp [hq], .inl ⟨?_, rfl⟩⟩))
        simp [hq]
      next hmode =>
        exact .inr (.inr (.inr ⟨hc, hfull, hmode, rfl, rfl, rfl⟩))

/-! ## One answer of the source -/

/-- A failed receive may first cancel the parent token the source holds, which cancels the run
when it was started under it. -/
theorem Run.cancelParent_eq (w : World) (r : Run) (cancel : Bool) :
    (if cancel then r.cancelParent w else (r, w)) =
      ({ r with cancelled := r.cancelled || cancel && r.parent == some w.plan.parentToken },
        { w with cancelledTokens :=
            w.cancelledTokens ++ if cancel then [w.plan.parentToken] else [] }) := by
  cases cancel <;> simp [Run.cancelParent, Run.cancelUnder]

/-- The answer of the source at the loop's position `pos`, handled as the producer's loop says,
in the move from `(r, w)` to `x`. After the last answer the source waits forever. A unit is
counted accepted and offered to the queue. A failure may first cancel the parent token the
source holds; then it is classified: a transient failure is counted and the loop goes on at the
next position, after a pause when the failure signals exhausted resources; an aborted receive
ends the loop as cancelled if the run's token is cancelled by then and as a closed socket
otherwise; a critical failure ends it as critical, cancelled or not. A panic of the source ends the producer. A pause
or a gate holds the producer before the next position. Nothing else is counted. -/
def Run.Handles (w : World) (r : Run) (pos : Nat) (x : Run × World) : Prop :=
  match w.plan.script[pos]? with
  | none => x.1.producer = .parked ∧ x.2.stats = w.stats
  | some (.deliver work) =>
    ∃ loan, Run.Offered { w with stats := { w.stats with accepted := w.stats.accepted + 1 } } r
      (pos + 1) ⟨work, loan⟩ x
  | some (.failure e cancelParent) =>
    x.1.cancelled = (r.cancelled || cancelParent && r.parent == some w.plan.parentToken) ∧
      match w.plan.classifier.apply e with
      | .transient =>
        x.2.stats = { w.stats with producerErrors := w.stats.producerErrors + 1 } ∧
          x.1.producer = if needsBackoff e then .backingOff (pos + 1) (w.clock + backoffMillis)
            else .fetch (pos + 1)
      | .aborted =>
        Run.Returned w r (if x.1.cancelled then .cancelled else .socketClosed) x ∧
          x.2.stats = w.stats
      | .critical => Run.Returned w r .critical x ∧ x.2.stats = w.stats
  | some (.crash _) => Run.Panicked w r x ∧ x.2.stats = w.stats
  | some (.pause ms) => x.1.producer = .pausing (pos + 1) (w.clock + ms) ∧ x.2.stats = w.stats
  | some (.gate k n) =>
    x.1.producer = .gated (pos + 1) k n (w.clock + gateMillis) ∧ x.2.stats = w.stats

theorem Run.fetch_handles (w : World) (r : Run) (pos : Nat) :
    Run.Handles w r pos (r.fetch w pos) := by
  obtain ⟨h, p, hb⟩ := Run.holdBuffer_frame w r
  unfold Run.fetch
  rw [hb]
  dsimp only
  split
  next he =>
    rw [Run.Handles, he]
    exact ⟨rfl, rfl⟩
  next work he =>
    rw [Run.Handles, he]
    have hx := Run.enqueue_offered { w with pool := p, stats := { w.stats with
      accepted := w.stats.accepted + 1 } } { r with holding := none } (pos + 1) ⟨work, h⟩
    -- the unit is offered by the run and world of the request, which differ only in buffers
    refine ⟨h, ?_⟩
    dsimp only [Run.Offered, Run.Returned, Run.Panicked] at hx ⊢
    exact hx
  next e cancel he =>
    rw [Run.Handles, he]
    obtain ⟨h', p', hr⟩ := Run.returnBuffer_frame { w with pool := p } { r with holding := h }
    rw [hr]
    dsimp only
    rw [Run.cancelParent_eq]
    dsimp only
    cases hcls : w.plan.classifier.apply e with
    | transient => cases hnb : needsBackoff e <;> exact ⟨rfl, rfl, rfl⟩
    | aborted =>
      refine ⟨Run.exit_cancelled .., ?_, by simp⟩
      rw [Run.exit_cancelled]
      exact Run.exit_returned _ _ _
    | critical => exact ⟨Run.exit_cancelled .., Run.exit_returned _ _ _, by simp⟩
  next msg he =>
    rw [Run.Handles, he]
    exact ⟨Run.exit_panicked _ _, by simp⟩
  next ms he =>
    rw [Run.Handles, he]
    exact ⟨rfl, rfl⟩
  next k n he =>
    rw [Run.Handles, he]
    exact ⟨rfl, rfl⟩

/-! ## One move of the producer -/

/-- Once its run is cancelled, a producer that is not gone ends at its next move, as
cancelled, and before it asks the source again; the unit it was pushing, if any, is dropped. -/
theorem Run.stepProducer_cancelled {w : World} {r : Run} (hc : r.cancelled = true)
    (hp : r.producer ≠ .finished) :
    ∃ x, r.stepProducer w = some x ∧ Run.Returned w r .cancelled x ∧
      x.2.stats = { w.stats with dropped := w.stats.dropped + r.producer.holds } := by
  -- every place of the producer checks for cancellation first
  have hret : ∀ w' : World, w'.selfStops = w.selfStops →
      Run.Returned w r .cancelled (r.exit w' (.returned .cancelled)) := by
    intro w' hs
    obtain ⟨h1, h2, h3, h4, h5⟩ := Run.exit_returned w' r .cancelled
    exact ⟨h1, h2, h3, h4, hs ▸ h5⟩
  cases hpr : r.producer with
  | finished => exact absurd hpr hp
  | pushing next item =>
    refine ⟨r.exit (w.discard [item]) (.returned .cancelled), ?_, hret _ (by simp), by simp⟩
    simp [Run.stepProducer, hpr, hc]
  | fetch pos =>
    refine ⟨r.exit w (.returned .cancelled), ?_, hret w rfl, by simp⟩
    simp [Run.stepProducer, hpr, hc]
  | pausing pos t =>
    refine ⟨r.exit w (.returned .cancelled), ?_, hret w rfl, by simp⟩
    simp [Run.stepProducer, hpr, hc]
  | gated pos k n d =>
    refine ⟨r.exit w (.returned .cancelled), ?_, hret w rfl, by simp⟩
    simp [Run.stepProducer, hpr, hc]
  | backingOff pos t =>
    refine ⟨r.exit w (.returned .cancelled), ?_, hret w rfl, by simp⟩
    simp [Run.stepProducer, hpr, hc]
  | parked =>
    refine ⟨r.exit w (.returned .cancelled), ?_, hret w rfl, by simp⟩
    simp [Run.stepProducer, hpr, hc]

/-- A producer whose run is not cancelled asks the source for the answer at its position and
handles it. -/
theorem Run.stepProducer_fetch {w : World} {r : Run} {pos : Nat} (hp : r.producer = .fetch pos)
    (hc : r.cancelled = false) : ∃ x, r.stepProducer w = some x ∧ Run.Handles w r pos x :=
  ⟨r.fetch w pos, by simp [Run.stepProducer, hp, hc], Run.fetch_handles w r pos⟩

/-- A producer waiting to push a unit, in a run that is not cancelled, pushes it once the queue
has room, drops it and ends as cancelled once the queue is closed, and waits otherwise. -/
theorem Run.stepProducer_pushing {w : World} {r : Run} {next : Nat} {item : Item}
    (hp : r.producer = .pushing next item) (hc : r.cancelled = false) :
    (r.closed = true → ∃ x, r.stepProducer w = some x ∧ Run.Returned w r .cancelled x ∧
      x.2.stats = { w.stats with dropped := w.stats.dropped + 1 }) ∧
    (r.closed = false → r.queue.length < w.plan.capacity → ∃ x, r.stepProducer w = some x ∧
      x.1.queue = r.queue ++ [item] ∧ x.1.producer = .fetch next ∧ x.2.stats = w.stats) ∧
    (r.closed = false → w.plan.capacity ≤ r.queue.length → r.stepProducer w = none) := by
  refine ⟨fun hcl => ?_, fun hcl hroom => ?_, fun hcl hfull => ?_⟩
  · refine ⟨r.exit (w.discard [item]) (.returned .cancelled), ?_, ?_, by simp⟩
    · simp [Run.stepProducer, hp, hcl]
    · obtain ⟨h1, h2, h3, h4, h5⟩ := Run.exit_returned (w.discard [item]) r .cancelled
      exact ⟨h1, h2, h3, h4, by simpa using h5⟩
  · refine ⟨({ r with queue := r.queue ++ [item], producer := .fetch next }, w), ?_,
      rfl, rfl, rfl⟩
    simp [Run.stepProducer, hp, hc, hcl, hroom]
  · simp [Run.stepProducer, hp, hc, hcl, Nat.not_lt.mpr hfull]

/-- A producer backing off after a failure, in a run that is not cancelled, asks the source again
at the same position once its pause is over, and waits until then. -/
theorem Run.stepProducer_backingOff {w : World} {r : Run} {pos t : Nat}
    (hp : r.producer = .backingOff pos t) (hc : r.cancelled = false) :
    (t ≤ w.clock → ∃ x, r.stepProducer w = some x ∧ x.1.producer = .fetch pos ∧
      x.2.stats = w.stats) ∧
    (w.clock < t → r.stepProducer w = none) := by
  refine ⟨fun ht => ⟨({ r with producer := .fetch pos }, w), ?_, rfl, rfl⟩, fun ht => ?_⟩
  · simp [Run.stepProducer, hp, hc, ht]
  · simp [Run.stepProducer, hp, hc, Nat.not_le.mpr ht]

/-! ## The queue once the producer has ended -/

/-- How a run's producer ended agrees with the run: an ended producer is gone, and a loop that
returned has closed the queue. -/
def Run.Closing (r : Run) : Prop :=
  ∀ e, r.ending = some e → r.producer = .finished ∧ (e.closes = true → r.closed = true)

/-- A move of a worker or of a dispatched unit leaves the producer, how it ended, and whether the
queue is closed, as they were. -/
def Run.LeavesProducer (r r' : Run) : Prop :=
  r'.producer = r.producer ∧ r'.ending = r.ending ∧ r'.closed = r.closed

theorem Run.finish_leavesProducer (w : World) (r : Run) (job : Job) :
    Run.LeavesProducer r (r.finish w job).1 := by
  obtain ⟨rs, fl, -, hf⟩ := Run.finish_frame w r job
  rw [hf]
  exact ⟨rfl, rfl, rfl⟩

theorem Run.begin_leavesProducer (w : World) (r : Run) (item : Item) :
    Run.LeavesProducer r (r.begin w item).2.1 := by
  rcases Run.begin_cases w r item with ⟨-, h⟩ | ⟨-, ⟨j, -, h⟩ | ⟨j, -, h⟩⟩
  · rw [h]
    exact ⟨rfl, rfl, rfl⟩
  · rw [h]
    exact ⟨rfl, rfl, rfl⟩
  · rw [h]
    exact Run.finish_leavesProducer _ _ _

theorem Run.spawn_leavesProducer (w : World) (r : Run) (item : Item) :
    Run.LeavesProducer r (r.spawn w item).1 := by
  obtain ⟨h1, h2, h3⟩ := Run.begin_leavesProducer w r item
  unfold Run.spawn
  split
  next heq =>
    rw [heq] at h1 h2 h3
    exact ⟨h1, h2, h3⟩
  next heq =>
    rw [heq] at h1 h2 h3
    exact ⟨h1, h2, h3⟩

theorem Run.take_leavesProducer (w : World) (r : Run) (i : Nat) (item : Item) :
    Run.LeavesProducer r (r.take w i item).1 := by
  unfold Run.take
  split
  · obtain ⟨h1, h2, h3⟩ := Run.begin_leavesProducer w r item
    split
    all_goals
      next heq =>
        rw [heq] at h1 h2 h3
        exact ⟨h1, h2, h3⟩
  · split
    · obtain ⟨h1, h2, h3⟩ := Run.spawn_leavesProducer w { r with permits := some _ } item
      exact ⟨h1, h2, h3⟩
    · exact ⟨rfl, rfl, rfl⟩
  · exact ⟨rfl, rfl, rfl⟩

theorem Run.stepWorker_leavesProducer {w : World} {r : Run} {i : Nat} {x : Run × World}
    (h : r.stepWorker w i = some x) : Run.LeavesProducer r x.1 := by
  unfold Run.stepWorker at h
  split at h
  next =>
    split at h
    · cases h
      exact ⟨rfl, rfl, rfl⟩
    next hc =>
      split at h
      next item rest hq =>
        cases h
        exact Run.take_leavesProducer w { r with queue := rest } i item
      next =>
        split at h <;> cases h
        exact ⟨rfl, rfl, rfl⟩
  next job _ =>
    obtain ⟨h1, h2, h3⟩ := Run.finish_leavesProducer w r job
    split at h <;> cases h
    exact ⟨h1, h2, h3⟩
  next item _ =>
    split at h
    · cases h
      exact ⟨rfl, rfl, rfl⟩
    · split at h
      · split at h
        · cases h
          exact Run.spawn_leavesProducer w { r with permits := some _, waiters := _ } item
        · cases h
      · cases h
  next => cases h

theorem Run.stepDispatched_leavesProducer {w : World} {r : Run} {k : Nat} {x : Run × World}
    (h : r.stepDispatched w k = some x) : Run.LeavesProducer r x.1 := by
  unfold Run.stepDispatched at h
  split at h
  next job _ =>
    obtain ⟨h1, h2, h3⟩ :=
      Run.finish_leavesProducer w { r with dispatched := r.dispatched.eraseIdx k } job
    split at h <;> cases h
    exact ⟨h1, h2, h3⟩
  next => cases h

/-- A move of the producer leaves how it ended and its queue's closing as they were, or ends it:
the producer gone, how it ended recorded, and the queue closed if its loop returned. -/
def Run.EndsOrKeeps (r : Run) (x : Run × World) : Prop :=
  (x.1.ending = r.ending ∧ x.1.closed = r.closed) ∨
    ∃ e, x.1.ending = some e ∧ x.1.producer = .finished ∧ x.1.closed = (r.closed || e.closes)

theorem Run.exit_endsOrKeeps {r r₀ : Run} (w : World) (e : Ending) (h : r₀.closed = r.closed) :
    Run.EndsOrKeeps r (r₀.exit w e) := by
  obtain ⟨hb, p, hx⟩ := Run.exit_frame w r₀ e
  rw [hx]
  exact .inr ⟨e, rfl, rfl, by rw [h]⟩

theorem Run.enqueue_endsOrKeeps (w : World) (r : Run) (next : Nat) (item : Item) :
    Run.EndsOrKeeps r (r.enqueue w next item) := by
  unfold Run.enqueue
  split
  · exact Run.exit_endsOrKeeps _ _ rfl
  · split
    · exact .inl ⟨rfl, rfl⟩
    · split
      · split
        · exact Run.exit_endsOrKeeps _ _ rfl
        · exact .inl ⟨rfl, rfl⟩
      · exact .inl ⟨rfl, rfl⟩
      · exact .inl ⟨rfl, rfl⟩

theorem Run.fetch_endsOrKeeps (w : World) (r : Run) (pos : Nat) :
    Run.EndsOrKeeps r (r.fetch w pos) := by
  obtain ⟨h, p, hb⟩ := Run.holdBuffer_frame w r
  unfold Run.fetch
  rw [hb]
  dsimp only
  split
  · exact .inl ⟨rfl, rfl⟩
  · exact Run.enqueue_endsOrKeeps _ { r with holding := none } _ _
  · obtain ⟨h', p', hr⟩ := Run.returnBuffer_frame { w with pool := p } { r with holding := h }
    rw [hr]
    dsimp only
    rw [Run.cancelParent_eq]
    dsimp only
    split
    · split <;> exact .inl ⟨rfl, rfl⟩
    · exact Run.exit_endsOrKeeps _ _ rfl
    · exact Run.exit_endsOrKeeps _ _ rfl
  · exact Run.exit_endsOrKeeps _ _ rfl
  · exact .inl ⟨rfl, rfl⟩
  · exact .inl ⟨rfl, rfl⟩

theorem Run.stepProducer_endsOrKeeps {w : World} {r : Run} {x : Run × World}
    (h : r.stepProducer w = some x) : Run.EndsOrKeeps r x := by
  rcases Run.stepProducer_cases h with
    ⟨next, item, -, ⟨-, rfl⟩ | ⟨-, -, rfl⟩⟩ |
      ⟨-, ⟨-, rfl⟩ | ⟨-, pos, ⟨-, rfl⟩ | rfl⟩⟩
  · exact Run.exit_endsOrKeeps _ _ rfl
  · exact .inl ⟨rfl, rfl⟩
  · exact Run.exit_endsOrKeeps _ _ rfl
  · exact Run.fetch_endsOrKeeps w r pos
  · exact .inl ⟨rfl, rfl⟩

/-- A move of any task keeps a run's producer in agreement with how it ended, and never opens a
closed queue again. -/
theorem Run.move_closing {w : World} {r : Run} {t : Task} {x : Run × World}
    (h : r.move w t = some x) (hr : r.Closing) :
    x.1.Closing ∧ (r.closed = true → x.1.closed = true) := by
  cases t with
  | producer =>
    -- a producer that moves has not ended yet
    have hnone : r.ending = none := by
      cases he : r.ending with
      | none => rfl
      | some e =>
        have hfin := (hr e he).1
        simp [Run.move, Run.stepProducer, hfin] at h
    rcases Run.stepProducer_endsOrKeeps h with ⟨he, hc⟩ | ⟨e, he, hfin, hc⟩
    · refine ⟨fun e' he' => ?_, fun h' => hc ▸ h'⟩
      rw [he, hnone] at he'
      cases he'
    · refine ⟨fun e' he' => ?_, fun h' => by rw [hc, h', Bool.true_or]⟩
      rw [he, Option.some.injEq] at he'
      subst he'
      exact ⟨hfin, fun hcl => by rw [hc, hcl, Bool.or_true]⟩
  | worker i =>
    obtain ⟨hp, he, hc⟩ := Run.stepWorker_leavesProducer h
    exact ⟨fun e h' => hp ▸ hc ▸ hr e (he ▸ h'), fun h' => hc ▸ h'⟩
  | dispatched k =>
    obtain ⟨hp, he, hc⟩ := Run.stepDispatched_leavesProducer h
    exact ⟨fun e h' => hp ▸ hc ▸ hr e (he ▸ h'), fun h' => hc ▸ h'⟩

/-- The queues of a node's runs once their producers have ended: every run's producer agrees with
how it ended, and every run a stop has taken has its queue closed. -/
structure Machine.Closes (m : Machine) : Prop where
  runs : ∀ r ∈ m.runs, r.Closing
  stopping : ∀ s, m.stopping = some s → s.run.closed = true
  background : ∀ r ∈ m.background, r.closed = true

theorem Machine.new_closes (plan : Plan) (sink : Sink) (pool : Option BufferPool) :
    (Machine.new plan sink pool).Closes :=
  ⟨fun _ h => by simp [Machine.runs, Machine.new] at h, fun _ h => (by cases h),
    fun _ h => (by cases h)⟩

theorem Machine.mem_runs_of_background {m : Machine} {r : Run} (h : r ∈ m.background) :
    r ∈ m.runs :=
  List.mem_append_right _ h

/-- A stop taking the running run closes its queue. -/
theorem Machine.beginStop_closes {m : Machine} {r : Run} (h : m.Closes) (hr : m.slot = some r) :
    (m.beginStop r).Closes := by
  have hcl : r.Closing := h.runs r (by simp [Machine.runs, hr])
  refine ⟨fun x hx => ?_, fun s hs' => ?_, h.background⟩
  · simp only [Machine.runs, Machine.beginStop, Option.toList_none, Option.map_some,
      Option.toList_some, List.nil_append, List.singleton_append, List.mem_cons] at hx
    rcases hx with rfl | hx
    · exact fun e he => ⟨(hcl e he).1, fun _ => rfl⟩
    · exact h.runs x (by simp [Machine.runs, hx])
  · simp only [Machine.beginStop, Option.some.injEq] at hs'
    subst hs'
    rfl

/-- A move of a task keeps the queues closed that were, and its run's producer in agreement with
how it ended. -/
theorem Machine.put_closes {m : Machine} {p : Place} {r r' : Run} {w' : World} (h : m.Closes)
    (hr : m.runAt p = some r) (hcl : r'.Closing) (hmono : r.closed = true → r'.closed = true) :
    (m.put r' w' p).Closes := by
  refine ⟨fun x hx => ?_, fun s hs => ?_, fun x hx => ?_⟩
  · rcases Machine.mem_put hx with rfl | hx
    · exact hcl
    · exact h.runs x hx
  · cases p with
    | stopping =>
      obtain ⟨s₀, hs₀, rfl⟩ := Option.map_eq_some_iff.mp hr
      simp only [Machine.put, hs₀, Option.map_some, Option.some.injEq] at hs
      subst hs
      exact hmono (h.stopping s₀ hs₀)
    | running => exact h.stopping s hs
    | background i => exact h.stopping s hs
  · cases p with
    | background i =>
      simp only [Machine.put] at hx
      rcases List.mem_or_eq_of_mem_set hx with hx | rfl
      · exact h.background x hx
      · exact hmono (h.background r (List.mem_of_getElem? hr))
    | running => exact h.background x hx
    | stopping => exact h.background x hx

/-- Every move of a node keeps the queues of its runs closed once their producers have ended. -/
theorem Machine.act_closes {m m' : Machine} {a : Action} (h : m.Closes) (hact : m.act a = some m') :
    m'.Closes := by
  cases a with
  | task p t =>
    obtain ⟨r, ⟨r', w'⟩, hr, hx, rfl⟩ := Machine.act_task hact
    obtain ⟨hcl, hmono⟩ := Run.move_closing hx (h.runs r (Machine.mem_runs hr))
    exact Machine.put_closes h hr hcl hmono
  | selfStop =>
    obtain ⟨-, g, rest, -, ⟨-, rfl⟩ | ⟨r, hr, -, rfl⟩⟩ := Machine.selfStop?_eq_some hact
    · exact ⟨h.runs, h.stopping, h.background⟩
    · exact Machine.beginStop_closes ⟨h.runs, h.stopping, h.background⟩ hr
  | completeStop =>
    obtain ⟨s, hb, p, hs, -, rfl⟩ := Machine.completeStop?_eq_some hact
    have hclosed : s.run.closed = true := h.stopping s hs
    -- the aborted run keeps its closed queue, and its producer is gone
    have hrun : ({ s.run with producer := .finished, holding := hb } : Run).Closing :=
      fun e _ => ⟨rfl, fun _ => hclosed⟩
    refine ⟨fun x hx => ?_, fun _ h' => (by cases h'), fun x hx => ?_⟩
    · simp only [Machine.runs, Option.map_none, Option.toList_none, List.append_nil] at hx
      rcases List.mem_append.mp hx with hx | hx
      · have hslot : m.runAt .running = some x := Option.mem_toList.mp hx
        exact h.runs x (Machine.mem_runs hslot)
      · split at hx
        · exact h.runs x (Machine.mem_runs_of_background hx)
        · rcases List.mem_append.mp hx with hx | hx
          · exact h.runs x (Machine.mem_runs_of_background hx)
          · rw [List.mem_singleton.mp hx]
            exact hrun
    · split at hx
      · exact h.background x hx
      · rcases List.mem_append.mp hx with hx | hx
        · exact h.background x hx
        · rw [List.mem_singleton.mp hx]
          exact hclosed
  | tick t =>
    cases hact
    exact ⟨h.runs, h.stopping, h.background⟩
  | start bound parent =>
    obtain ⟨-, hslot, hs, rfl⟩ := Machine.act_start hact
    refine ⟨fun x hx => ?_, fun s hs' => ?_, h.background⟩
    · simp only [Machine.runs, Machine.launch, hs, Option.map_none, Option.toList_some,
        Option.toList_none, List.append_nil, List.singleton_append, List.mem_cons] at hx
      rcases hx with rfl | hx
      · exact fun e he => by cases he
      · exact h.runs x (by simp [Machine.runs, hslot, hs, hx])
    · simp [Machine.launch, hs] at hs'
  | stop =>
    obtain ⟨r, -, hr, rfl⟩ := Machine.act_stop hact
    exact Machine.beginStop_closes h hr
  | dispose =>
    cases hact
    exact ⟨h.runs, h.stopping, h.background⟩
  | cancelParent k =>
    cases hact
    refine ⟨fun x hx => ?_, fun s hs => ?_, fun x hx => ?_⟩
    · rw [Machine.runs_cancelToken] at hx
      obtain ⟨x₀, hx₀, rfl⟩ := List.mem_map.mp hx
      exact h.runs x₀ hx₀
    · simp only [Machine.cancelToken, Option.map_eq_some_iff] at hs
      obtain ⟨s₀, hs₀, rfl⟩ := hs
      exact h.stopping s₀ hs₀
    · simp only [Machine.cancelToken, List.mem_map] at hx
      obtain ⟨x₀, hx₀, rfl⟩ := hx
      exact h.background x₀ hx₀
  | drop =>
    obtain ⟨hs, rfl⟩ := Machine.act_drop hact
    cases hslot : m.slot with
    | none => rwa [Machine.orphan_of_empty hslot]
    | some r =>
      obtain ⟨hb, p, ho⟩ := Machine.orphan_of_slot hslot
      rw [ho]
      have hrun : ({ r with
          cancelled := true
          queue := []
          closed := true
          producer := .finished
          holding := hb } : Run).Closing :=
        fun e _ => ⟨rfl, fun _ => rfl⟩
      refine ⟨fun x hx => ?_, fun s hs' => by simp [hs] at hs', fun x hx => ?_⟩
      · simp only [Machine.runs, hs, Option.toList_none, List.nil_append, Option.map_none,
          List.mem_append, List.mem_singleton] at hx
        rcases hx with hx | rfl
        · exact h.runs x (Machine.mem_runs_of_background hx)
        · exact hrun
      · rcases List.mem_append.mp hx with hx | hx
        · exact h.background x hx
        · rw [List.mem_singleton.mp hx]

theorem Machine.exec_closes {m : Machine} (h : m.Closes) (as : List Action) :
    (m.exec as).Closes := by
  induction as generalizing m with
  | nil => exact h
  | cons a as ih =>
    rw [Machine.exec_cons]
    cases hact : m.act a with
    | none => exact ih h
    | some m' => exact ih (Machine.act_closes h hact)

/-- Along every interleaving of a node, a run whose producer has ended has its queue closed,
unless the producer panicked and its run, still running, waits for the stop it asked for,
which closes the queue when it takes the run. -/
theorem Machine.closed_after_exit (plan : Plan) (sink : Sink) (pool : Option BufferPool)
    (as : List Action) :
    let m := (Machine.new plan sink pool).exec as
    ∀ q r e, m.runAt q = some r → r.ending = some e →
      r.closed = true ∨
        e = .panicked ∧ q = .running ∧ r.generation ∈ m.world.selfStops := by
  intro m q r e hr he
  have hwf : m.Wf := Machine.exec_wf (Machine.new_wf plan sink pool) as
  have hcl : m.Closes := Machine.exec_closes (Machine.new_closes plan sink pool) as
  cases q with
  | running =>
    obtain ⟨hfin, hclose⟩ := hcl.runs r (Machine.mem_runs hr) e he
    cases e with
    | returned why => exact .inl (hclose rfl)
    | panicked => exact .inr ⟨rfl, rfl, hwf.slot r hr hfin⟩
  | stopping =>
    obtain ⟨s, hs, rfl⟩ := Option.map_eq_some_iff.mp hr
    exact .inl (hcl.stopping s hs)
  | background i => exact .inl (hcl.background r (List.mem_of_getElem? hr))

/-- One move of a run's producer, for any script and either full-queue mode, asks the source at
its position, pushes or drops, backs off, or ends as cancelled as `Run.Handles` says; along every
interleaving, a run whose producer ended has its queue closed unless a panic's stop is pending. -/
theorem producer_loop (w : World) (r : Run) :
    (r.cancelled = true → r.producer ≠ .finished →
      ∃ x, r.stepProducer w = some x ∧ Run.Returned w r .cancelled x ∧
        x.2.stats = { w.stats with dropped := w.stats.dropped + r.producer.holds }) ∧
    (∀ pos, r.producer = .fetch pos → r.cancelled = false →
      ∃ x, r.stepProducer w = some x ∧ Run.Handles w r pos x) ∧
    (∀ next item, r.producer = .pushing next item → r.cancelled = false →
      (r.closed = true → ∃ x, r.stepProducer w = some x ∧ Run.Returned w r .cancelled x ∧
        x.2.stats = { w.stats with dropped := w.stats.dropped + 1 }) ∧
      (r.closed = false → r.queue.length < w.plan.capacity →
        ∃ x, r.stepProducer w = some x ∧
          x.1.queue = r.queue ++ [item] ∧ x.1.producer = .fetch next ∧ x.2.stats = w.stats) ∧
      (r.closed = false → w.plan.capacity ≤ r.queue.length → r.stepProducer w = none)) ∧
    (∀ pos t, r.producer = .backingOff pos t → r.cancelled = false →
      (t ≤ w.clock → ∃ x, r.stepProducer w = some x ∧ x.1.producer = .fetch pos ∧
        x.2.stats = w.stats) ∧
      (w.clock < t → r.stepProducer w = none)) ∧
    (∀ plan sink pool as,
      let m := (Machine.new plan sink pool).exec as
      ∀ q r e, m.runAt q = some r → r.ending = some e →
        r.closed = true ∨
          e = .panicked ∧ q = .running ∧ r.generation ∈ m.world.selfStops) :=
  ⟨Run.stepProducer_cancelled, fun _ => Run.stepProducer_fetch,
    fun _ _ => Run.stepProducer_pushing, fun _ _ => Run.stepProducer_backingOff,
    Machine.closed_after_exit⟩

end NetNode.Node
