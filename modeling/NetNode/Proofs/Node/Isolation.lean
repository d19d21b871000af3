import NetNode.Proofs.Node.Shape

/-!
# The runs of a node are isolated from each other

A node may run many times. Each start creates a run with a generation of its own, and with it
its own cancellation, queue, workers, source and processor. A stop that gives up waiting leaves
the run's workers and dispatched units going on in the background while the next run serves,
and a producer that ends asks for a stop of its own run, which may come late, after the owner
has stopped the node and started it again.

The main statement, `Machine.runs_isolated`, says that along every interleaving from a new node
no two runs share a generation, and that a move that belongs to run `g` (`Machine.owner`: one
of its tasks, the stop its producer asked for, the stop that takes it, the end of that stop, or
the node dropped while it runs) leaves every other run where it was and as it was: it is not
stopped, its token not cancelled, its queue neither closed nor drained, its source not
released. The late stop of run `g` takes the running run only if that run is `g`, and
cancelling the parent token a run was started under reaches no run started under another. While another
run holds the slot, the node's state is not touched either. What the runs share is the world:
the clock, the statistics, the buffer pool and the stops asked for.

Read `Machine.act_isolated` first; it rests on `Machine.Separate`, which every move keeps.
-/

namespace NetNode.Node

open NetNode.Pool NetNode.Address

/-! ## Which run a move belongs to -/

/-- The run a move belongs to, by generation: a task belongs to its run; the stop a producer
asked for, first in line, to the run of that producer; the stop that takes the running run,
and the owner dropping the node while it runs, to the run they take; the end of a stop to the
run being stopped. Time passing and the owner's start, disposal and parent cancellation belong
to no run. -/
def Machine.owner (m : Machine) : Action → Option Nat
  | .task p _ => (m.runAt p).map (·.generation)
  | .selfStop => m.world.selfStops.head?
  | .stop => m.slot.map (·.generation)
  | .completeStop => m.stopping.map (·.run.generation)
  | .drop => m.slot.map (·.generation)
  | .tick _ | .start _ _ | .dispose | .cancelParent _ => none

/-! ## Putting a run back -/

@[simp] theorem Machine.put_state (m : Machine) (r : Run) (w : World) (p : Place) :
    (m.put r w p).state = m.state := by
  cases p <;> rfl

@[simp] theorem Machine.put_generations (m : Machine) (r : Run) (w : World) (p : Place) :
    (m.put r w p).generations = m.generations := by
  cases p <;> rfl

theorem Machine.put_slot_none {m : Machine} {r : Run} {w : World} {p : Place}
    (hr : m.runAt p = some r) (h : m.stopping.isSome → m.slot = none) (r' : Run) :
    (m.put r' w p).stopping.isSome → (m.put r' w p).slot = none := by
  cases p with
  | running =>
    intro hs
    simp only [Machine.runAt] at hr
    simp [Machine.put] at hs
    simp [h hs] at hr
  | stopping => simpa [Machine.put] using h
  | background i => simpa [Machine.put] using h

/-- Putting a run back at another place leaves the run there as it was. -/
theorem Machine.runAt_put_of_ne (m : Machine) (r : Run) (w : World) {p q : Place} (h : q ≠ p) :
    (m.put r w p).runAt q = m.runAt q := by
  cases p <;> cases q <;> first
    | exact absurd rfl h
    | rfl
    | exact List.getElem?_set_ne fun hij => h (by rw [hij])

/-- Putting back a run of the same generation keeps the generations of the runs. -/
theorem Machine.put_gens {m : Machine} {p : Place} {r r' : Run} (hr : m.runAt p = some r)
    (hg : r'.generation = r.generation) (w : World) :
    (m.put r' w p).runs.map (·.generation) = m.runs.map (·.generation) := by
  cases p with
  | running =>
    simp only [Machine.runAt] at hr
    simp [Machine.runs, Machine.put, hr, hg]
  | stopping =>
    obtain ⟨s, hs, rfl⟩ := Option.map_eq_some_iff.mp hr
    simp [Machine.runs, Machine.put, hs, hg]
  | background i =>
    obtain ⟨hi, hget⟩ := List.getElem?_eq_some_iff.mp hr
    have hset : (m.background.map (·.generation)).set i r'.generation =
        m.background.map (·.generation) := by
      have hi' : i < (m.background.map (·.generation)).length := by simpa using hi
      have := List.set_getElem_self hi'
      rwa [List.getElem_map, hget, ← hg] at this
    simp [Machine.runs, Machine.put, List.map_set, hset]

/-! ## Runs are told apart by their generations -/

/-- Runs are told apart by their generations: each run's generation is below the number of runs
started, no two runs share one, and while a stop is in progress no run holds the slot. -/
structure Machine.Separate (m : Machine) : Prop where
  below : ∀ r ∈ m.runs, r.generation < m.generations
  distinct : (m.runs.map (·.generation)).Nodup
  single : m.stopping.isSome → m.slot = none

theorem Machine.new_separate (plan : Plan) (sink : Sink) (pool : Option BufferPool) :
    (Machine.new plan sink pool).Separate where
  below _ h := by simp [Machine.runs, Machine.new] at h
  distinct := by simp [Machine.runs, Machine.new]
  single h := by simp [Machine.new] at h

/-- A move that starts no run, and only moves runs or lets them go, keeps them apart. -/
theorem Machine.Separate.of_subperm {m m' : Machine} (h : m.Separate)
    (hsub : (m'.runs.map (·.generation)).Subperm (m.runs.map (·.generation)))
    (hgen : m.generations ≤ m'.generations) (hsingle : m'.stopping.isSome → m'.slot = none) :
    m'.Separate where
  below r hr := by
    obtain ⟨r₀, hr₀, he⟩ := List.mem_map.mp (hsub.subset (List.mem_map_of_mem hr))
    exact he ▸ Nat.lt_of_lt_of_le (h.below r₀ hr₀) hgen
  distinct := by
    obtain ⟨l, hperm, hsl⟩ := hsub
    exact hperm.nodup_iff.mp (h.distinct.sublist hsl)
  single := hsingle

/-- A stop taking the running run moves it to the stop's place. -/
theorem Machine.beginStop_separate {m : Machine} {r : Run} (h : m.Separate)
    (hs : m.stopping = none) (hr : m.slot = some r) : (m.beginStop r).Separate := by
  refine h.of_subperm (List.Perm.subperm ?_) (Nat.le_refl _) (fun _ => rfl)
  simp [Machine.runs, Machine.beginStop, hs, hr]

/-- A start binds while no run holds the slot and no stop is in progress, and gives the new run
the next generation. -/
theorem Machine.launch_separate {m : Machine} (h : m.Separate) (hslot : m.slot = none)
    (hs : m.stopping = none) (bound : SocketAddress) (parent : Option Nat) :
    (m.launch bound parent).Separate where
  below r hr := by
    simp only [Machine.runs, Machine.launch, hs, Option.map_none, Option.toList_some,
      Option.toList_none, List.append_nil, List.singleton_append, List.mem_cons] at hr
    rcases hr with rfl | hr
    · exact Nat.lt_succ_self _
    · exact Nat.lt_succ_of_lt (h.below r (by simp [Machine.runs, hslot, hs, hr]))
  distinct := by
    have hruns : m.runs = m.background := by simp [Machine.runs, hslot, hs]
    have hnew : m.generations ∉ m.background.map (·.generation) := by
      intro hmem
      obtain ⟨r, hr, he⟩ := List.mem_map.mp hmem
      exact absurd (h.below r (hruns ▸ hr)) (by omega)
    have hd := h.distinct
    rw [hruns] at hd
    simp [Machine.runs, Machine.launch, hs, hnew, hd]
  single hs' := by simp [Machine.launch, hs] at hs'

/-- Every move of a node keeps its runs apart. -/
theorem Machine.act_separate {m m' : Machine} {a : Action} (h : m.Separate)
    (hact : m.act a = some m') : m'.Separate := by
  cases a with
  | task p t =>
    obtain ⟨r, ⟨r', w'⟩, hr, hx, rfl⟩ := Machine.act_task hact
    have hg : r'.generation = r.generation := (Run.move_stays hx).generation
    refine h.of_subperm ?_ (by simp) (Machine.put_slot_none hr h.single r')
    rw [Machine.put_gens hr hg]
  | selfStop =>
    obtain ⟨hs, g, rest, -, ⟨-, rfl⟩ | ⟨r, hr, -, rfl⟩⟩ := Machine.selfStop?_eq_some hact
    · exact ⟨h.below, h.distinct, h.single⟩
    · exact Machine.beginStop_separate ⟨h.below, h.distinct, h.single⟩ hs hr
  | completeStop =>
    obtain ⟨s, hb, p, hs, -, rfl⟩ := Machine.completeStop?_eq_some hact
    have hslot : m.slot = none := h.single (by simp [hs])
    refine h.of_subperm ?_ (Nat.le_refl _) (fun h' => by simp at h')
    split
    · simpa [Machine.runs, hslot, hs] using (List.sublist_cons_self _ _).subperm
    · simpa [Machine.runs, hslot, hs] using (List.perm_append_singleton _ _).subperm
  | tick t =>
    cases hact
    exact ⟨h.below, h.distinct, h.single⟩
  | start bound parent =>
    obtain ⟨-, hslot, hs, rfl⟩ := Machine.act_start hact
    exact Machine.launch_separate h hslot hs bound parent
  | stop =>
    obtain ⟨r, hs, hr, rfl⟩ := Machine.act_stop hact
    exact Machine.beginStop_separate h hs hr
  | dispose =>
    cases hact
    exact ⟨h.below, h.distinct, h.single⟩
  | cancelParent k =>
    cases hact
    refine h.of_subperm (List.Perm.subperm ?_) (Nat.le_refl _) ?_
    · rw [Machine.runs_cancelToken, List.map_map]
      rfl
    · simpa [Machine.cancelToken] using h.single
  | drop =>
    obtain ⟨hs, rfl⟩ := Machine.act_drop hact
    cases hslot : m.slot with
    | none => rwa [Machine.orphan_of_empty hslot]
    | some r =>
      obtain ⟨hb, p, ho⟩ := Machine.orphan_of_slot hslot
      rw [ho]
      refine h.of_subperm ?_ (Nat.le_refl _) (fun _ => rfl)
      simpa [Machine.runs, hslot, hs] using (List.perm_append_singleton _ _).subperm

/-- Every sequence of moves keeps the runs of a node apart. -/
theorem Machine.exec_separate {m : Machine} (h : m.Separate) (as : List Action) :
    (m.exec as).Separate := by
  induction as generalizing m with
  | nil => exact h
  | cons a as ih =>
    rw [Machine.exec_cons]
    cases hact : m.act a with
    | none => exact ih h
    | some m' => exact ih (Machine.act_separate h hact)

/-! ## What a move of one run leaves alone -/

theorem Machine.runAt_world (m : Machine) (w : World) (q : Place) :
    ({ m with world := w } : Machine).runAt q = m.runAt q := by
  cases q <;> rfl

/-- A run other than the running one stands at another place. -/
theorem Machine.ne_running {m : Machine} {r r' : Run} {q : Place} (hr : m.slot = some r)
    (hr' : m.runAt q = some r') (hne : r'.generation ≠ r.generation) : q ≠ .running := by
  rintro rfl
  rw [Machine.runAt, hr, Option.some.injEq] at hr'
  exact hne (hr' ▸ rfl)

/-- A stop taking the running run leaves every other run where it was. -/
theorem Machine.beginStop_runAt {m : Machine} {r r' : Run} {q : Place} (hs : m.stopping = none)
    (hr : m.slot = some r) (hr' : m.runAt q = some r') (hne : r'.generation ≠ r.generation) :
    (m.beginStop r).runAt q = some r' := by
  cases q with
  | running => exact absurd rfl (Machine.ne_running hr hr' hne)
  | stopping => simp [Machine.runAt, hs] at hr'
  | background i => exact hr'

/-- A run the background gains goes after those already there. -/
theorem Machine.runAt_background_append {m : Machine} {i : Nat} {r : Run}
    (hr : m.background[i]? = some r) (l : List Run) : (m.background ++ l)[i]? = some r := by
  rw [List.getElem?_append_left (List.getElem?_eq_some_iff.mp hr).1, hr]

/-- A move that belongs to run `g` leaves every other run where it was and as it was, and, while
another run holds the slot, the node's state too. -/
theorem Machine.act_isolated {m m' : Machine} {a : Action} {g : Nat} (h : m.Separate)
    (ho : m.owner a = some g) (hact : m.act a = some m') :
    (∀ q r, m.runAt q = some r → r.generation ≠ g → m'.runAt q = some r) ∧
      (∀ r, m.slot = some r → r.generation ≠ g → m'.state = m.state) := by
  cases a with
  | task p t =>
    obtain ⟨r₀, ⟨r', w'⟩, hr₀, -, rfl⟩ := Machine.act_task hact
    have hg : r₀.generation = g := by simpa [Machine.owner, hr₀] using ho
    refine ⟨fun q r hr hne => ?_, fun _ _ _ => Machine.put_state ..⟩
    -- the moving run is run `g`, so any other run stands at another place
    have hq : q ≠ p := by
      rintro rfl
      rw [hr₀, Option.some.injEq] at hr
      exact hne (hr ▸ hg)
    rw [Machine.runAt_put_of_ne _ _ _ hq, hr]
  | selfStop =>
    obtain ⟨hs, g', rest, hq, ⟨-, rfl⟩ | ⟨r, hr, hgen, rfl⟩⟩ := Machine.selfStop?_eq_some hact
    · exact ⟨fun q r' hr' _ => (Machine.runAt_world m _ q).trans hr', fun _ _ _ => rfl⟩
    · -- the stop takes the running run only because it is run `g`
      have hg : g' = g := by simpa [Machine.owner, hq] using ho
      subst hg
      refine ⟨fun q r' hr' hne => ?_, fun r' hr' hne => ?_⟩
      · exact Machine.beginStop_runAt hs hr ((Machine.runAt_world m _ q).trans hr')
          (hgen ▸ hne)
      · rw [hr, Option.some.injEq] at hr'
        exact absurd (hr' ▸ hgen) hne
  | completeStop =>
    obtain ⟨s, hb, p, hs, -, rfl⟩ := Machine.completeStop?_eq_some hact
    have hg : s.run.generation = g := by simpa [Machine.owner, hs] using ho
    -- no run holds the slot while a stop is in progress
    have hslot : m.slot = none := h.single (by simp [hs])
    refine ⟨fun q r hr hne => ?_, fun r hr _ => by simp [hslot] at hr⟩
    cases q with
    | running => exact hr
    | stopping =>
      simp only [Machine.runAt, hs, Option.map_some, Option.some.injEq] at hr
      exact absurd (hr ▸ hg) hne
    | background i =>
      simp only [Machine.runAt] at hr ⊢
      split
      · exact hr
      · exact Machine.runAt_background_append hr _
  | tick t => simp [Machine.owner] at ho
  | start bound parent => simp [Machine.owner] at ho
  | stop =>
    obtain ⟨r, hs, hr, rfl⟩ := Machine.act_stop hact
    have hg : r.generation = g := by simpa [Machine.owner, hr] using ho
    refine ⟨fun q r' hr' hne => Machine.beginStop_runAt hs hr hr' (hg ▸ hne), ?_⟩
    intro r' hr' hne
    rw [hr, Option.some.injEq] at hr'
    exact absurd (hr' ▸ hg) hne
  | dispose => simp [Machine.owner] at ho
  | cancelParent k => simp [Machine.owner] at ho
  | drop =>
    obtain ⟨hs, rfl⟩ := Machine.act_drop hact
    cases hslot : m.slot with
    | none =>
      rw [Machine.orphan_of_empty hslot]
      exact ⟨fun _ _ hr _ => hr, fun _ _ _ => rfl⟩
    | some r =>
      have hg : r.generation = g := by simpa [Machine.owner, hslot] using ho
      obtain ⟨hb, p, horphan⟩ := Machine.orphan_of_slot hslot
      rw [horphan]
      refine ⟨fun q r' hr' hne => ?_, fun _ _ _ => rfl⟩
      cases q with
      | running => exact absurd rfl (Machine.ne_running hslot hr' (hg ▸ hne))
      | stopping => simp [Machine.runAt, hs] at hr'
      | background i => exact Machine.runAt_background_append hr' _

/-- A run not started under token `k` does not see its cancellation. -/
theorem Run.cancelUnder_of_ne {r : Run} {k : Nat} (hk : r.parent ≠ some k) : r.cancelUnder k = r := by
  have hne : (r.parent == some k) = false := by simpa using hk
  cases r
  simp_all [Run.cancelUnder]

/-- Cancelling parent token `k` leaves every run not started under it where it was and as it
was. -/
theorem Machine.cancelToken_runAt {m : Machine} {q : Place} {r : Run} {k : Nat}
    (hr : m.runAt q = some r) (hk : r.parent ≠ some k) : (m.cancelToken k).runAt q = some r := by
  have hmap : (m.cancelToken k).runAt q = (m.runAt q).map (Run.cancelUnder k) := by
    cases q with
    | running => rfl
    | stopping => cases hs : m.stopping <;> simp [Machine.runAt, Machine.cancelToken, hs]
    | background i => simp [Machine.runAt, Machine.cancelToken]
  rw [hmap, hr, Option.map_some, Run.cancelUnder_of_ne hk]

/-- Runs of a node are isolated: no two share a generation, a move of one run leaves every other
run as it was, and cancelling a parent token leaves every run not started under it alone. -/
theorem Machine.runs_isolated (plan : Plan) (sink : Sink) (pool : Option BufferPool)
    (as : List Action) :
    let m := (Machine.new plan sink pool).exec as
    (m.runs.map (·.generation)).Nodup ∧
      (∀ a g m', m.owner a = some g → m.act a = some m' →
        (∀ q r, m.runAt q = some r → r.generation ≠ g → m'.runAt q = some r) ∧
          (∀ r, m.slot = some r → r.generation ≠ g → m'.state = m.state)) ∧
      (∀ k m', m.act (.cancelParent k) = some m' →
        ∀ q r, m.runAt q = some r → r.parent ≠ some k → m'.runAt q = some r) := by
  intro m
  have h : m.Separate := Machine.exec_separate (Machine.new_separate plan sink pool) as
  refine ⟨h.distinct, fun a g m' ho hact => Machine.act_isolated h ho hact, ?_⟩
  intro k m' hact q r hr hk
  cases hact
  exact Machine.cancelToken_runAt hr hk

end NetNode.Node
