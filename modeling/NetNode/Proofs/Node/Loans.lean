import NetNode.Proofs.Node.Units
import NetNode.Proofs.Pool.Ledger

/-!
# Every pool buffer is returned once

A node whose source receives datagrams rents a pool buffer before each receive. The buffer goes
with the datagram into the queue, to a worker and to a dispatched unit, and back to the pool
when the datagram is let go: on a failed receive, an eviction, a refused or cancelled push, a
cancelled wait for a permit, a stop that drains the queue, the end of processing, a peer that
panics, the abort of a producer and the drop of the node.

Over every interleaving of the node's tasks and its owner's calls, and whatever the pool, its
counters keep books (`buffer_ledger`): the rents less the returns since the node was made are
one buffer for each unit its runs hold and one for each receive pending, and none once no task
of the node is running. `Loans` relates two states of a pool to the buffers on loan; each step
of a run keeps the books of the pool (`Lends`), and each move of the node keeps the node's
(`Machine.Lending`), from which the run lemma follows by induction on the moves. Two facts ride
along: a producer that has ended holds no buffer, so a run a stop forgets takes none with it;
and a source that rents before each receive makes no unit without a buffer (`Run.bare`), so the
buffers on loan count units.
-/

namespace NetNode.Node

open NetNode.Pool

/-! ## Buffers on loan -/

/-- Rents a pool has counted, or none without a pool. -/
def rented (pool : Option BufferPool) : Nat := (pool.map (·.stats.rents)).getD 0

/-- Returns a pool has counted, or none without a pool. -/
def returned (pool : Option BufferPool) : Nat := (pool.map (·.stats.returns)).getD 0

/-- One for a buffer on loan, none for none. -/
def onLoan : Option Buffer → Nat
  | some _ => 1
  | none => 0

/-- One for a unit that holds no buffer. -/
def noLoan : Option Buffer → Nat
  | some _ => 0
  | none => 1

@[simp] theorem onLoan_some (b : Buffer) : onLoan (some b) = 1 := rfl
@[simp] theorem onLoan_none : onLoan none = 0 := rfl
@[simp] theorem noLoan_some (b : Buffer) : noLoan (some b) = 0 := rfl
@[simp] theorem noLoan_none : noLoan none = 1 := rfl

theorem onLoan_add_noLoan (l : Option Buffer) : onLoan l + noLoan l = 1 := by
  cases l <;> rfl

/-- Buffers a worker holds: that of the unit it processes inline or waits with. -/
def Worker.lent : Worker → Nat
  | .idle => 0
  | .busy j => onLoan j.loan
  | .acquiring i => onLoan i.loan
  | .exited => 0

@[simp] theorem Worker.lent_idle : Worker.idle.lent = 0 := rfl
@[simp] theorem Worker.lent_busy (j : Job) : (Worker.busy j).lent = onLoan j.loan := rfl
@[simp] theorem Worker.lent_acquiring (i : Item) : (Worker.acquiring i).lent = onLoan i.loan := rfl
@[simp] theorem Worker.lent_exited : Worker.exited.lent = 0 := rfl

/-- Units a worker holds without a buffer. -/
def Worker.bare : Worker → Nat
  | .idle => 0
  | .busy j => noLoan j.loan
  | .acquiring i => noLoan i.loan
  | .exited => 0

@[simp] theorem Worker.bare_idle : Worker.idle.bare = 0 := rfl
@[simp] theorem Worker.bare_busy (j : Job) : (Worker.busy j).bare = noLoan j.loan := rfl
@[simp] theorem Worker.bare_acquiring (i : Item) : (Worker.acquiring i).bare = noLoan i.loan := rfl
@[simp] theorem Worker.bare_exited : Worker.exited.bare = 0 := rfl

/-- Buffers the producer holds in a unit it is pushing. -/
def Producer.lent : Producer → Nat
  | .fetch _ => 0
  | .pausing _ _ => 0
  | .gated _ _ _ _ => 0
  | .backingOff _ _ => 0
  | .pushing _ i => onLoan i.loan
  | .parked => 0
  | .finished => 0

@[simp] theorem Producer.lent_pushing (pos : Nat) (i : Item) :
    (Producer.pushing pos i).lent = onLoan i.loan := rfl
@[simp] theorem Producer.lent_fetch (pos : Nat) : (Producer.fetch pos).lent = 0 := rfl
@[simp] theorem Producer.lent_pausing (pos t : Nat) : (Producer.pausing pos t).lent = 0 := rfl
@[simp] theorem Producer.lent_gated (pos : Nat) (k : Gate) (n d : Nat) :
    (Producer.gated pos k n d).lent = 0 := rfl
@[simp] theorem Producer.lent_backingOff (pos t : Nat) : (Producer.backingOff pos t).lent = 0 := rfl
@[simp] theorem Producer.lent_parked : Producer.parked.lent = 0 := rfl
@[simp] theorem Producer.lent_finished : Producer.finished.lent = 0 := rfl

/-- Only a producer pushing a unit holds its buffer. -/
theorem Producer.lent_eq_zero {p : Producer} (h : ∀ next item, p ≠ .pushing next item) :
    p.lent = 0 := by
  cases p with
  | pushing next item => exact absurd rfl (h next item)
  | _ => rfl

/-- Units the producer holds without a buffer. -/
def Producer.bare : Producer → Nat
  | .fetch _ => 0
  | .pausing _ _ => 0
  | .gated _ _ _ _ => 0
  | .backingOff _ _ => 0
  | .pushing _ i => noLoan i.loan
  | .parked => 0
  | .finished => 0

@[simp] theorem Producer.bare_pushing (pos : Nat) (i : Item) :
    (Producer.pushing pos i).bare = noLoan i.loan := rfl
@[simp] theorem Producer.bare_fetch (pos : Nat) : (Producer.fetch pos).bare = 0 := rfl
@[simp] theorem Producer.bare_pausing (pos t : Nat) : (Producer.pausing pos t).bare = 0 := rfl
@[simp] theorem Producer.bare_gated (pos : Nat) (k : Gate) (n d : Nat) :
    (Producer.gated pos k n d).bare = 0 := rfl
@[simp] theorem Producer.bare_backingOff (pos t : Nat) : (Producer.backingOff pos t).bare = 0 := rfl
@[simp] theorem Producer.bare_parked : Producer.parked.bare = 0 := rfl
@[simp] theorem Producer.bare_finished : Producer.finished.bare = 0 := rfl

/-- Buffers a run holds: the source's, and those of its units, queued, pushed, with its workers
or dispatched. -/
def Run.lent (r : Run) : Nat :=
  onLoan r.holding + (r.queue.map fun i => onLoan i.loan).sum + r.producer.lent +
    (r.workers.map Worker.lent).sum + (r.dispatched.map fun j => onLoan j.loan).sum

/-- Units of a run that hold no buffer. -/
def Run.bare (r : Run) : Nat :=
  (r.queue.map fun i => noLoan i.loan).sum + r.producer.bare + (r.workers.map Worker.bare).sum +
    (r.dispatched.map fun j => noLoan j.loan).sum

theorem Worker.lent_add_bare (x : Worker) : x.lent + x.bare = x.holds := by
  cases x <;> simp [onLoan_add_noLoan]

theorem Producer.lent_add_bare (x : Producer) : x.lent + x.bare = x.holds := by
  cases x <;> simp [onLoan_add_noLoan]

/-- Each unit of a run holds a buffer or none: the buffers of a run and its units without one
are its units and the source's buffer. -/
theorem Run.lent_add_bare (r : Run) : r.lent + r.bare = r.held + onLoan r.holding := by
  have hq : (r.queue.map fun i => onLoan i.loan).sum + (r.queue.map fun i => noLoan i.loan).sum =
      r.queue.length := by
    rw [← List.sum_map_add]
    simp [onLoan_add_noLoan]
  have hw : (r.workers.map Worker.lent).sum + (r.workers.map Worker.bare).sum =
      (r.workers.map Worker.holds).sum := by
    rw [← List.sum_map_add]
    simp [Worker.lent_add_bare]
  have hd : (r.dispatched.map fun j => onLoan j.loan).sum +
      (r.dispatched.map fun j => noLoan j.loan).sum = r.dispatched.length := by
    rw [← List.sum_map_add]
    simp [onLoan_add_noLoan]
  have hp := Producer.lent_add_bare r.producer
  simp only [Run.lent, Run.bare, Run.held]
  omega


/-! ## What the helpers of a step give back -/

/-- The pool went from `p` to `q` while the buffers on loan went from `before` to `after`: the
pool is still there, every buffer rented meanwhile is on loan, and every buffer let go was
returned, each counted once. -/
structure Loans (p q : Option BufferPool) (before after : Nat) : Prop where
  pool : q.isSome
  books : rented q + before + returned p = rented p + after + returned q

theorem Loans.refl {p : Option BufferPool} (hp : p.isSome) (n : Nat) : Loans p p n n :=
  ⟨hp, by omega⟩

theorem Loans.trans {p q s : Option BufferPool} {a b c : Nat} (h₁ : Loans p q a b)
    (h₂ : Loans q s b c) : Loans p s a c :=
  ⟨h₂.pool, by have := h₁.books; have := h₂.books; omega⟩

@[simp] theorem World.giveBack_plan (w : World) (l : Option Buffer) :
    (w.giveBack l).plan = w.plan := by
  obtain ⟨p, hp⟩ := World.giveBack_frame w l
  rw [hp]

@[simp] theorem World.discard_plan (w : World) (items : List Item) :
    (w.discard items).plan = w.plan := by
  obtain ⟨p, hp⟩ := World.discard_frame w items
  rw [hp]

/-- A buffer given back is returned, if the unit held one. -/
theorem World.giveBack_loans (w : World) (hp : w.pool.isSome) (l : Option Buffer) :
    Loans w.pool (w.giveBack l).pool (onLoan l) 0 := by
  obtain ⟨p, hw⟩ := Option.isSome_iff_exists.mp hp
  cases l with
  | none => exact Loans.refl hp 0
  | some b =>
    constructor
    · simp [World.giveBack, hw]
    · simp [World.giveBack, hw, rented, returned]
      omega

theorem World.foldl_giveBack_loans (w : World) (hp : w.pool.isSome) (items : List Item) :
    Loans w.pool (items.foldl (fun w i => w.giveBack i.loan) w).pool
      (items.map fun i => onLoan i.loan).sum 0 := by
  induction items generalizing w with
  | nil => exact Loans.refl hp 0
  | cons i items ih =>
    have h₁ := World.giveBack_loans w hp i.loan
    have h₂ := ih (w.giveBack i.loan) h₁.pool
    rw [List.foldl_cons, List.map_cons, List.sum_cons]
    exact ⟨h₂.pool, by have := h₁.books; have := h₂.books; omega⟩

/-- Dropped units give their buffers back. -/
theorem World.discard_loans (w : World) (hp : w.pool.isSome) (items : List Item) :
    Loans w.pool (w.discard items).pool (items.map fun i => onLoan i.loan).sum 0 :=
  World.foldl_giveBack_loans w hp items

/-- A source that holds buffers rents one before a receive unless it holds one already. -/
theorem Run.holdBuffer_loans (w : World) (r : Run) (hp : w.pool.isSome) :
    Loans w.pool (r.holdBuffer w).2.pool (onLoan r.holding) (onLoan (r.holdBuffer w).1.holding) ∧
      (w.plan.holdsBuffer = true → (r.holdBuffer w).1.holding.isSome) := by
  unfold Run.holdBuffer
  split
  next p hh hw =>
    refine ⟨⟨rfl, ?_⟩, fun _ => rfl⟩
    simp [rented, returned, hw, hh]
  next hne =>
    obtain ⟨p, hw⟩ := Option.isSome_iff_exists.mp hp
    refine ⟨Loans.refl hp _, fun hb => ?_⟩
    cases hh : r.holding with
    | none => exact absurd hw (hne p hb hh)
    | some b => rfl

/-- The source's buffer goes back. -/
theorem Run.returnBuffer_loans (w : World) (r : Run) (hp : w.pool.isSome) :
    Loans w.pool (r.returnBuffer w).2.pool (onLoan r.holding) 0 ∧
      (r.returnBuffer w).1.holding = none := by
  unfold Run.returnBuffer
  split
  next b p hh hw =>
    refine ⟨⟨rfl, ?_⟩, rfl⟩
    simp [rented, returned, hw, hh]
    omega
  next hne =>
    obtain ⟨p, hw⟩ := Option.isSome_iff_exists.mp hp
    cases hh : r.holding with
    | none => exact ⟨Loans.refl hp 0, rfl⟩
    | some b => exact absurd hw (hne b p hh)

/-- The producer's exit gives the source's buffer back. -/
theorem Run.exit_loans (w : World) (r : Run) (e : Ending) (hp : w.pool.isSome) :
    ∃ p, Loans w.pool p (onLoan r.holding) 0 ∧
      r.exit w e = ({ r with
          closed := r.closed || e.closes, holding := none, producer := .finished,
          ending := some e },
        { w with pool := p, selfStops := w.selfStops ++ [r.generation] }) := by
  let r₀ := if e.closes then { r with closed := true } else r
  obtain ⟨hl, hh⟩ := Run.returnBuffer_loans w r₀ hp
  obtain ⟨h, p, hb⟩ := Run.returnBuffer_frame w r₀
  rw [hb] at hl hh
  have hr₀ : r₀.holding = r.holding := by
    simp only [r₀]
    split <;> rfl
  refine ⟨p, hr₀ ▸ hl, ?_⟩
  dsimp only at hh
  subst hh
  cases hc : e.closes <;> simp_all [Run.exit, r₀]

/-- A producer stopped from outside gives back the source's buffer and that of the unit it was
pushing. A producer already gone holds none. -/
theorem Run.abort_loans (w : World) (r : Run) (hp : w.pool.isSome)
    (hs : r.producer = .finished → r.holding = none) :
    ∃ p, Loans w.pool p (onLoan r.holding + r.producer.lent) 0 ∧
      r.abort w = ({ r with producer := .finished, holding := none }, { w with pool := p }) := by
  unfold Run.abort
  split
  next hf =>
    have hfin : r.producer = .finished := beq_iff_eq.mp hf
    have hh := hs hfin
    refine ⟨w.pool, ?_, ?_⟩
    · rw [hfin, hh]
      exact Loans.refl hp 0
    · cases r
      simp_all
  next =>
    dsimp only
    split
    next pos item hpush =>
      -- the pushed unit's buffer goes back first, then the source's
      obtain ⟨p₁, hg⟩ := World.giveBack_frame w item.loan
      have h₁ := World.giveBack_loans w hp item.loan
      rw [hg] at h₁ ⊢
      obtain ⟨h₂, hh⟩ := Run.returnBuffer_loans { w with pool := p₁ } r h₁.pool
      obtain ⟨h, p, hb⟩ := Run.returnBuffer_frame { w with pool := p₁ } r
      rw [hb] at h₂ hh ⊢
      dsimp only at hh h₂ h₁ ⊢
      subst hh
      refine ⟨p, ?_, rfl⟩
      rw [hpush, Producer.lent_pushing]
      exact ⟨h₂.pool, by have := h₁.books; have := h₂.books; omega⟩
    next hnp =>
      obtain ⟨h₂, hh⟩ := Run.returnBuffer_loans w r hp
      obtain ⟨h, p, hb⟩ := Run.returnBuffer_frame w r
      rw [hb] at h₂ hh ⊢
      dsimp only at hh h₂ ⊢
      subst hh
      have hl : r.producer.lent = 0 := by
        cases hq : r.producer <;> simp_all
      refine ⟨p, ?_, rfl⟩
      rw [hl, Nat.add_zero]
      exact h₂

/-! ## The buffers of a run -/

/-- A step from `x` to `y` keeps the books of the pool, counting `handed` buffers given to the
run from outside: every buffer the step rents is held, and every buffer it lets go is returned.
Besides, the plan stays, a producer that has ended holds no buffer, and a source that holds a
buffer for each receive makes no unit without one: the units without a buffer are at most those
before and the `bare` ones handed over. -/
structure Lends (x y : Run × World) (handed bare : Nat) : Prop where
  loans : Loans x.2.pool y.2.pool (x.1.lent + handed) y.1.lent
  plan : y.2.plan = x.2.plan
  settled : y.1.producer = .finished → y.1.holding = none
  bare : x.2.plan.holdsBuffer = true → y.1.bare ≤ x.1.bare + bare

/-- A step that only moves buffers from `x` to `x'` and hands some over, followed by one that
keeps the books. -/
theorem Lends.pre {x x' y : Run × World} {a b handed bare : Nat} (hl : Lends x' y handed bare)
    (hloans : Loans x.2.pool x'.2.pool (x.1.lent + a) (x'.1.lent + handed))
    (hplan : x'.2.plan = x.2.plan)
    (hbare : x.2.plan.holdsBuffer = true → x'.1.bare + bare ≤ x.1.bare + b) :
    Lends x y a b where
  loans := hloans.trans hl.loans
  plan := hl.plan.trans hplan
  settled := hl.settled
  bare hb := by
    have := hl.bare (hplan ▸ hb)
    have := hbare hb
    omega

/-- An exit of a producer that holds no unit gives the source's buffer back. -/
theorem Lends.exit {r r₀ : Run} {w w₀ : World} {handed bare : Nat} (e : Ending)
    (hloans : Loans w.pool w₀.pool (r.lent + handed) r₀.lent) (hplan : w₀.plan = w.plan)
    (hbare : r₀.bare ≤ r.bare + bare) (hidle : r₀.producer.lent = 0) :
    Lends (r, w) (r₀.exit w₀ e) handed bare := by
  obtain ⟨p, hl, hx⟩ := Run.exit_loans w₀ r₀ e hloans.pool
  rw [hx]
  have hb := hloans.books
  have hb' := hl.books
  refine ⟨⟨hl.pool, ?_⟩, hplan, fun _ => rfl, fun _ => ?_⟩
  · simp only [Run.lent, Producer.lent_finished, onLoan_none, hidle] at hb ⊢
    omega
  · simp only [Run.bare, Producer.bare_finished] at hbare ⊢
    omega

/-- A producer that settles into a state holding no unit, once the pool has kept the books,
keeps them. -/
theorem Lends.settle {x : Run × World} (r : Run) {w : World} {q : Producer} {handed bare : Nat}
    (hloans : Loans x.2.pool w.pool (x.1.lent + handed) r.lent) (hplan : w.plan = x.2.plan)
    (hbare : x.2.plan.holdsBuffer = true → r.bare ≤ x.1.bare + bare)
    (hidle : r.producer.lent = 0) (hq : q.holds = 0) (hfin : q ≠ .finished) :
    Lends x ({ r with producer := q }, w) handed bare := by
  have hq' := Producer.lent_add_bare q
  refine ⟨⟨hloans.pool, ?_⟩, hplan, fun h => absurd h hfin, fun hb => ?_⟩
  · have hb' := hloans.books
    simp only [Run.lent] at hb' ⊢
    omega
  · have hb' := hbare hb
    simp only [Run.bare] at hb' ⊢
    omega

theorem Run.lent_setWorker {r : Run} {i : Nat} {old : Worker} (h : r.workers[i]? = some old)
    (x : Worker) : (r.setWorker i x).lent + old.lent = r.lent + x.lent := by
  have := sum_map_set h Worker.lent x
  simp only [Run.lent, Run.setWorker]
  omega

theorem Run.bare_setWorker {r : Run} {i : Nat} {old : Worker} (h : r.workers[i]? = some old)
    (x : Worker) : (r.setWorker i x).bare + old.bare = r.bare + x.bare := by
  have := sum_map_set h Worker.bare x
  simp only [Run.bare, Run.setWorker]
  omega

/-- Pushing a unit keeps the books of the pool, the unit's buffer handed to the run: the queue
takes it, or refuses it and gives its buffer back, or gives back the buffer of the unit it
evicts. -/
theorem Run.enqueue_lends (w : World) (r : Run) (next : Nat) (item : Item) (hp : w.pool.isSome)
    (hidle : r.producer.lent = 0) :
    Lends (r, w) (r.enqueue w next item) (onLoan item.loan) (noLoan item.loan) := by
  unfold Run.enqueue
  split
  · -- a closed queue refuses the unit
    have hd := World.discard_loans w hp [item]
    refine Lends.exit _ ⟨hd.pool, ?_⟩ (World.discard_plan w [item]) (Nat.le_add_right _ _)
      hidle
    have := hd.books
    simp only [List.map_cons, List.map_nil, List.sum_cons, List.sum_nil] at this
    omega
  · split
    · refine ⟨⟨hp, ?_⟩, rfl, (fun h => nomatch h), fun _ => ?_⟩
      · simp only [Run.lent, List.map_append, List.sum_append, List.map_cons, List.map_nil,
          List.sum_cons, List.sum_nil, Producer.lent_fetch, hidle]
        omega
      · simp only [Run.bare, List.map_append, List.sum_append, List.map_cons, List.map_nil,
          List.sum_cons, List.sum_nil, Producer.bare_fetch]
        omega
    · split
      next _ _ old rest _ hq =>
        -- the oldest unit is evicted, and its buffer goes back
        have hd := World.discard_loans w hp [old]
        have hb := hd.books
        simp only [List.map_cons, List.map_nil, List.sum_cons, List.sum_nil] at hb
        split
        · refine Lends.exit _ ⟨hd.pool, ?_⟩ (World.discard_plan w [old]) ?_ hidle
          · simp only [Run.lent, hq, List.map_append, List.sum_append, List.map_cons,
              List.map_nil, List.sum_cons, List.sum_nil]
            omega
          · simp only [Run.bare, hq, List.map_append, List.sum_append, List.map_cons,
              List.map_nil, List.sum_cons, List.sum_nil]
            omega
        · refine ⟨⟨hd.pool, ?_⟩, World.discard_plan w [old], (fun h => nomatch h),
            fun _ => ?_⟩
          · simp only [Run.lent, hq, List.map_append, List.sum_append, List.map_cons,
              List.map_nil, List.sum_cons, List.sum_nil, Producer.lent_fetch, hidle]
            omega
          · simp only [Run.bare, hq, List.map_append, List.sum_append, List.map_cons,
              List.map_nil, List.sum_cons, List.sum_nil, Producer.bare_fetch]
            omega
      next _ _ _ hq =>
        refine ⟨⟨hp, ?_⟩, rfl, (fun h => nomatch h), fun _ => ?_⟩
        · simp only [Run.lent, hq, List.map_cons, List.map_nil, List.sum_cons, List.sum_nil,
            Producer.lent_fetch, hidle]
          omega
        · simp only [Run.bare, hq, List.map_cons, List.map_nil, List.sum_cons, List.sum_nil,
            Producer.bare_fetch]
          omega
      next =>
        refine ⟨⟨hp, ?_⟩, rfl, (fun h => nomatch h), fun _ => ?_⟩
        · simp only [Run.lent, Producer.lent_pushing, hidle]
          omega
        · simp only [Run.bare, Producer.bare_pushing]
          omega

/-- A request to the source keeps the books of the pool: a buffer rented before a receive is
held by the source, then by the unit delivered into it, or goes back when the receive fails. A
source that holds buffers delivers no unit without one. -/
theorem Run.fetch_lends (w : World) (r : Run) (pos : Nat) (hp : w.pool.isSome)
    (hidle : r.producer.lent = 0) : Lends (r, w) (r.fetch w pos) 0 0 := by
  obtain ⟨hl, hsome⟩ := Run.holdBuffer_loans w r hp
  obtain ⟨h, p, hb⟩ := Run.holdBuffer_frame w r
  rw [hb] at hl hsome
  dsimp only at hl hsome
  -- the buffer the source holds once it has asked for a receive
  have hheld : Loans w.pool p (r.lent + 0) { r with holding := h }.lent :=
    ⟨hl.pool, by have := hl.books; simp only [Run.lent]; omega⟩
  unfold Run.fetch
  rw [hb]
  dsimp only
  split
  next =>
    exact Lends.settle { r with holding := h } hheld rfl (fun _ => Nat.le_refl _) hidle
      Producer.holds_parked (by simp)
  next work _ =>
    -- the unit delivered holds the buffer
    refine Lends.pre (Run.enqueue_lends _ _ (pos + 1) ⟨work, h⟩ hl.pool hidle) ⟨hl.pool, ?_⟩
      rfl fun hbuf => ?_
    · have := hl.books
      simp only [Run.lent, onLoan_none]
      omega
    · obtain ⟨b, rfl⟩ := Option.isSome_iff_exists.mp (hsome hbuf)
      simp only [Run.bare, noLoan_some]
      omega
  next e cancel _ =>
    -- the buffer goes back and the parent may be cancelled; then the failure is classified
    obtain ⟨hl', hh'⟩ :=
      Run.returnBuffer_loans { w with pool := p } { r with holding := h } hl.pool
    obtain ⟨h', p', hr⟩ := Run.returnBuffer_frame { w with pool := p } { r with holding := h }
    rw [hr] at hl' hh'
    dsimp only at hl' hh'
    subst hh'
    have hback : Loans w.pool p' (r.lent + 0) { r with holding := none }.lent :=
      ⟨hl'.pool, by
        have := hl.books
        have := hl'.books
        simp only [Run.lent, onLoan_none]
        omega⟩
    obtain ⟨c, b, hc⟩ :=
      Run.cancelParent_frame { w with pool := p' } { r with holding := none } cancel
    rw [hr]
    dsimp only
    rw [hc]
    dsimp only
    split
    · split
      · exact Lends.settle { r with holding := none, cancelled := c } hback rfl
          (fun _ => Nat.le_refl _) hidle (Producer.holds_backingOff _ _) (by simp)
      · exact Lends.settle { r with holding := none, cancelled := c } hback rfl
          (fun _ => Nat.le_refl _) hidle (Producer.holds_fetch _) (by simp)
    · exact Lends.exit _ hback rfl (Nat.le_refl _) hidle
    · exact Lends.exit _ hback rfl (Nat.le_refl _) hidle
  next => exact Lends.exit _ hheld rfl (le_refl _) hidle
  next =>
    exact Lends.settle { r with holding := h } hheld rfl (fun _ => Nat.le_refl _) hidle
      (Producer.holds_pausing _ _) (by simp)
  next =>
    exact Lends.settle { r with holding := h } hheld rfl (fun _ => Nat.le_refl _) hidle
      (Producer.holds_gated _ _ _ _) (by simp)

/-- A producer holding no unit goes back to the source. -/
theorem Run.resume_lends (w : World) (r : Run) (pos : Nat) (hp : w.pool.isSome)
    (hidle : r.producer.lent = 0) : Lends (r, w) ({ r with producer := .fetch pos }, w) 0 0 :=
  Lends.settle r (Loans.refl hp _) rfl (fun _ => Nat.le_refl _) hidle (Producer.holds_fetch pos)
    (by simp)

/-- A move of the producer keeps the books of the pool. -/
theorem Run.stepProducer_lends {w : World} {r : Run} {x : Run × World}
    (h : r.stepProducer w = some x) (hp : w.pool.isSome) : Lends (r, w) x 0 0 := by
  rcases Run.stepProducer_cases h with
    ⟨next, item, hpr, ⟨-, rfl⟩ | ⟨-, -, rfl⟩⟩ | ⟨hpush, ⟨-, rfl⟩ | ⟨-, pos, ⟨-, rfl⟩ | rfl⟩⟩
  · -- a cancelled or closed run drops the unit waiting to be pushed, and its buffer goes back
    have hd := World.discard_loans w hp [item]
    obtain ⟨p, hl, hx⟩ := Run.exit_loans (w.discard [item]) r (.returned .cancelled) hd.pool
    rw [hx]
    have hb := hd.books
    have hb' := hl.books
    refine ⟨⟨hl.pool, ?_⟩, World.discard_plan w [item], fun _ => rfl, fun _ => ?_⟩
    · simp only [Run.lent, hpr, Producer.lent_pushing, Producer.lent_finished, onLoan_none,
        List.map_cons, List.map_nil, List.sum_cons, List.sum_nil] at hb ⊢
      omega
    · simp only [Run.bare, hpr, Producer.bare_pushing, Producer.bare_finished]
      omega
  · -- the unit goes into the queue with its buffer
    refine ⟨⟨hp, ?_⟩, rfl, (fun h => nomatch h), fun _ => ?_⟩
    · simp only [Run.lent, hpr, Producer.lent_pushing, Producer.lent_fetch, List.map_append,
        List.sum_append, List.map_cons, List.map_nil, List.sum_cons, List.sum_nil]
      omega
    · simp only [Run.bare, hpr, Producer.bare_pushing, Producer.bare_fetch, List.map_append,
        List.sum_append, List.map_cons, List.map_nil, List.sum_cons, List.sum_nil]
      omega
  · exact Lends.exit _ (Loans.refl hp _) rfl (Nat.le_refl _) (Producer.lent_eq_zero hpush)
  · exact Run.fetch_lends w r pos hp (Producer.lent_eq_zero hpush)
  · exact Run.resume_lends w r pos hp (Producer.lent_eq_zero hpush)

/-- A unit run as a task of its own is dispatched with its buffer, or processed at once, or lost
when its peer panics; either way its buffer goes back once it is gone. The workers are left as
they are. -/
theorem Run.spawn_lends (w : World) (r : Run) (item : Item) (hp : w.pool.isSome)
    (hs : r.producer = .finished → r.holding = none) :
    Lends (r, w) (r.spawn w item) (onLoan item.loan) (noLoan item.loan) ∧
      (r.spawn w item).1.workers = r.workers := by
  rcases Run.begin_cases w r item with ⟨-, h⟩ | ⟨-, ⟨j, hj, h⟩ | ⟨j, hj, h⟩⟩
  · -- the peer panics: the unit is gone, and its buffer goes back
    have hg := World.giveBack_loans w hp item.loan
    have hb := hg.books
    simp only [Run.spawn, h, Run.givePermit]
    refine ⟨⟨⟨hg.pool, ?_⟩, World.giveBack_plan w item.loan, hs, fun _ => ?_⟩, trivial⟩
    · simp only [Run.lent]
      omega
    · simp only [Run.bare]
      omega
  · simp only [Run.spawn, h]
    refine ⟨⟨⟨hp, ?_⟩, rfl, hs, fun _ => ?_⟩, trivial⟩
    · simp only [Run.lent, hj, List.map_append, List.sum_append, List.map_cons, List.map_nil,
        List.sum_cons, List.sum_nil]
      omega
    · simp only [Run.bare, hj, List.map_append, List.sum_append, List.map_cons, List.map_nil,
        List.sum_cons, List.sum_nil]
      omega
  · obtain ⟨rs, fl, -, hf⟩ := Run.finish_frame
      { w with
        stats := { w.stats with active := w.stats.active + 1 }
        counters := { w.counters with started := w.counters.started + 1 } }
      { r with started := r.started + 1 } j
    have hg := World.giveBack_loans
      { w with
        stats := { w.stats with active := w.stats.active + 1 }
        counters := { w.counters with started := w.counters.started + 1 } } hp j.loan
    have hb := hg.books
    simp only [Run.spawn, h, hf, Run.givePermit]
    refine ⟨⟨⟨hg.pool, ?_⟩, rfl, hs, fun _ => ?_⟩, trivial⟩
    · simp only [Run.lent, hj] at hb ⊢
      omega
    · simp only [Run.bare]
      omega

/-- A worker that runs its unit as a task of its own is idle again. -/
theorem Run.spawn_idle_lends (w : World) (r : Run) (i : Nat) (item : Item) {old : Worker}
    {handed bare : Nat} (hi : r.workers[i]? = some old) (hp : w.pool.isSome)
    (hs : r.producer = .finished → r.holding = none)
    (hlent : old.lent + handed = onLoan item.loan) (hbare : old.bare + bare = noLoan item.loan) :
    Lends (r, w) (let (r', w') := r.spawn w item; (r'.setWorker i .idle, w')) handed bare := by
  obtain ⟨⟨hl, hplan, hset, hbr⟩, hworkers⟩ := Run.spawn_lends w r item hp hs
  have hlw := Run.lent_setWorker (hworkers ▸ hi) .idle
  have hbw := Run.bare_setWorker (hworkers ▸ hi) .idle
  have hb := hl.books
  simp only [Worker.lent_idle, Worker.bare_idle] at hlw hbw
  refine ⟨⟨hl.pool, ?_⟩, hplan, hset, fun hbuf => ?_⟩
  · dsimp only at hb ⊢
    omega
  · have := hbr hbuf
    dsimp only at this ⊢
    omega

/-- A worker that took a unit from the queue keeps its buffer while it runs the unit inline or
waits with it for a permit, and hands it on to a unit spawned as a task of its own. -/
theorem Run.take_lends (w : World) (r : Run) (i : Nat) (item : Item)
    (hi : r.workers[i]? = some .idle) (hp : w.pool.isSome)
    (hs : r.producer = .finished → r.holding = none) :
    Lends (r, w) (r.take w i item) (onLoan item.loan) (noLoan item.loan) := by
  unfold Run.take
  split
  next =>
    -- units run inline
    rcases Run.begin_cases w r item with ⟨-, h⟩ | ⟨-, ⟨j, hj, h⟩ | ⟨j, hj, h⟩⟩
    · -- the peer panics: the worker is gone, and the buffer goes back
      have hg := World.giveBack_loans w hp item.loan
      have hb := hg.books
      have hlw := Run.lent_setWorker hi .exited
      have hbw := Run.bare_setWorker hi .exited
      simp only [h]
      refine ⟨⟨hg.pool, ?_⟩, World.giveBack_plan w item.loan, hs, fun _ => ?_⟩
      · simp only [Worker.lent_idle, Worker.lent_exited] at hlw
        dsimp only
        omega
      · simp only [Worker.bare_idle, Worker.bare_exited] at hbw
        dsimp only
        omega
    · have hlw := Run.lent_setWorker hi (.busy j)
      have hbw := Run.bare_setWorker hi (.busy j)
      simp only [h]
      refine ⟨⟨hp, ?_⟩, rfl, hs, fun _ => ?_⟩
      · simp only [Run.lent, Run.setWorker, Worker.lent_idle, Worker.lent_busy, hj] at hlw ⊢
        omega
      · simp only [Run.bare, Run.setWorker, Worker.bare_idle, Worker.bare_busy, hj] at hbw ⊢
        omega
    · obtain ⟨rs, fl, -, hf⟩ := Run.finish_frame
        { w with
          stats := { w.stats with active := w.stats.active + 1 }
          counters := { w.counters with started := w.counters.started + 1 } }
        { r with started := r.started + 1 } j
      have hg := World.giveBack_loans
        { w with
          stats := { w.stats with active := w.stats.active + 1 }
          counters := { w.counters with started := w.counters.started + 1 } } hp j.loan
      have hb := hg.books
      have hlw := Run.lent_setWorker hi .idle
      have hbw := Run.bare_setWorker hi .idle
      simp only [h, hf]
      refine ⟨⟨hg.pool, ?_⟩, rfl, hs, fun _ => ?_⟩
      · simp only [Run.lent, Run.setWorker, Worker.lent_idle, hj] at hlw hb ⊢
        omega
      · simp only [Run.bare, Run.setWorker, Worker.bare_idle] at hbw ⊢
        omega
  next p _ =>
    split
    next =>
      -- a free permit and nobody waiting: the unit is spawned
      exact Lends.pre (Run.spawn_idle_lends w { r with permits := some p } i item hi hp hs
        (by rw [Worker.lent_idle, Nat.zero_add]) (by rw [Worker.bare_idle, Nat.zero_add]))
        (Loans.refl hp _) rfl fun _ => Nat.le_refl _
    next =>
      -- others wait for a permit already: the worker waits in line with the unit
      have hlw := Run.lent_setWorker hi (.acquiring item)
      have hbw := Run.bare_setWorker hi (.acquiring item)
      refine ⟨⟨hp, ?_⟩, rfl, hs, fun _ => ?_⟩
      · simp only [Run.lent, Run.setWorker, Worker.lent_idle, Worker.lent_acquiring] at hlw ⊢
        omega
      · simp only [Run.bare, Run.setWorker, Worker.bare_idle, Worker.bare_acquiring] at hbw ⊢
        omega
  next =>
    -- no permit is free: the worker waits in line with the unit
    have hlw := Run.lent_setWorker hi (.acquiring item)
    have hbw := Run.bare_setWorker hi (.acquiring item)
    refine ⟨⟨hp, ?_⟩, rfl, hs, fun _ => ?_⟩
    · simp only [Run.lent, Run.setWorker, Worker.lent_idle, Worker.lent_acquiring] at hlw ⊢
      omega
    · simp only [Run.bare, Run.setWorker, Worker.bare_idle, Worker.bare_acquiring] at hbw ⊢
      omega

/-- A move of a worker keeps the books of the pool: a unit it takes keeps its buffer, and a unit
that ends or is dropped gives it back. -/
theorem Run.stepWorker_lends {w : World} {r : Run} {i : Nat} {x : Run × World}
    (h : r.stepWorker w i = some x) (hp : w.pool.isSome)
    (hs : r.producer = .finished → r.holding = none) : Lends (r, w) x 0 0 := by
  unfold Run.stepWorker at h
  split at h
  next hi =>
    -- an idle worker ends, or takes the head of the queue
    have hlw := Run.lent_setWorker hi .exited
    have hbw := Run.bare_setWorker hi .exited
    simp only [Worker.lent_idle, Worker.lent_exited, Worker.bare_idle,
      Worker.bare_exited] at hlw hbw
    split at h
    · cases h
      exact ⟨⟨hp, by dsimp only; omega⟩, rfl, hs, fun _ => by dsimp only; omega⟩
    · split at h
      next item rest hq =>
        cases h
        refine Lends.pre (Run.take_lends w { r with queue := rest } i item hi hp hs) ⟨hp, ?_⟩
          rfl fun _ => ?_
        · simp only [Run.lent, hq, List.map_cons, List.sum_cons]
          omega
        · simp only [Run.bare, hq, List.map_cons, List.sum_cons]
          omega
      next =>
        split at h
        · cases h
          exact ⟨⟨hp, by dsimp only; omega⟩, rfl, hs, fun _ => by dsimp only; omega⟩
        · cases h
  next job hi =>
    -- a unit processed inline ends, and its buffer goes back
    obtain ⟨rs, fl, -, hf⟩ := Run.finish_frame w r job
    rw [hf] at h
    split at h
    · cases h
      have hg := World.giveBack_loans w hp job.loan
      have hb := hg.books
      have hlw := Run.lent_setWorker hi .idle
      have hbw := Run.bare_setWorker hi .idle
      refine ⟨⟨hg.pool, ?_⟩, rfl, hs, fun _ => ?_⟩
      · simp only [Run.lent, Run.setWorker, Worker.lent_busy, Worker.lent_idle] at hlw ⊢
        omega
      · simp only [Run.bare, Run.setWorker, Worker.bare_busy, Worker.bare_idle] at hbw ⊢
        omega
    · cases h
  next item hi =>
    split at h
    · -- a cancelled run: the unit waiting for a permit is dropped, and its buffer goes back
      cases h
      have hd := World.discard_loans w hp [item]
      have hb := hd.books
      have hlw := Run.lent_setWorker hi .exited
      have hbw := Run.bare_setWorker hi .exited
      refine ⟨⟨hd.pool, ?_⟩, World.discard_plan w [item], hs, fun _ => ?_⟩
      · simp only [Run.lent, Run.setWorker, Worker.lent_acquiring, Worker.lent_exited,
          List.map_cons, List.map_nil, List.sum_cons, List.sum_nil] at hlw hb ⊢
        omega
      · simp only [Run.bare, Run.setWorker, Worker.bare_acquiring, Worker.bare_exited] at hbw ⊢
        omega
    · split at h
      next p j rest _ _ =>
        split at h
        next hj =>
          -- the first free permit is this worker's: the unit is spawned with its buffer
          subst hj
          cases h
          exact Lends.pre (Run.spawn_idle_lends w { r with permits := some p, waiters := rest } j
            item hi hp hs (Nat.add_zero _) (Nat.add_zero _)) (Loans.refl hp _) rfl
            fun _ => Nat.le_refl _
        · cases h
      · cases h
  next => cases h

/-- Removing one element of a list takes it out of a sum over the list. -/
theorem sum_map_eraseIdx {α : Type} {l : List α} {k : Nat} {x : α} (h : l[k]? = some x)
    (f : α → Nat) : ((l.eraseIdx k).map f).sum + f x = (l.map f).sum := by
  induction l generalizing k with
  | nil => simp at h
  | cons y l ih =>
    cases k with
    | zero =>
      simp only [List.getElem?_cons_zero, Option.some.injEq] at h
      subst h
      simp only [List.eraseIdx_cons_zero, List.map_cons, List.sum_cons]
      omega
    | succ k =>
      simp only [List.getElem?_cons_succ] at h
      have := ih h
      simp only [List.eraseIdx_cons_succ, List.map_cons, List.sum_cons]
      omega

/-- A move of a dispatched unit that ends gives its buffer back. -/
theorem Run.stepDispatched_lends {w : World} {r : Run} {k : Nat} {x : Run × World}
    (h : r.stepDispatched w k = some x) (hp : w.pool.isSome)
    (hs : r.producer = .finished → r.holding = none) : Lends (r, w) x 0 0 := by
  unfold Run.stepDispatched at h
  split at h
  next job hk =>
    have hlent := sum_map_eraseIdx hk fun j => onLoan j.loan
    have hbare := sum_map_eraseIdx hk fun j => noLoan j.loan
    obtain ⟨rs, fl, -, hf⟩ :=
      Run.finish_frame w { r with dispatched := r.dispatched.eraseIdx k } job
    rw [hf] at h
    split at h
    · cases h
      have hg := World.giveBack_loans w hp job.loan
      have hb := hg.books
      refine ⟨⟨hg.pool, ?_⟩, rfl, hs, fun _ => ?_⟩
      · simp only [Run.lent, Run.givePermit] at hlent ⊢
        omega
      · simp only [Run.bare, Run.givePermit] at hbare ⊢
        omega
    · cases h
  next => cases h

/-- A move of any task of a run keeps the books of the pool. -/
theorem Run.move_lends {w : World} {r : Run} {t : Task} {x : Run × World}
    (h : r.move w t = some x) (hp : w.pool.isSome)
    (hs : r.producer = .finished → r.holding = none) : Lends (r, w) x 0 0 := by
  cases t with
  | producer => exact Run.stepProducer_lends h hp
  | worker i => exact Run.stepWorker_lends h hp hs
  | dispatched k => exact Run.stepDispatched_lends h hp hs

/-! ## The buffers of a node -/

/-- Buffers the runs of a node hold. -/
def Machine.lent (m : Machine) : Nat := (m.runs.map Run.lent).sum

/-- Units of a node's runs that hold no buffer. -/
def Machine.bare (m : Machine) : Nat := (m.runs.map Run.bare).sum

/-- Receives pending in the runs of a node: sources that hold a buffer while they wait. -/
def Machine.receiving (m : Machine) : Nat := (m.runs.map fun r => onLoan r.holding).sum

/-- The books of a node's pool since it was `pool`, under `plan`: the plan stays; every buffer
rented since then is held by a run or was returned, each counted once; a producer that has ended
holds no buffer; and when the source holds a buffer for each receive, every unit of every run
holds one. -/
structure Machine.Lending (m : Machine) (plan : Plan) (pool : Option BufferPool) : Prop where
  planned : m.world.plan = plan
  loans : Loans pool m.world.pool 0 m.lent
  settled : ∀ r ∈ m.runs, r.producer = .finished → r.holding = none
  bare : plan.holdsBuffer = true → m.bare = 0

section

variable {plan : Plan} {pool : Option BufferPool}

/-- After a run moved, the runs of the node are the moved run and runs that were there. -/
theorem Machine.mem_put {m : Machine} {p : Place} {r' x : Run} {w : World}
    (h : x ∈ (m.put r' w p).runs) : x = r' ∨ x ∈ m.runs := by
  cases p with
  | running =>
    simp only [Machine.put, Machine.runs, Option.toList_some, List.singleton_append,
      List.mem_cons, List.mem_append] at h ⊢
    tauto
  | stopping =>
    cases hs : m.stopping with
    | none => simp_all [Machine.put, Machine.runs]
    | some s =>
      simp only [Machine.put, Machine.runs, hs, Option.map_some, Option.toList_some,
        List.mem_append, List.mem_singleton] at h ⊢
      tauto
  | background i =>
    simp only [Machine.put, Machine.runs, List.mem_append] at h ⊢
    rcases h with h | h
    · exact .inr (.inl h)
    · rcases List.mem_or_eq_of_mem_set h with h | h
      · exact .inr (.inr h)
      · exact .inl h

/-- The units without a buffer of a run are among the node's. -/
theorem Machine.bare_le {m : Machine} {p : Place} {r : Run} (hr : m.runAt p = some r) :
    r.bare ≤ m.bare :=
  List.le_sum_of_mem (List.mem_map_of_mem (Machine.mem_runs hr))

/-- A move of a task keeps the books of the node's pool. -/
theorem Machine.put_lending {m : Machine} {p : Place} {r r' : Run} {w' : World}
    (hl : m.Lending plan pool) (hr : m.runAt p = some r)
    (hlend : Lends (r, m.world) (r', w') 0 0) : (m.put r' w' p).Lending plan pool := by
  obtain ⟨hloans, hplan, hset, hbare⟩ := hlend
  dsimp only at hloans hplan hset hbare
  have hlent := Machine.sum_put hr Run.lent r' w'
  have hbares := Machine.sum_put hr Run.bare r' w'
  refine ⟨?_, ⟨?_, ?_⟩, fun x hx => ?_, fun hbuf => ?_⟩
  · rw [Machine.put_world, hplan]
    exact hl.planned
  · rw [Machine.put_world]
    exact hloans.pool
  · have h₁ := hl.loans.books
    have h₂ := hloans.books
    simp only [Machine.put_world, Machine.lent] at h₁ ⊢
    omega
  · rcases Machine.mem_put hx with rfl | hx
    · exact hset
    · exact hl.settled x hx
  · have h₀ := hl.bare hbuf
    have hle := Machine.bare_le hr
    have := hbare (by rw [hl.planned]; exact hbuf)
    simp only [Machine.bare] at h₀ hle ⊢
    omega

/-- A stop taking the running run gives back the buffers of its queued units. -/
theorem Machine.beginStop_lending {m : Machine} {r : Run} (hl : m.Lending plan pool)
    (hslot : m.slot = some r) (hs : m.stopping = none) :
    (m.beginStop r).Lending plan pool := by
  have hruns : m.runs = r :: m.background := by simp [Machine.runs, hslot, hs]
  have hruns' :
      (m.beginStop r).runs =
        { r with cancelled := true, queue := [], closed := true } :: m.background := by
    simp [Machine.runs, Machine.beginStop]
  have hd := World.discard_loans m.world hl.loans.pool r.queue
  have h₁ := hl.loans.books
  have h₂ := hd.books
  simp only [Machine.lent, hruns, List.map_cons, List.sum_cons] at h₁
  refine ⟨?_, ⟨hd.pool, ?_⟩, fun x hx => ?_, fun hbuf => ?_⟩
  · simp only [Machine.beginStop, World.discard_plan]
    exact hl.planned
  · simp only [Machine.lent, hruns', List.map_cons, List.sum_cons]
    simp only [Run.lent, List.map_nil, List.sum_nil] at h₁ ⊢
    simp only [Machine.beginStop]
    omega
  · rw [hruns', List.mem_cons] at hx
    rcases hx with rfl | hx
    · exact hl.settled r (by rw [hruns]; exact List.mem_cons_self)
    · exact hl.settled x (by rw [hruns]; exact List.mem_cons_of_mem r hx)
  · have h₀ := hl.bare hbuf
    simp only [Machine.bare, hruns, hruns', List.map_cons, List.sum_cons] at h₀ ⊢
    simp only [Run.bare, List.map_nil, List.sum_nil] at h₀ ⊢
    omega

/-- A run whose tasks are all gone, whose queue is empty and whose producer holds no buffer holds
none, and no unit. -/
theorem Run.lent_of_quiet {r : Run} (h : r.quiet = true) (hq : r.queue = [])
    (hs : r.producer = .finished → r.holding = none) : r.lent = 0 ∧ r.bare = 0 := by
  simp only [Run.quiet, Bool.and_eq_true, beq_iff_eq, List.all_eq_true,
    List.isEmpty_iff] at h
  obtain ⟨⟨hp, hw⟩, hd⟩ := h
  have hlent : (r.workers.map Worker.lent).sum = 0 :=
    List.sum_eq_zero_iff_forall_eq_nat.mpr fun n hn => by
      obtain ⟨x, hx, rfl⟩ := List.mem_map.mp hn
      rw [hw x hx, Worker.lent_exited]
  have hbare : (r.workers.map Worker.bare).sum = 0 :=
    List.sum_eq_zero_iff_forall_eq_nat.mpr fun n hn => by
      obtain ⟨x, hx, rfl⟩ := List.mem_map.mp hn
      rw [hw x hx, Worker.bare_exited]
  simp only [Run.lent, Run.bare, hs hp, hp, hq, hd, hlent, hbare, onLoan_none,
    Producer.lent_finished, Producer.bare_finished, List.map_nil, List.sum_nil, Nat.add_zero,
    and_self]

/-- The end of a stop gives back the buffers its producer held; a run with work left keeps the
others in the background. -/
theorem Machine.completeStop_lending {m m' : Machine} (hwf : m.Wf) (hl : m.Lending plan pool)
    (h : m.completeStop? = some m') : m'.Lending plan pool := by
  unfold Machine.completeStop? at h
  split at h
  · cases h
  next s hs =>
    have hruns : m.runs = m.slot.toList ++ s.run :: m.background := by simp [Machine.runs, hs]
    have hset := hl.settled s.run (by rw [hruns]; simp)
    obtain ⟨p, ha, hab⟩ := Run.abort_loans m.world s.run hl.loans.pool hset
    rw [hab] at h
    dsimp only at h
    split at h
    · cases h
      have h₁ := hl.loans.books
      have h₂ := ha.books
      have h₀ := hl.bare
      simp only [Machine.lent, Machine.bare, hruns, List.map_append, List.map_cons,
        List.sum_append, List.sum_cons] at h₁ h₀
      have hmem : ∀ x ∈ m.slot.toList ++ m.background, x ∈ m.runs := fun x hx => by
        rw [hruns]
        simp only [List.mem_append, List.mem_cons] at hx ⊢
        tauto
      cases hd : s.run.quiet
      · -- a run with work left goes on in the background, its producer gone
        refine ⟨hl.planned, ⟨ha.pool, ?_⟩, fun x hx => ?_, fun hbuf => ?_⟩
        · simp only [Machine.lent, Machine.runs, Bool.false_eq_true, ↓reduceIte,
            Option.toList_none, Option.map_none, List.append_nil, List.map_append, List.map_cons,
            List.map_nil, List.sum_append, List.sum_cons, List.sum_nil]
          simp only [Run.lent, onLoan_none, Producer.lent_finished] at h₁ ⊢
          omega
        · simp only [Machine.runs, Bool.false_eq_true, ↓reduceIte, Option.toList_none,
            Option.map_none, List.append_nil, List.mem_append, List.mem_singleton] at hx
          rcases hx with hx | hx | rfl
          · exact hl.settled x (hmem x (List.mem_append_left _ hx))
          · exact hl.settled x (hmem x (List.mem_append_right _ hx))
          · exact fun _ => rfl
        · have := h₀ hbuf
          simp only [Machine.bare, Machine.runs, Bool.false_eq_true, ↓reduceIte,
            Option.toList_none, Option.map_none, List.append_nil, List.map_append, List.map_cons,
            List.map_nil, List.sum_append, List.sum_cons, List.sum_nil]
          simp only [Run.bare, Producer.bare_finished] at this ⊢
          omega
      · -- a quiet run is gone: its stop emptied its queue, and it holds no buffer
        obtain ⟨hz, hzb⟩ := Run.lent_of_quiet hd (hwf.stopping s hs).2 hset
        have hle : onLoan s.run.holding + s.run.producer.lent ≤ s.run.lent := by
          simp only [Run.lent]
          omega
        refine ⟨hl.planned, ⟨ha.pool, ?_⟩, fun x hx => ?_, fun hbuf => ?_⟩
        · simp only [Machine.lent, Machine.runs, ↓reduceIte, Option.toList_none,
            Option.map_none, List.append_nil, List.map_append, List.sum_append]
          omega
        · simp only [Machine.runs, ↓reduceIte, Option.toList_none, Option.map_none,
            List.append_nil] at hx
          exact hl.settled x (hmem x hx)
        · have := h₀ hbuf
          simp only [Machine.bare, Machine.runs, ↓reduceIte, Option.toList_none,
            Option.map_none, List.append_nil, List.map_append, List.sum_append]
          omega
    · cases h

/-- The owner dropping the node gives back the buffers of the running run's queued units, of the
unit its producer was pushing, and of its source. -/
theorem Machine.orphan_lending {m : Machine} (hl : m.Lending plan pool)
    (hs : m.stopping = none) : m.orphan.Lending plan pool := by
  unfold Machine.orphan
  split
  next => exact hl
  next r hslot =>
    have hruns : m.runs = r :: m.background := by simp [Machine.runs, hslot, hs]
    have hset := hl.settled r (by rw [hruns]; exact List.mem_cons_self)
    have hf := World.foldl_giveBack_loans m.world hl.loans.pool r.queue
    obtain ⟨p, hp⟩ := World.foldl_giveBack_frame m.world r.queue
    rw [hp] at hf
    dsimp only at hf
    obtain ⟨p', ha, hab⟩ := Run.abort_loans { m.world with pool := p }
      { r with cancelled := true, queue := [], closed := true } hf.pool hset
    dsimp only
    rw [hp, hab]
    have h₁ := hl.loans.books
    have h₂ := hf.books
    have h₃ := ha.books
    have h₀ := hl.bare
    simp only [Machine.lent, Machine.bare, hruns, List.map_cons, List.sum_cons] at h₁ h₀
    refine ⟨hl.planned, ⟨ha.pool, ?_⟩, fun x hx => ?_, fun hbuf => ?_⟩
    · simp only [Machine.lent, Machine.runs, hs, Option.toList_none, Option.map_none,
        List.nil_append, List.map_append, List.map_cons, List.map_nil, List.sum_append,
        List.sum_cons, List.sum_nil]
      simp only [Run.lent, onLoan_none, Producer.lent_finished, List.map_nil,
        List.sum_nil] at h₁ h₃ ⊢
      omega
    · simp only [Machine.runs, hs, Option.toList_none, Option.map_none, List.nil_append,
        List.mem_append, List.mem_singleton] at hx
      rcases hx with hx | rfl
      · exact hl.settled x (by rw [hruns]; exact List.mem_cons_of_mem r hx)
      · exact fun _ => rfl
    · have := h₀ hbuf
      simp only [Machine.bare, Machine.runs, hs, Option.toList_none, Option.map_none,
        List.nil_append, List.map_append, List.map_cons, List.map_nil, List.sum_append,
        List.sum_cons, List.sum_nil]
      simp only [Run.bare, Producer.bare_finished, List.map_nil, List.sum_nil] at this ⊢
      omega

/-- Every move of a node keeps the books of its pool. -/
theorem Machine.act_lending {m m' : Machine} {a : Action} (hwf : m.Wf)
    (hl : m.Lending plan pool) (h : m.act a = some m') : m'.Lending plan pool := by
  cases a with
  | task p t =>
    obtain ⟨r, ⟨r', w'⟩, hr, hx, rfl⟩ := Machine.act_task h
    exact Machine.put_lending hl hr
      (Run.move_lends hx hl.loans.pool (hl.settled r (Machine.mem_runs hr)))
  | selfStop =>
    -- the stops asked for hold no buffers
    obtain ⟨hs, g, rest, -, ⟨-, rfl⟩ | ⟨r, hr, -, rfl⟩⟩ := Machine.selfStop?_eq_some h
    · exact ⟨hl.planned, hl.loans, hl.settled, hl.bare⟩
    · exact Machine.beginStop_lending ⟨hl.planned, hl.loans, hl.settled, hl.bare⟩ hr hs
  | completeStop => exact Machine.completeStop_lending hwf hl h
  | tick t => cases h; exact ⟨hl.planned, hl.loans, hl.settled, hl.bare⟩
  | start bound parent =>
    obtain ⟨-, hslot, hs, rfl⟩ := Machine.act_start h
    -- the new run holds no buffer yet
    have hidle : ((List.replicate m.world.plan.workers Worker.idle).map Worker.lent).sum = 0 ∧
        ((List.replicate m.world.plan.workers Worker.idle).map Worker.bare).sum = 0 := by
      simp [List.map_replicate, List.sum_replicate]
    have h₁ := hl.loans.books
    have h₀ := hl.bare
    simp only [Machine.lent, Machine.bare, Machine.runs, hs, hslot, Option.toList_none,
      Option.map_none, List.nil_append] at h₁ h₀
    refine ⟨hl.planned, ⟨hl.loans.pool, ?_⟩, fun x hx => ?_, fun hbuf => ?_⟩
    · simp only [Machine.launch, Machine.lent, Machine.runs, hs, Option.toList_some,
        Option.map_none, Option.toList_none, List.append_nil, List.singleton_append,
        List.map_cons, List.sum_cons, Run.lent, onLoan_none, Producer.lent_fetch, hidle,
        List.map_nil, List.sum_nil]
      omega
    · simp only [Machine.launch, Machine.runs, hs, Option.toList_some, Option.map_none,
        Option.toList_none, List.append_nil, List.singleton_append, List.mem_cons] at hx
      rcases hx with rfl | hx
      · exact fun h => by cases h
      · exact hl.settled x (by simp [Machine.runs, hslot, hs, hx])
    · have := h₀ hbuf
      simp only [Machine.launch, Machine.bare, Machine.runs, hs, Option.toList_some,
        Option.map_none, Option.toList_none, List.append_nil, List.singleton_append,
        List.map_cons, List.sum_cons, Run.bare, Producer.bare_fetch, hidle, List.map_nil,
        List.sum_nil]
      omega
  | stop =>
    obtain ⟨r, hs, hr, rfl⟩ := Machine.act_stop h
    exact Machine.beginStop_lending hl hr hs
  | dispose => cases h; exact ⟨hl.planned, hl.loans, hl.settled, hl.bare⟩
  | cancelParent k =>
    cases h
    have hruns := Machine.runs_cancelToken m k
    -- cancelling a run moves none of its buffers
    have hlent : Run.lent ∘ Run.cancelUnder k = Run.lent := rfl
    have hbare : Run.bare ∘ Run.cancelUnder k = Run.bare := rfl
    refine ⟨hl.planned, ?_, fun x hx => ?_, fun hbuf => ?_⟩
    · rw [Machine.lent, hruns, List.map_map, hlent]
      exact hl.loans
    · rw [hruns] at hx
      obtain ⟨y, hy, rfl⟩ := List.mem_map.mp hx
      exact hl.settled y hy
    · rw [Machine.bare, hruns, List.map_map, hbare]
      exact hl.bare hbuf
  | drop =>
    obtain ⟨hs, rfl⟩ := Machine.act_drop h
    exact Machine.orphan_lending hl hs

/-- Every sequence of moves keeps the books of the node's pool. -/
theorem Machine.exec_lending {m : Machine} (hwf : m.Wf) (hl : m.Lending plan pool)
    (as : List Action) : (m.exec as).Lending plan pool := by
  induction as generalizing m with
  | nil => exact hl
  | cons a as ih =>
    rw [Machine.exec_cons]
    cases h : m.act a with
    | none => exact ih hwf hl
    | some m' => exact ih (Machine.act_wf hwf h) (Machine.act_lending hwf hl h)

theorem Machine.lent_add_bare (m : Machine) : m.lent + m.bare = m.held + m.receiving := by
  rw [Machine.lent, Machine.bare, ← List.sum_map_add, Machine.held, Machine.receiving,
    ← List.sum_map_add]
  simp [Run.lent_add_bare]

/-- Once no task of a node is running, its runs hold no buffer. -/
theorem Machine.lent_of_halted {m : Machine} (hwf : m.Wf) (hl : m.Lending plan pool)
    (h : m.Halted) : m.lent = 0 := by
  obtain ⟨hruns, hleft⟩ := h.runs_eq hwf
  rw [Machine.lent, hruns]
  exact List.sum_eq_zero_iff_forall_eq_nat.mpr fun n hn => by
    obtain ⟨r, hr, rfl⟩ := List.mem_map.mp hn
    obtain ⟨hquiet, hq⟩ := hleft r hr
    exact (Run.lent_of_quiet hquiet hq (hl.settled r (by rw [hruns]; exact hr))).1

end

theorem Machine.new_lending (plan : Plan) (sink : Sink) (pool : BufferPool) :
    (Machine.new plan sink (some pool)).Lending plan (some pool) :=
  ⟨rfl, Loans.refl rfl 0, (fun _ h => nomatch h), fun _ => rfl⟩

/-- Along any interleaving, every pool buffer a node rents is returned once, and the buffers
out are exactly one per unit held and one per pending receive; once no task runs, all are back. -/
theorem buffer_ledger (plan : Plan) (hbuf : plan.holdsBuffer = true) (sink : Sink)
    (pool : BufferPool) (as : List Action) :
    let m := (Machine.new plan sink (some pool)).exec as
    ∃ p, m.world.pool = some p ∧
      p.stats.rents + pool.stats.returns =
        pool.stats.rents + p.stats.returns + m.held + m.receiving ∧
      (m.Halted → p.stats.rents + pool.stats.returns = pool.stats.rents + p.stats.returns) := by
  intro m
  have hwf : m.Wf := Machine.exec_wf (Machine.new_wf plan sink (some pool)) as
  have hl : m.Lending plan (some pool) :=
    Machine.exec_lending (Machine.new_wf plan sink (some pool))
      (Machine.new_lending plan sink pool) as
  obtain ⟨p, hp⟩ := Option.isSome_iff_exists.mp hl.loans.pool
  have hbooks := hl.loans.books
  have hsplit := Machine.lent_add_bare m
  rw [hl.bare hbuf, Nat.add_zero] at hsplit
  simp only [rented, returned, hp, Option.map_some, Option.getD_some] at hbooks
  refine ⟨p, hp, by omega, fun hhalt => ?_⟩
  have hzero := Machine.lent_of_halted hwf hl hhalt
  omega

/-- A node whose full queue evicts a datagram, whose handler panics on another, and which is
stopped with a datagram queued and a receive pending, halts with its four buffers rented and
every one of them returned. -/
theorem buffer_ledger_of_evicting_node :
    let plan : Plan :=
      { capacity := 1, mode := .dropOldest, workers := 1, dispatch := none, stopMillis := 100,
        classifier := .receive, holdsBuffer := true,
        script := [.deliver ⟨1, .ok⟩, .deliver ⟨2, .ok⟩, .deliver ⟨3, .panic⟩,
          .deliver ⟨4, .ok⟩] }
    let pool := BufferPool.new 2 8
    let as : List Action :=
      [.start (NetNode.Address.SocketAddress.loopback 9000) none, .task .running .producer,
        .task .running .producer, .task .running (.worker 0), .task .running .producer,
        .task .running (.worker 0), .task .running .producer, .task .running .producer, .stop,
        .task .stopping .producer, .task .stopping (.worker 0), .completeStop, .selfStop]
    plan.holdsBuffer = true ∧ ((Machine.new plan .record (some pool)).exec as).Halted ∧
      ((Machine.new plan .record (some pool)).exec as).world.pool.map (·.stats.rents) = some 5 ∧
      ∃ p, ((Machine.new plan .record (some pool)).exec as).world.pool = some p ∧
        p.stats.outstanding = 0 := by
  intro plan pool as
  -- the run is evaluated by the kernel: the stop took it and ended, leaving nothing behind
  have hstop : ((Machine.new plan .record (some pool)).exec as).stopping.isNone = true := by
    decide +kernel
  have hself : ((Machine.new plan .record (some pool)).exec as).world.selfStops = [] := by
    decide +kernel
  have hruns : ((Machine.new plan .record (some pool)).exec as).runs.length = 0 := by
    decide +kernel
  have hhalt : ((Machine.new plan .record (some pool)).exec as).Halted :=
    ⟨Option.isNone_iff_eq_none.mp hstop, hself,
      fun r hr => absurd (List.length_pos_of_mem hr) (by omega)⟩
  obtain ⟨p, hp, -, hdone⟩ := buffer_ledger plan rfl .record pool as
  have hfresh : pool.stats.rents = 0 ∧ pool.stats.returns = 0 := ⟨rfl, rfl⟩
  have hback := hdone hhalt
  refine ⟨rfl, hhalt, by decide +kernel, p, hp, ?_⟩
  simp only [Stats.outstanding]
  omega

end NetNode.Node
