import Mathlib
import NetNode.Proofs.Queue.Linearizable

/-!
# No wake-up is lost

A pop that finds the queue empty, or a waiting push that finds it full, takes a ticket on the
queue's `notEmpty` (or `notFull`) signal and is suspended until the ticket is woken. Callers
on a queue (`Crowd`) are any number of such suspended callers together with the queue; a move
is a new caller's turn, or a suspended caller that is polled again or dropped, in any order.

The main statement, `Crowd.no_lost_wakeups`, says that after every sequence of moves from a new
queue, the waiting pops that hold a wake-up are at least as many as the items, or all of the
waiting pops if they are fewer; the waiting pushes that hold one are at least as many as the
free places, or all of them; and once the queue is closed, every suspended caller holds one.

It is read off the invariant `Bounded.Watch`: each signal tracks its callers' tickets
(`Signal.Tracks`), and while anybody is registered on a signal, its woken callers cover the
items (or the free places). Read `Signal.Tracks.leave` first: a caller dropped after it was
woken passes its wake-up on to the next registered caller.
-/

namespace NetNode.Queue

/-! ## Wake-ups of a signal -/

/-- Whether a ticket has been woken: by `wakeOne`, which lists it among the woken, or by a
`wakeAll` since it was taken. -/
def Signal.pending (s : Signal) (t : Ticket) : Bool :=
  s.woken.any (·.1 = t.id) || decide (s.rounds ≠ t.round)

theorem Signal.pending_iff (s : Signal) (t : Ticket) :
    s.pending t = true ↔ (∃ e ∈ s.woken, e.1 = t.id) ∨ s.rounds ≠ t.round := by
  simp [Signal.pending]

/-- Looking at a ticket finds it woken exactly when it is pending. -/
theorem Signal.check_fst (s : Signal) (t : Ticket) : (s.check t).1 = s.pending t := by
  cases h1 : s.woken.any (·.1 = t.id) <;> by_cases h2 : s.rounds = t.round <;>
    simp [Signal.check, Signal.pending, h1, h2]

theorem Signal.check_of_not_pending {s : Signal} {t : Ticket} (h : s.pending t = false) :
    s.check t = (false, s) := by
  unfold Signal.check
  simp only [Signal.pending, Bool.or_eq_false_iff, decide_eq_false_iff_not, not_not] at h
  simp [h.1, h.2]

/-! ## What a signal owes its tickets -/

section Tracks

variable {s : Signal} {t : Ticket} {ts ts' : List Ticket} {next : Nat} {closed : Bool}

/-- What a signal owes the tickets `ts` of the callers suspended on it, all numbered below
`next`: each ticket is woken or registered; a registered number is that of a ticket not yet
woken, and is registered once; a stored wake-up means nobody is registered; while the queue is
open nobody was woken all at once; and once it is closed nobody is registered. -/
structure Signal.Tracks (s : Signal) (ts : List Ticket) (next : Nat) (closed : Bool) : Prop where
  below : ∀ t ∈ ts, t.id < next
  wokenBelow : ∀ e ∈ s.woken, e.1 < next
  distinct : (ts.map (·.id)).Nodup
  registered : ∀ i ∈ s.waiting, ∃ t ∈ ts, t.id = i ∧ s.pending t = false
  once : s.waiting.Nodup
  covered : ∀ t ∈ ts, s.pending t = true ∨ t.id ∈ s.waiting
  past : ∀ t ∈ ts, t.round ≤ s.rounds
  stored : s.stored = true → s.waiting = []
  opened : closed = false → s.rounds = 0 ∧ ∀ e ∈ s.woken, e.2 = .one
  shut : closed = true → s.waiting = []


namespace Signal.Tracks

theorem perm (h : s.Tracks ts next closed) (hp : ts.Perm ts') : s.Tracks ts' next closed where
  below t ht := h.below t (hp.mem_iff.mpr ht)
  wokenBelow := h.wokenBelow
  distinct := (hp.map _).nodup_iff.mp h.distinct
  registered i hi := by
    obtain ⟨t, ht, rfl, hw⟩ := h.registered i hi
    exact ⟨t, hp.mem_iff.mp ht, rfl, hw⟩
  once := h.once
  covered t ht := h.covered t (hp.mem_iff.mpr ht)
  past t ht := h.past t (hp.mem_iff.mpr ht)
  stored := h.stored
  opened := h.opened
  shut := h.shut

theorem mono (h : s.Tracks ts next closed) {next' : Nat} (hn : next ≤ next') :
    s.Tracks ts next' closed :=
  { h with
    below := fun t ht => Nat.lt_of_lt_of_le (h.below t ht) hn
    wokenBelow := fun e he => Nat.lt_of_lt_of_le (h.wokenBelow e he) hn }

/-- A ticket numbered `next` is neither woken nor registered. -/
theorem fresh (h : s.Tracks ts next closed) :
    s.pending (s.ticket next) = false ∧ next ∉ s.waiting := by
  refine ⟨?_, fun hmem => ?_⟩
  · rw [Bool.eq_false_iff]
    intro hp
    rcases (Signal.pending_iff s _).mp hp with ⟨e, he, hid⟩ | hr
    · have := h.wokenBelow e he
      simp only [Signal.ticket] at hid
      omega
    · exact hr rfl
  · obtain ⟨t, ht, hid, -⟩ := h.registered next hmem
    exact absurd (h.below t ht) (by omega)

end Signal.Tracks

/-- Two tests on tickets of distinct numbers that differ only at the number of `t₀` count the
same up to `t₀`. -/
theorem countP_swap_at (p p' : Ticket → Bool) {t₀ : Ticket} (ht : t₀ ∈ ts)
    (hd : (ts.map (·.id)).Nodup) (hp : ∀ u ∈ ts, u.id ≠ t₀.id → p' u = p u) :
    ts.countP p' + (if p t₀ then 1 else 0) = ts.countP p + (if p' t₀ then 1 else 0) := by
  have hperm := List.perm_cons_erase ht
  have hd' : (t₀ :: ts.erase t₀).map (·.id) |>.Nodup := (hperm.map _).nodup_iff.mp hd
  have hrest : (ts.erase t₀).countP p' = (ts.erase t₀).countP p := by
    apply List.countP_congr
    intro u hu
    have hne : u.id ≠ t₀.id := by
      rintro heq
      simp only [List.map_cons, List.nodup_cons, List.mem_map] at hd'
      exact hd'.1 ⟨u, hu, heq⟩
    rw [hp u (List.mem_of_mem_erase hu) hne]
  rw [hperm.countP_eq p', hperm.countP_eq p, List.countP_cons, List.countP_cons, hrest]
  cases p t₀ <;> cases p' t₀ <;> simp

theorem Signal.pending_wake (i : Nat) (rest : List Nat) (u : Ticket) :
    ({ s with waiting := rest, woken := s.woken ++ [(i, .one)] } : Signal).pending u =
      (s.pending u || decide (i = u.id)) := by
  simp only [Signal.pending, List.any_append, List.any_cons, List.any_nil, Bool.or_false]
  cases s.woken.any (·.1 = u.id) <;> cases decide (s.rounds ≠ u.round) <;> simp

namespace Signal.Tracks

/-- `wakeOne` wakes the longest registered caller, one more woken ticket, or stores a wake-up
when nobody is registered. -/
theorem wakeOne (h : s.Tracks ts next closed) :
    s.wakeOne.Tracks ts next closed ∧ s.wakeOne.waiting = s.waiting.tail ∧
      ts.countP s.wakeOne.pending = ts.countP s.pending + (if s.waiting = [] then 0 else 1) := by
  cases hw : s.waiting with
  | nil =>
    have hs : s.wakeOne = { s with stored := true } := by simp [Signal.wakeOne, hw]
    rw [hs]
    refine ⟨⟨h.below, h.wokenBelow, h.distinct, by simp [hw], by simp [hw],
      fun t ht => h.covered t ht, h.past, fun _ => hw, h.opened, fun _ => hw⟩, by simp [hw], ?_⟩
    rw [if_pos rfl, Nat.add_zero]
    rfl
  | cons i rest =>
    obtain ⟨t₀, ht₀, hid, hnp⟩ := h.registered i (by simp [hw])
    have hs : s.wakeOne = { s with waiting := rest, woken := s.woken ++ [(i, .one)] } := by
      simp [Signal.wakeOne, hw]
    have hnodup := h.once
    rw [hw, List.nodup_cons] at hnodup
    rw [hs]
    refine ⟨⟨h.below, ?_, h.distinct, ?_, hnodup.2, ?_, h.past, ?_, ?_, ?_⟩, rfl, ?_⟩
    · intro e he
      rcases List.mem_append.mp he with he | he
      · exact h.wokenBelow e he
      · simp only [List.mem_singleton] at he
        subst he
        rw [← hid]
        exact h.below t₀ ht₀
    · intro j hj
      obtain ⟨t, ht, rfl, hp⟩ := h.registered j (by simp [hw, hj])
      refine ⟨t, ht, rfl, ?_⟩
      rw [Signal.pending_wake, hp]
      simp only [Bool.false_or, decide_eq_false_iff_not]
      rintro rfl
      exact hnodup.1 hj
    · intro t ht
      rw [Signal.pending_wake]
      rcases h.covered t ht with hp | hm
      · exact .inl (by simp [hp])
      · rw [hw] at hm
        rcases List.mem_cons.mp hm with heq | hm
        · exact .inl (by simp [heq])
        · exact .inr hm
    · intro hst
      rw [h.stored hst] at hw
      cases hw
    · intro hc
      obtain ⟨hr, hone⟩ := h.opened hc
      refine ⟨hr, fun e he => ?_⟩
      rcases List.mem_append.mp he with he | he
      · exact hone e he
      · simp only [List.mem_singleton] at he
        rw [he]
    · intro hc
      rw [h.shut hc] at hw
      cases hw
    · have := countP_swap_at s.pending
        ({ s with waiting := rest, woken := s.woken ++ [(i, .one)] } : Signal).pending
        ht₀ h.distinct (fun u _ hne => by
          have hi : i ≠ u.id := hid ▸ Ne.symm hne
          rw [Signal.pending_wake]
          simp [hi])
      rw [hnp, Signal.pending_wake, hid] at this
      simpa using this

end Signal.Tracks

/-- The signal without ticket `t`: unregistered, and its wake-ups forgotten. -/
def Signal.forget (s : Signal) (t : Ticket) : Signal :=
  { s with waiting := s.waiting.erase t.id, woken := s.woken.filter (·.1 ≠ t.id) }

theorem Signal.leave_eq (s : Signal) (t : Ticket) :
    s.leave t = if s.woken.contains (t.id, .one) then (s.forget t).wakeOne else s.forget t := rfl

/-- Nobody is registered after a caller leaves a signal where nobody was. -/
theorem Signal.waiting_of_leave (hne : (s.leave t).waiting ≠ []) : s.waiting ≠ [] := by
  intro hnil
  apply hne
  rw [Signal.leave_eq]
  split <;> simp [Signal.forget, Signal.wakeOne, hnil]

theorem Signal.pending_forget {u : Ticket} (hne : u.id ≠ t.id) :
    (s.forget t).pending u = s.pending u := by
  have hany : (s.woken.filter (·.1 ≠ t.id)).any (·.1 = u.id) = s.woken.any (·.1 = u.id) := by
    rw [Bool.eq_iff_iff]
    simp only [List.any_eq_true, List.mem_filter, decide_eq_true_eq]
    constructor
    · rintro ⟨e, ⟨he, -⟩, hid⟩
      exact ⟨e, he, hid⟩
    · rintro ⟨e, he, hid⟩
      exact ⟨e, ⟨he, by rw [hid]; exact hne⟩, hid⟩
  unfold Signal.pending Signal.forget
  dsimp only
  rw [hany]

namespace Signal.Tracks

/-- A registered number is that of no woken ticket. -/
theorem not_waiting (h : s.Tracks (t :: ts) next closed) (ht : s.pending t = true) :
    t.id ∉ s.waiting := by
  intro hmem
  obtain ⟨u, hu, hid, hp⟩ := h.registered t.id hmem
  rcases List.mem_cons.mp hu with rfl | hu
  · rw [ht] at hp
    cases hp
  · have hd := h.distinct
    simp only [List.map_cons, List.nodup_cons, List.mem_map] at hd
    exact hd.1 ⟨u, hu, hid⟩

/-- The tickets other than `t` keep what the signal owes them once `t` is forgotten. -/
theorem forget (h : s.Tracks (t :: ts) next closed) :
    (s.forget t).Tracks ts next closed ∧ ∀ u ∈ ts, (s.forget t).pending u = s.pending u := by
  have hd := h.distinct
  simp only [List.map_cons, List.nodup_cons, List.mem_map, not_exists, not_and] at hd
  have hne : ∀ u ∈ ts, u.id ≠ t.id := fun u hu heq => hd.1 u hu heq
  have hsame : ∀ u ∈ ts, (s.forget t).pending u = s.pending u :=
    fun u hu => Signal.pending_forget (hne u hu)
  refine ⟨⟨fun u hu => h.below u (List.mem_cons_of_mem t hu), ?_, hd.2, ?_, h.once.erase _, ?_,
    fun u hu => h.past u (List.mem_cons_of_mem t hu), ?_, ?_, ?_⟩, hsame⟩
  · intro e he
    exact h.wokenBelow e (List.mem_of_mem_filter he)
  · intro i hi
    have hi' := (h.once.mem_erase_iff).mp hi
    obtain ⟨u, hu, rfl, hp⟩ := h.registered i hi'.2
    rcases List.mem_cons.mp hu with rfl | hu
    · exact absurd rfl hi'.1
    · exact ⟨u, hu, rfl, (hsame u hu).trans hp⟩
  · intro u hu
    rcases h.covered u (List.mem_cons_of_mem t hu) with hp | hm
    · exact .inl ((hsame u hu).trans hp)
    · exact .inr (List.mem_erase_of_ne (hne u hu) |>.mpr hm)
  · intro hst
    simp [Signal.forget, h.stored hst]
  · intro hc
    obtain ⟨hr, hone⟩ := h.opened hc
    exact ⟨hr, fun e he => hone e (List.mem_of_mem_filter he)⟩
  · intro hc
    simp [Signal.forget, h.shut hc]

/-- Looking at a woken ticket takes its wake-up: the signal forgets it. -/
theorem check_eq (h : s.Tracks (t :: ts) next closed) (ht : s.pending t = true) :
    s.check t = (true, s.forget t) := by
  have hnot := h.not_waiting ht
  unfold Signal.check Signal.forget
  split
  · simp [List.erase_of_not_mem hnot]
  · next hw =>
    have hr : s.rounds ≠ t.round := by
      rcases (Signal.pending_iff s t).mp ht with ⟨e, he, hid⟩ | hr
      · simp only [List.any_eq_true, decide_eq_true_eq, not_exists, not_and] at hw
        exact absurd hid (hw e he)
      · exact hr
    simp only [List.any_eq_true, decide_eq_true_eq, not_exists, not_and] at hw
    simp only [ne_eq, hr, not_false_eq_true, if_true, Prod.mk.injEq, true_and]
    congr 1
    refine (List.filter_eq_self.mpr ?_).symm
    intro e he
    simpa using hw e he

/-- A woken ticket that looks at the signal leaves it; the others keep their count. -/
theorem check (h : s.Tracks (t :: ts) next closed) (ht : s.pending t = true) :
    (s.check t).2.Tracks ts next closed ∧ (s.check t).2.waiting = s.waiting ∧
      ts.countP (s.check t).2.pending + 1 = (t :: ts).countP s.pending := by
  obtain ⟨hf, hsame⟩ := h.forget
  rw [h.check_eq ht]
  refine ⟨hf, List.erase_of_not_mem (h.not_waiting ht), ?_⟩
  rw [List.countP_cons, if_pos ht, List.countP_congr (fun u hu => by rw [hsame u hu])]

/-- A caller that leaves takes its ticket with it; a wake-up it got from `wakeOne` goes to the
next registered caller, so while someone is registered the count of woken tickets does not
drop. -/
theorem leave (h : s.Tracks (t :: ts) next closed) :
    (s.leave t).Tracks ts next closed ∧
      ((s.leave t).waiting ≠ [] →
        (t :: ts).countP s.pending ≤ ts.countP (s.leave t).pending) := by
  obtain ⟨hf, hsame⟩ := h.forget
  have hcount : ts.countP (s.forget t).pending = ts.countP s.pending :=
    List.countP_congr (fun u hu => by rw [hsame u hu])
  rw [Signal.leave_eq]
  split
  next hone =>
    obtain ⟨hw, htail, hc⟩ := hf.wakeOne
    refine ⟨hw, fun hne => ?_⟩
    have hwait : (s.forget t).waiting ≠ [] := by
      intro hnil
      rw [htail, hnil] at hne
      exact hne rfl
    rw [hc, if_neg hwait, hcount, List.countP_cons]
    split <;> omega
  next hone =>
    refine ⟨hf, fun hne => ?_⟩
    rw [hcount, List.countP_cons]
    cases hp : s.pending t
    · simp
    · -- a wake-up that is not passed on came from closing the queue, which unregisters all
      exfalso
      cases hc : closed
      · obtain ⟨hr, hall⟩ := h.opened hc
        have hround : t.round = s.rounds := by
          have := h.past t (List.mem_cons_self)
          omega
        rcases (Signal.pending_iff s t).mp hp with ⟨e, he, hid⟩ | hr'
        · have hw := hall e he
          apply hone
          have : e = (t.id, .one) := Prod.ext hid hw
          simp [← this, he]
        · exact hr' hround.symm
      · apply hne
        simp [Signal.forget, h.shut hc]

end Signal.Tracks

namespace Signal.Tracks

/-- `wakeAll` wakes every suspended caller, and the queue it belongs to is closed from then on. -/
theorem wakeAll (h : s.Tracks ts next closed) :
    s.wakeAll.Tracks ts next true ∧ ∀ u ∈ ts, s.wakeAll.pending u = true := by
  have hall : ∀ u ∈ ts, s.wakeAll.pending u = true := by
    intro u hu
    have := h.past u hu
    rw [Signal.pending_iff]
    exact .inr (by simp [Signal.wakeAll]; omega)
  refine ⟨⟨h.below, ?_, h.distinct, by simp [Signal.wakeAll], by simp [Signal.wakeAll],
    fun u hu => .inl (hall u hu), ?_, fun _ => rfl, by simp, fun _ => rfl⟩, hall⟩
  · intro e he
    simp only [Signal.wakeAll, List.mem_append, List.mem_map] at he
    rcases he with he | ⟨i, hi, rfl⟩
    · exact h.wokenBelow e he
    · obtain ⟨u, hu, rfl, -⟩ := h.registered i hi
      exact h.below u hu
  · intro u hu
    have := h.past u hu
    simp only [Signal.wakeAll]
    omega

/-- A stored wake-up taken by a new ticket changes nothing owed to the others. -/
theorem unstore (h : s.Tracks ts next closed) :
    ({ s with stored := false } : Signal).Tracks ts next closed :=
  { h with stored := fun hst => by cases hst }

/-- A new ticket numbered `next` registered on the signal of an open queue. -/
theorem enlist (h : s.Tracks ts next closed) (hc : closed = false) :
    ({ s with waiting := s.waiting ++ [next], stored := false } : Signal).Tracks
        (ts ++ [s.ticket next]) (next + 1) closed ∧
      (ts ++ [s.ticket next]).countP
        ({ s with waiting := s.waiting ++ [next], stored := false } : Signal).pending =
        ts.countP s.pending := by
  obtain ⟨hfresh, hnot⟩ := h.fresh
  have hsame : ∀ u,
      ({ s with waiting := s.waiting ++ [next], stored := false } : Signal).pending u =
        s.pending u := fun _ => rfl
  refine ⟨⟨?_, fun e he => Nat.lt_succ_of_lt (h.wokenBelow e he), ?_, ?_, ?_, ?_, ?_,
    fun hst => (by cases hst), h.opened, fun hc' => (by rw [hc] at hc'; cases hc')⟩, ?_⟩
  · intro u hu
    rcases List.mem_append.mp hu with hu | hu
    · exact Nat.lt_succ_of_lt (h.below u hu)
    · simp only [List.mem_singleton] at hu
      simp [hu, Signal.ticket]
  · simp only [List.map_append, List.map_cons, List.map_nil]
    refine List.nodup_append.mpr ⟨h.distinct, List.nodup_singleton _, ?_⟩
    intro a ha b hb
    simp only [List.mem_map, List.mem_singleton] at ha hb
    obtain ⟨u, hu, rfl⟩ := ha
    subst hb
    have := h.below u hu
    intro heq
    rw [heq] at this
    exact Nat.lt_irrefl _ this
  · intro i hi
    rcases List.mem_append.mp hi with hi | hi
    · obtain ⟨u, hu, rfl, hp⟩ := h.registered i hi
      exact ⟨u, List.mem_append_left _ hu, rfl, hp⟩
    · simp only [List.mem_singleton] at hi
      exact ⟨s.ticket next, by simp, by simp [hi, Signal.ticket], hfresh⟩
  · exact List.nodup_append.mpr ⟨h.once, List.nodup_singleton _,
      fun a ha b hb => by
        simp only [List.mem_singleton] at hb
        rintro rfl
        exact hnot (hb ▸ ha)⟩
  · intro u hu
    rcases List.mem_append.mp hu with hu | hu
    · rcases h.covered u hu with hp | hm
      · exact .inl hp
      · exact .inr (List.mem_append_left _ hm)
    · simp only [List.mem_singleton] at hu
      subst hu
      exact .inr (by simp [Signal.ticket])
  · intro u hu
    rcases List.mem_append.mp hu with hu | hu
    · exact h.past u hu
    · simp only [List.mem_singleton] at hu
      simp [hu, Signal.ticket]
  · rw [List.countP_append, List.countP_singleton]
    change ts.countP s.pending + (if s.pending (s.ticket next) then 1 else 0) = _
    rw [hfresh]
    simp

/-- A new ticket that registered and leaves at once leaves the signal as it was. -/
theorem leave_fresh (h : s.Tracks ts next closed) :
    ({ s with waiting := s.waiting ++ [next] } : Signal).leave (s.ticket next) = s := by
  obtain ⟨-, hnot⟩ := h.fresh
  have hone : ¬ s.woken.contains (next, .one) = true := by
    intro hc
    have := h.wokenBelow _ (List.contains_iff_mem.mp hc)
    simp at this
  rw [Signal.leave_eq]
  split
  · exact absurd ‹_› hone
  simp only [Signal.forget, Signal.ticket, List.erase_append_right _ hnot, List.erase_cons_head,
    List.append_nil]
  congr 1
  exact List.filter_eq_self.mpr (fun e he => decide_eq_true (Nat.ne_of_lt (h.wokenBelow e he)))

end Signal.Tracks

end Tracks

/-! ## One look at the queue -/

section Look

variable {α : Type} {q q' : Bounded α} {ts : List Ticket} {closed : Bool}

/-- One look of a pop, with the numbers of the signal's tickets below the queue's counter: a
ticket registered and released at once takes only a stored wake-up. -/
theorem Bounded.popLook_eq (h : q.notEmpty.Tracks ts q.nextTicket closed) :
    q.popLook =
      let t := q.notEmpty.ticket q.nextTicket
      let q₁ := { q with
        notEmpty := { q.notEmpty with stored := false }
        nextTicket := q.nextTicket + 1 }
      match q.items with
      | x :: xs => (.inl (some x), { q₁ with items := xs, notFull := q.notFull.wakeOne })
      | [] =>
        if q.closed then (.inl none, q₁)
        else if q.notEmpty.stored then (.inr (true, t), q₁)
        else (.inr (false, t), { q₁ with notEmpty :=
          { q.notEmpty with
            waiting := q.notEmpty.waiting ++ [q.nextTicket]
            stored := false } }) := by
  unfold Bounded.popLook Bounded.takeEmpty
  dsimp only
  rw [Signal.register_ticket]
  have hleave := h.leave_fresh
  cases hst : q.notEmpty.stored
  · have heta : ({ q.notEmpty with stored := false } : Signal) = q.notEmpty := by rw [← hst]
    rw [hst] at hleave
    cases hi : q.items <;> cases hc : q.closed <;> simp [hleave, heta]
  · cases hi : q.items <;> cases hc : q.closed <;> simp

/-- One look of a waiting push, in the same terms. -/
theorem Bounded.pushLook_eq (h : q.notFull.Tracks ts q.nextTicket closed) (x : α) :
    q.pushLook x =
      let t := q.notFull.ticket q.nextTicket
      let q₁ := { q with
        notFull := { q.notFull with stored := false }
        nextTicket := q.nextTicket + 1 }
      if q.closed then (.inl (.rejected x), q₁)
      else if q.items.length < q.capacity then
        (.inl (.accepted none),
          { q₁ with items := q.items ++ [x], notEmpty := q.notEmpty.wakeOne })
      else if q.notFull.stored then (.inr (true, t), q₁)
      else (.inr (false, t), { q₁ with notFull :=
        { q.notFull with waiting := q.notFull.waiting ++ [q.nextTicket], stored := false } }) := by
  unfold Bounded.pushLook Bounded.takeFull
  dsimp only
  rw [Signal.register_ticket]
  have hleave := h.leave_fresh
  cases hst : q.notFull.stored
  · have heta : ({ q.notFull with stored := false } : Signal) = q.notFull := by rw [← hst]
    rw [hst] at hleave
    cases hc : q.closed <;> by_cases hl : q.items.length < q.capacity <;> simp [hl, hleave, heta]
  · cases hc : q.closed <;> by_cases hl : q.items.length < q.capacity <;> simp [hl]

end Look

/-! ## What a queue owes its waiting callers -/

section Watch

variable {α : Type} {q q' : Bounded α} {pops pushes pops' pushes' : List Ticket}
  {a b : Nat}

/-- What a queue owes the callers suspended on it, `pops` being the tickets of the waiting pops
and `pushes` those of the waiting pushes: it holds at most its capacity, which is at least one;
each signal tracks its own callers; and while somebody is registered on a signal, its woken
callers are at least the items (or the free places), less a credit of `a` (or `b`) wake-ups
being used. -/
structure Bounded.Watch (q : Bounded α) (pops pushes : List Ticket) (a b : Nat) : Prop where
  one : 1 ≤ q.capacity
  fits : q.items.length ≤ q.capacity
  popSide : q.notEmpty.Tracks pops q.nextTicket q.closed
  pushSide : q.notFull.Tracks pushes q.nextTicket q.closed
  popsWoken : q.notEmpty.waiting ≠ [] → q.items.length ≤ pops.countP q.notEmpty.pending + a
  pushesWoken : q.notFull.waiting ≠ [] →
    q.capacity - q.items.length ≤ pushes.countP q.notFull.pending + b

namespace Bounded.Watch

theorem perm (h : q.Watch pops pushes a b) (hp : pops.Perm pops') (hq : pushes.Perm pushes') :
    q.Watch pops' pushes' a b where
  one := h.one
  fits := h.fits
  popSide := h.popSide.perm hp
  pushSide := h.pushSide.perm hq
  popsWoken hw := (hp.countP_eq _).symm ▸ h.popsWoken hw
  pushesWoken hw := (hq.countP_eq _).symm ▸ h.pushesWoken hw

theorem credit (h : q.Watch pops pushes a b) {a' b' : Nat} (ha : a ≤ a') (hb : b ≤ b') :
    q.Watch pops pushes a' b' :=
  { h with
    popsWoken := fun hw => Nat.le_trans (h.popsWoken hw) (Nat.add_le_add_left ha _)
    pushesWoken := fun hw => Nat.le_trans (h.pushesWoken hw) (Nat.add_le_add_left hb _) }

/-- A ticket taken from `notEmpty` and given back at once. -/
theorem spendEmpty (h : q.Watch pops pushes a b) :
    ({ q with
      notEmpty := { q.notEmpty with stored := false }
      nextTicket := q.nextTicket + 1 } : Bounded α).Watch pops pushes a b where
  one := h.one
  fits := h.fits
  popSide := h.popSide.unstore.mono (Nat.le_succ _)
  pushSide := h.pushSide.mono (Nat.le_succ _)
  popsWoken := h.popsWoken
  pushesWoken := h.pushesWoken

/-- A ticket taken from `notFull` and given back at once. -/
theorem spendFull (h : q.Watch pops pushes a b) :
    ({ q with
      notFull := { q.notFull with stored := false }
      nextTicket := q.nextTicket + 1 } : Bounded α).Watch pops pushes a b where
  one := h.one
  fits := h.fits
  popSide := h.popSide.mono (Nat.le_succ _)
  pushSide := h.pushSide.unstore.mono (Nat.le_succ _)
  popsWoken := h.popsWoken
  pushesWoken := h.pushesWoken

/-- A pop that finds an empty open queue registers and waits. -/
theorem enlistPop (h : q.Watch pops pushes a b) (hi : q.items = []) (hc : q.closed = false) :
    ({ q with
      notEmpty :=
        { q.notEmpty with waiting := q.notEmpty.waiting ++ [q.nextTicket], stored := false }
      nextTicket := q.nextTicket + 1 } : Bounded α).Watch
        (pops ++ [q.notEmpty.ticket q.nextTicket]) pushes 0 b where
  one := h.one
  fits := h.fits
  popSide := by simpa only [hc] using (h.popSide.enlist hc).1
  pushSide := h.pushSide.mono (Nat.le_succ _)
  popsWoken _ := by simp [hi]
  pushesWoken := h.pushesWoken

/-- A push that finds a full open queue registers and waits. -/
theorem enlistPush (h : q.Watch pops pushes a b) (hfull : q.capacity ≤ q.items.length)
    (hc : q.closed = false) :
    ({ q with
      notFull := { q.notFull with waiting := q.notFull.waiting ++ [q.nextTicket], stored := false }
      nextTicket := q.nextTicket + 1 } : Bounded α).Watch
        pops (pushes ++ [q.notFull.ticket q.nextTicket]) a 0 where
  one := h.one
  fits := h.fits
  popSide := h.popSide.mono (Nat.le_succ _)
  pushSide := by simpa only [hc] using (h.pushSide.enlist hc).1
  popsWoken := h.popsWoken
  pushesWoken _ := by simp; omega

end Bounded.Watch

end Watch

/-! ## Every call keeps what the queue owes -/

section Calls

variable {α : Type} {q q' : Bounded α} {pops pushes : List Ticket} {x : α}

/-- An empty queue owes its waiting pops nothing more. -/
theorem Bounded.Watch.empty {a b : Nat} (h : q.Watch pops pushes a b) (hi : q.items = []) :
    q.Watch pops pushes 0 b :=
  { h with popsWoken := fun _ => by simp [hi] }

/-- A pop that finds an empty open queue and no stored wake-up registers its ticket and waits. -/
theorem Bounded.popWaiting_waits {ts : List Ticket} {closed : Bool}
    (h : q.notEmpty.Tracks ts q.nextTicket closed) (hi : q.items = []) (hc : q.closed = false)
    (hst : q.notEmpty.stored = false) (n : Nat) :
    q.popWaiting (n + 1) = (.waiting (.pop (q.notEmpty.ticket q.nextTicket)), { q with
      notEmpty :=
        { q.notEmpty with waiting := q.notEmpty.waiting ++ [q.nextTicket], stored := false }
      nextTicket := q.nextTicket + 1 }) := by
  simp [Bounded.popWaiting, Bounded.popLook_eq h, hi, hc, hst]

/-- A pop takes the oldest item of a non-empty queue, ends with nothing on a closed empty one,
and otherwise waits with a fresh registered ticket; it may use one wake-up it was given. -/
theorem Bounded.Watch.popWaiting {p : Progress (Option α) α} (h : q.Watch pops pushes 1 0)
    (hw : q.popWaiting 3 = (p, q')) :
    (∃ r, p = .done r ∧ q'.Watch pops pushes 0 0) ∨
      ∃ t, p = .waiting (.pop t) ∧ q'.Watch (pops ++ [t]) pushes 0 0 := by
  have h₁ := h.spendEmpty
  cases hi : q.items with
  | cons y ys =>
    have e : q.popWaiting 3 = (.done (some y), { q with
        items := ys
        notEmpty := { q.notEmpty with stored := false }
        notFull := q.notFull.wakeOne
        nextTicket := q.nextTicket + 1 }) := by
      simp [Bounded.popWaiting, Bounded.popLook_eq h.popSide, hi]
    rw [e, Prod.mk.injEq] at hw
    obtain ⟨rfl, rfl⟩ := hw
    have hfits := h.fits
    rw [hi, List.length_cons] at hfits
    obtain ⟨hfull, htail, hcount⟩ := h.pushSide.wakeOne
    refine .inl ⟨some y, rfl,
      ⟨h.one, by simp only; omega, h₁.popSide, hfull.mono (Nat.le_succ _),
        fun hne => ?_, fun hne => ?_⟩⟩
    · -- the item taken used the wake-up the pop may have been given
      have := h.popsWoken hne
      rw [hi, List.length_cons] at this
      change ys.length ≤ pops.countP q.notEmpty.pending + 0
      omega
    · -- the place freed wakes a waiting push, if there is one
      have hwait : q.notFull.waiting ≠ [] := by
        intro hnil
        rw [htail, hnil] at hne
        exact hne rfl
      have := h.pushesWoken hwait
      rw [hi, List.length_cons] at this
      simp only [hcount, if_neg hwait]
      omega
  | nil =>
    cases hc : q.closed
    · cases hst : q.notEmpty.stored
      · rw [Bounded.popWaiting_waits h.popSide hi hc hst, Prod.mk.injEq] at hw
        obtain ⟨rfl, rfl⟩ := hw
        exact .inr ⟨_, rfl, h.enlistPop hi hc⟩
      · -- the stored wake-up is spent on an empty queue, and the next look registers
        have e : q.popWaiting 3 = ({ q with
            notEmpty := { q.notEmpty with stored := false }
            nextTicket := q.nextTicket + 1 } : Bounded α).popWaiting 2 := by
          rw [Bounded.popWaiting, Bounded.popLook_eq h.popSide]
          simp [hi, hc, hst]
        rw [e, Bounded.popWaiting_waits h₁.popSide hi hc rfl, Prod.mk.injEq] at hw
        obtain ⟨rfl, rfl⟩ := hw
        exact .inr ⟨_, rfl, h₁.enlistPop hi hc⟩
    · have e : q.popWaiting 3 = (.done none, { q with
          notEmpty := { q.notEmpty with stored := false }
          nextTicket := q.nextTicket + 1 }) := by
        simp [Bounded.popWaiting, Bounded.popLook_eq h.popSide, hi, hc]
      rw [e, Prod.mk.injEq] at hw
      obtain ⟨rfl, rfl⟩ := hw
      exact .inl ⟨none, rfl, h₁.empty hi⟩

/-- A closed queue has nobody registered, so it owes its waiting callers nothing more. -/
theorem Bounded.Watch.closed {a b : Nat} (h : q.Watch pops pushes a b) (hc : q.closed = true) :
    q.Watch pops pushes 0 0 :=
  { h with
    popsWoken := fun hne => absurd (h.popSide.shut hc) hne
    pushesWoken := fun hne => absurd (h.pushSide.shut hc) hne }

/-- A push that finds a full open queue and no stored wake-up registers its ticket and waits. -/
theorem Bounded.pushWaiting_waits {ts : List Ticket} {closed : Bool}
    (h : q.notFull.Tracks ts q.nextTicket closed) (hc : q.closed = false)
    (hfull : q.capacity ≤ q.items.length) (hst : q.notFull.stored = false) (n : Nat) :
    q.pushWaiting x (n + 1) = (.waiting (.push x (q.notFull.ticket q.nextTicket)), { q with
      notFull :=
        { q.notFull with waiting := q.notFull.waiting ++ [q.nextTicket], stored := false }
      nextTicket := q.nextTicket + 1 }) := by
  have hl : ¬ q.items.length < q.capacity := by omega
  simp [Bounded.pushWaiting, Bounded.pushLook_eq h, hc, hl, hst]

/-- A waiting push is refused by a closed queue, goes in where there is room, and otherwise
waits with a fresh registered ticket; it may use one wake-up it was given. -/
theorem Bounded.Watch.pushWaiting {p : Progress (PushResult α) α} (h : q.Watch pops pushes 0 1)
    (hw : q.pushWaiting x 3 = (p, q')) :
    (∃ r, p = .done r ∧ q'.Watch pops pushes 0 0) ∨
      ∃ t, p = .waiting (.push x t) ∧ q'.Watch pops (pushes ++ [t]) 0 0 := by
  have h₁ := h.spendFull
  cases hc : q.closed
  · by_cases hl : q.items.length < q.capacity
    · have e : q.pushWaiting x 3 = (.done (.accepted none), { q with
          items := q.items ++ [x]
          notEmpty := q.notEmpty.wakeOne
          notFull := { q.notFull with stored := false }
          nextTicket := q.nextTicket + 1 }) := by
        simp [Bounded.pushWaiting, Bounded.pushLook_eq h.pushSide, hc, hl]
      rw [e, Prod.mk.injEq] at hw
      obtain ⟨rfl, rfl⟩ := hw
      obtain ⟨hempty, htail, hcount⟩ := h.popSide.wakeOne
      refine .inl ⟨_, rfl,
        ⟨h.one, by simp only [List.length_append, List.length_singleton]; omega,
          hempty.mono (Nat.le_succ _), h₁.pushSide, fun hne => ?_, fun hne => ?_⟩⟩
      · -- the item wakes a waiting pop, if there is one
        have hwait : q.notEmpty.waiting ≠ [] := by
          intro hnil
          rw [htail, hnil] at hne
          exact hne rfl
        have := h.popsWoken hwait
        simp only [List.length_append, List.length_singleton, hcount, if_neg hwait]
        omega
      · -- the place taken used the wake-up the push may have been given
        have := h.pushesWoken hne
        change q.capacity - (q.items ++ [x]).length ≤ pushes.countP q.notFull.pending + 0
        simp only [List.length_append, List.length_singleton]
        omega
    · have hfull : q.capacity ≤ q.items.length := by omega
      cases hst : q.notFull.stored
      · rw [Bounded.pushWaiting_waits h.pushSide hc hfull hst, Prod.mk.injEq] at hw
        obtain ⟨rfl, rfl⟩ := hw
        exact .inr ⟨_, rfl, h.enlistPush hfull hc⟩
      · -- the stored wake-up is spent on a full queue, and the next look registers
        have e : q.pushWaiting x 3 = ({ q with
            notFull := { q.notFull with stored := false }
            nextTicket := q.nextTicket + 1 } : Bounded α).pushWaiting x 2 := by
          rw [Bounded.pushWaiting, Bounded.pushLook_eq h.pushSide]
          simp [hc, hl, hst]
        rw [e, Bounded.pushWaiting_waits h₁.pushSide hc hfull rfl, Prod.mk.injEq] at hw
        obtain ⟨rfl, rfl⟩ := hw
        exact .inr ⟨_, rfl, h₁.enlistPush hfull hc⟩
  · have e : q.pushWaiting x 3 = (.done (.rejected x), { q with
        notFull := { q.notFull with stored := false }
        nextTicket := q.nextTicket + 1 }) := by
      simp [Bounded.pushWaiting, Bounded.pushLook_eq h.pushSide, hc]
    rw [e, Prod.mk.injEq] at hw
    obtain ⟨rfl, rfl⟩ := hw
    exact .inl ⟨_, rfl, h₁.closed hc⟩

variable {t : Ticket}

/-- A push that evicts wakes a waiting pop for the item it adds. -/
theorem Bounded.Watch.pushEvicting (h : q.Watch pops pushes 0 0) :
    (q.pushEvicting x).2.Watch pops pushes 0 0 := by
  cases hc : q.closed
  · have hopen : ¬ q.closed = true := by simp [hc]
    obtain ⟨hk, -, hitems⟩ : q.Keeps (q.pushEvicting x).2 ∧ _ :=
      Bounded.pushEvicting_open hopen
    have hq : (q.pushEvicting x).2 = { q with
        items := (if q.capacity ≤ q.items.length then q.items.tail else q.items) ++ [x]
        notEmpty := q.notEmpty.wakeOne } := by
      rw [← hitems]
      unfold Bounded.pushEvicting
      simp only [hc, Bool.false_eq_true, if_false]
    rw [hq]
    have hlen :
        q.items.length ≤
            ((if q.capacity ≤ q.items.length then q.items.tail else q.items) ++ [x]).length ∧
          ((if q.capacity ≤ q.items.length then q.items.tail else q.items) ++ [x]).length ≤
            q.items.length + 1 ∧
          ((if q.capacity ≤ q.items.length then q.items.tail else q.items) ++ [x]).length ≤
            q.capacity := by
      have := h.one
      have := h.fits
      split <;> simp only [List.length_append, List.length_tail, List.length_singleton] <;> omega
    obtain ⟨hempty, htail, hcount⟩ := h.popSide.wakeOne
    refine ⟨h.one, hlen.2.2, hempty, h.pushSide, fun hne => ?_, fun hne => ?_⟩
    · have hwait : q.notEmpty.waiting ≠ [] := by
        intro hnil
        rw [htail, hnil] at hne
        exact hne rfl
      have := h.popsWoken hwait
      simp only [hcount, if_neg hwait]
      omega
    · have := h.pushesWoken hne
      simp only
      omega
  · simp only [Bounded.pushEvicting, hc, if_true]
    exact h

/-- `tryPop` takes the oldest item, if any, and wakes a waiting push for the place it frees. -/
theorem Bounded.Watch.tryPop (h : q.Watch pops pushes 0 0) : q.tryPop.2.Watch pops pushes 0 0 := by
  cases hi : q.items with
  | nil => simp only [Bounded.tryPop, hi]; exact h
  | cons y ys =>
    simp only [Bounded.tryPop, hi]
    have hfits := h.fits
    rw [hi, List.length_cons] at hfits
    obtain ⟨hfull, htail, hcount⟩ := h.pushSide.wakeOne
    refine ⟨h.one, by simp only; omega, h.popSide, hfull, fun hne => ?_, fun hne => ?_⟩
    · have := h.popsWoken hne
      rw [hi, List.length_cons] at this
      simp only
      omega
    · have hwait : q.notFull.waiting ≠ [] := by
        intro hnil
        rw [htail, hnil] at hne
        exact hne rfl
      have := h.pushesWoken hwait
      rw [hi, List.length_cons] at this
      simp only [hcount, if_neg hwait]
      omega

/-- Closing wakes every waiting caller. -/
theorem Bounded.Watch.close (h : q.Watch pops pushes 0 0) : q.close.Watch pops pushes 0 0 :=
  ⟨h.one, h.fits, h.popSide.wakeAll.1, h.pushSide.wakeAll.1, fun hne => absurd rfl hne,
    fun hne => absurd rfl hne⟩

/-- Draining closes the queue and empties it. -/
theorem Bounded.Watch.drain (h : q.Watch pops pushes 0 0) : q.drain.2.Watch pops pushes 0 0 :=
  have hc := h.close
  ⟨hc.one, Nat.zero_le _, hc.popSide, hc.pushSide, fun hne => absurd (hc.popSide.shut rfl) hne,
    fun hne => absurd (hc.pushSide.shut rfl) hne⟩

/-- A waiting pop that looks again: unless it was woken nothing changes; if it was, it uses
its wake-up as a pop does. -/
theorem Bounded.Watch.resumePop {r : Finished α ⊕ Waiter α} (h : q.Watch (t :: pops) pushes 0 0)
    (hr : q.resume (.pop t) = (r, q')) :
    (∃ f, r = .inl f ∧ q'.Watch pops pushes 0 0) ∨
      ∃ t', r = .inr (.pop t') ∧ q'.Watch (pops ++ [t']) pushes 0 0 := by
  cases hp : q.notEmpty.pending t
  · have e : q.resume (.pop t) = (.inr (.pop t), q) := by
      simp [Bounded.resume, Signal.check_of_not_pending hp]
    rw [e, Prod.mk.injEq] at hr
    obtain ⟨rfl, rfl⟩ := hr
    exact .inr ⟨t, rfl, h.perm (List.perm_append_singleton t pops).symm (List.Perm.refl _)⟩
  · obtain ⟨hf, hwait, hcount⟩ := h.popSide.check hp
    rw [h.popSide.check_eq hp] at hf hwait hcount
    dsimp only at hf hwait hcount
    have h₁ : ({ q with notEmpty := q.notEmpty.forget t } : Bounded α).Watch pops pushes 1 0 :=
      ⟨h.one, h.fits, hf, h.pushSide, fun hne => by
        have := h.popsWoken (hwait ▸ hne)
        change q.items.length ≤ pops.countP (q.notEmpty.forget t).pending + 1
        omega, h.pushesWoken⟩
    rcases hw : ({ q with notEmpty := q.notEmpty.forget t } : Bounded α).popWaiting 3 with
      ⟨p, q₂⟩
    -- the woken pop takes the queue's next turn, as a pop that finds it empty does
    rcases h₁.popWaiting hw with ⟨r', rfl, hq⟩ | ⟨t', rfl, hq⟩
    · have e : q.resume (.pop t) = (.inl (.popped r'), q₂) := by
        simp only [Bounded.resume, h.popSide.check_eq hp, if_true, hw]
      rw [e, Prod.mk.injEq] at hr
      obtain ⟨rfl, rfl⟩ := hr
      exact .inl ⟨_, rfl, hq⟩
    · have e : q.resume (.pop t) = (.inr (.pop t'), q₂) := by
        simp only [Bounded.resume, h.popSide.check_eq hp, if_true, hw]
      rw [e, Prod.mk.injEq] at hr
      obtain ⟨rfl, rfl⟩ := hr
      exact .inr ⟨t', rfl, hq⟩

/-- A waiting push that looks again: unless it was woken nothing changes; if it was, it uses
its wake-up as a push does. -/
theorem Bounded.Watch.resumePush {r : Finished α ⊕ Waiter α}
    (h : q.Watch pops (t :: pushes) 0 0) (hr : q.resume (.push x t) = (r, q')) :
    (∃ f, r = .inl f ∧ q'.Watch pops pushes 0 0) ∨
      ∃ t', r = .inr (.push x t') ∧ q'.Watch pops (pushes ++ [t']) 0 0 := by
  cases hp : q.notFull.pending t
  · have e : q.resume (.push x t) = (.inr (.push x t), q) := by
      simp [Bounded.resume, Signal.check_of_not_pending hp]
    rw [e, Prod.mk.injEq] at hr
    obtain ⟨rfl, rfl⟩ := hr
    exact .inr ⟨t, rfl, h.perm (List.Perm.refl _) (List.perm_append_singleton t pushes).symm⟩
  · obtain ⟨hf, hwait, hcount⟩ := h.pushSide.check hp
    rw [h.pushSide.check_eq hp] at hf hwait hcount
    dsimp only at hf hwait hcount
    have h₁ : ({ q with notFull := q.notFull.forget t } : Bounded α).Watch pops pushes 0 1 :=
      ⟨h.one, h.fits, h.popSide, hf, h.popsWoken, fun hne => by
        have := h.pushesWoken (hwait ▸ hne)
        change q.capacity - q.items.length ≤ pushes.countP (q.notFull.forget t).pending + 1
        omega⟩
    rcases hw : ({ q with notFull := q.notFull.forget t } : Bounded α).pushWaiting x 3 with
      ⟨p, q₂⟩
    -- the woken push takes the queue's next turn, as a push that finds it full does
    rcases h₁.pushWaiting hw with ⟨r', rfl, hq⟩ | ⟨t', rfl, hq⟩
    · have e : q.resume (.push x t) = (.inl (.pushed r'), q₂) := by
        simp only [Bounded.resume, h.pushSide.check_eq hp, if_true, hw]
      rw [e, Prod.mk.injEq] at hr
      obtain ⟨rfl, rfl⟩ := hr
      exact .inl ⟨_, rfl, hq⟩
    · have e : q.resume (.push x t) = (.inr (.push x t'), q₂) := by
        simp only [Bounded.resume, h.pushSide.check_eq hp, if_true, hw]
      rw [e, Prod.mk.injEq] at hr
      obtain ⟨rfl, rfl⟩ := hr
      exact .inr ⟨t', rfl, hq⟩

/-- A waiting pop dropped before it finished. -/
theorem Bounded.Watch.abandonPop (h : q.Watch (t :: pops) pushes 0 0) :
    (q.abandon (.pop t)).Watch pops pushes 0 0 := by
  obtain ⟨hl, hcount⟩ := h.popSide.leave
  exact ⟨h.one, h.fits, hl, h.pushSide,
    fun hne => Nat.le_trans (h.popsWoken (Signal.waiting_of_leave hne)) (hcount hne),
    h.pushesWoken⟩

/-- A waiting push dropped before it finished. -/
theorem Bounded.Watch.abandonPush (h : q.Watch pops (t :: pushes) 0 0) :
    (q.abandon (.push x t)).Watch pops pushes 0 0 := by
  obtain ⟨hl, hcount⟩ := h.pushSide.leave
  exact ⟨h.one, h.fits, h.popSide, hl, h.popsWoken,
    fun hne => Nat.le_trans (h.pushesWoken (Signal.waiting_of_leave hne)) (hcount hne)⟩

end Calls

/-! ## Callers on a queue -/

section Crowd

variable {α : Type}

/-- The ticket of a waiting pop. -/
def Waiter.popTicket? : Waiter α → Option Ticket
  | .pop t => some t
  | .push _ _ => none

/-- The ticket of a waiting push. -/
def Waiter.pushTicket? : Waiter α → Option Ticket
  | .push _ t => some t
  | .pop _ => none

/-- Whether a waiting caller is a pop. -/
def Waiter.pops (w : Waiter α) : Bool := w.popTicket?.isSome

/-- Whether a waiting caller is a push. -/
def Waiter.pushes (w : Waiter α) : Bool := w.pushTicket?.isSome

/-- Whether a waiting caller holds a wake-up: looking at its ticket again finds it woken. -/
def Bounded.holdsWake (q : Bounded α) : Waiter α → Bool
  | .push _ t => (q.notFull.check t).1
  | .pop t => (q.notEmpty.check t).1

/-- Callers on one queue: the queue and the callers suspended on it, in no particular order. -/
structure Crowd (α : Type) where
  queue : Bounded α
  waiters : List (Waiter α) := []

/-- A move of the callers on a queue: a new caller's turn, or a suspended caller, named by its
place, that is polled again or dropped. -/
inductive Crowd.Move (α : Type) where
  | push (x : α)
  | pop
  | tryPop
  | close
  | drain
  | resume (i : Nat)
  | abandon (i : Nat)

/-- A new queue with nobody waiting. -/
def Crowd.new (capacity : Nat) (mode : FullMode) : Crowd α := ⟨.new capacity mode, []⟩

/-- A new caller's turn: one that has to wait joins the suspended callers. -/
def Crowd.turn (cr : Crowd α) (c : Call α) : Crowd α :=
  match cr.queue.call c with
  | (.waits w, q) => ⟨q, cr.waiters ++ [w]⟩
  | (_, q) => ⟨q, cr.waiters⟩

/-- Suspended caller `i`, holding `w`, is polled: it waits on in its place or leaves. -/
def Crowd.again (cr : Crowd α) (i : Nat) (w : Waiter α) : Crowd α :=
  match cr.queue.call (.resume w) with
  | (.waits w', q) => ⟨q, cr.waiters.set i w'⟩
  | (_, q) => ⟨q, cr.waiters.eraseIdx i⟩

/-- Make one move; naming a place where nobody waits does nothing. -/
def Crowd.move (cr : Crowd α) : Crowd.Move α → Crowd α
  | .push x => cr.turn (.push x)
  | .pop => cr.turn .pop
  | .tryPop => cr.turn .tryPop
  | .close => cr.turn .close
  | .drain => cr.turn .drain
  | .resume i =>
    match cr.waiters[i]? with
    | some w => cr.again i w
    | none => cr
  | .abandon i =>
    match cr.waiters[i]? with
    | some w => ⟨(cr.queue.call (.abandon w)).2, cr.waiters.eraseIdx i⟩
    | none => cr

/-- Make moves in order. -/
def Crowd.run (cr : Crowd α) : List (Crowd.Move α) → Crowd α
  | [] => cr
  | m :: ms => (cr.move m).run ms

/-- The tickets of the waiting pops. -/
def Crowd.pops (cr : Crowd α) : List Ticket := cr.waiters.filterMap Waiter.popTicket?

/-- The tickets of the waiting pushes. -/
def Crowd.pushes (cr : Crowd α) : List Ticket := cr.waiters.filterMap Waiter.pushTicket?

/-- What a queue owes the callers suspended on it. -/
def Crowd.Wf (cr : Crowd α) : Prop := cr.queue.Watch cr.pops cr.pushes 0 0

end Crowd

/-! ## No wake-up is lost -/

section Lost

variable {α : Type} {cr : Crowd α} {x : α}

theorem filterMap_perm_eraseIdx {β γ : Type} {l : List β} {i : Nat} {w : β} (h : l[i]? = some w)
    (f : β → Option γ) : (l.filterMap f).Perm ((f w).toList ++ (l.eraseIdx i).filterMap f) := by
  obtain ⟨hi, rfl⟩ := List.getElem?_eq_some_iff.mp h
  have := ((List.getElem_cons_eraseIdx_perm hi).filterMap f).symm
  rw [List.filterMap_cons] at this
  cases hf : f l[i] <;> simpa [hf] using this

theorem filterMap_perm_set {β γ : Type} {l : List β} {i : Nat} {w : β} (h : l[i]? = some w)
    (w' : β) (f : β → Option γ) :
    ((l.set i w').filterMap f).Perm ((f w').toList ++ (l.eraseIdx i).filterMap f) := by
  obtain ⟨hi, -⟩ := List.getElem?_eq_some_iff.mp h
  have := (List.set_perm_cons_eraseIdx hi w').filterMap f
  rw [List.filterMap_cons] at this
  cases hf : f w' <;> simpa [hf] using this

/-- A new signal tracks nobody. -/
theorem Signal.Tracks.init (next : Nat) (closed : Bool) : ({} : Signal).Tracks [] next closed :=
  ⟨by simp, by simp, List.nodup_nil, by simp, List.nodup_nil, by simp, by simp,
    fun h => (by cases h), fun _ => ⟨rfl, by simp⟩, fun _ => rfl⟩

/-- A new queue owes nobody anything. -/
theorem Crowd.new_wf (capacity : Nat) (mode : FullMode) :
    (Crowd.new capacity mode : Crowd α).Wf :=
  ⟨Nat.le_max_right _ _, Nat.zero_le _, Signal.Tracks.init _ _, Signal.Tracks.init _ _,
    fun hne => absurd rfl hne, fun hne => absurd rfl hne⟩

/-- A push: in `dropOldest` mode it never waits; in `wait` mode it may join the waiting pushes. -/
theorem Crowd.turn_push_wf (h : cr.Wf) : (cr.turn (.push x)).Wf := by
  cases hm : cr.queue.mode with
  | wait =>
    rcases hw : cr.queue.pushWaiting x 3 with ⟨p, q'⟩
    have hcall : cr.queue.call (.push x) = (.ofPush p, q') := by
      simp [Bounded.call, Bounded.push, hm, hw]
    rcases (Bounded.Watch.credit h le_rfl (Nat.zero_le 1)).pushWaiting hw with
      ⟨r, rfl, hq⟩ | ⟨t, rfl, hq⟩
    · simpa [Crowd.turn, hcall, Answer.ofPush, Crowd.Wf, Crowd.pops, Crowd.pushes] using hq
    · simpa [Crowd.turn, hcall, Answer.ofPush, Crowd.Wf, Crowd.pops, Crowd.pushes,
        List.filterMap_cons, Waiter.popTicket?, Waiter.pushTicket?] using hq
  | dropOldest =>
    have hcall : cr.queue.call (.push x) =
        (.pushed (cr.queue.pushEvicting x).1, (cr.queue.pushEvicting x).2) := by
      simp [Bounded.call, Bounded.push, hm, Answer.ofPush]
    have hq : (cr.queue.pushEvicting x).2.Watch cr.pops cr.pushes 0 0 := h.pushEvicting
    simpa [Crowd.turn, hcall, Crowd.Wf, Crowd.pops, Crowd.pushes] using hq

/-- A pop may join the waiting pops. -/
theorem Crowd.turn_pop_wf (h : cr.Wf) : (cr.turn .pop).Wf := by
  rcases hw : cr.queue.popWaiting 3 with ⟨p, q'⟩
  have hcall : cr.queue.call .pop = (.ofPop p, q') := by simp [Bounded.call, Bounded.pop, hw]
  rcases (Bounded.Watch.credit h (Nat.zero_le 1) le_rfl).popWaiting hw with
    ⟨r, rfl, hq⟩ | ⟨t, rfl, hq⟩
  · simpa [Crowd.turn, hcall, Answer.ofPop, Crowd.Wf, Crowd.pops, Crowd.pushes] using hq
  · simpa [Crowd.turn, hcall, Answer.ofPop, Crowd.Wf, Crowd.pops, Crowd.pushes,
      List.filterMap_cons, Waiter.popTicket?, Waiter.pushTicket?] using hq

/-- `tryPop`, close and drain never wait. -/
theorem Crowd.turn_tryPop_wf (h : cr.Wf) : (cr.turn .tryPop).Wf := by
  simpa [Crowd.turn, Bounded.call, Crowd.Wf, Crowd.pops, Crowd.pushes] using h.tryPop

theorem Crowd.turn_close_wf (h : cr.Wf) : (cr.turn .close).Wf := by
  simpa [Crowd.turn, Bounded.call, Crowd.Wf, Crowd.pops, Crowd.pushes] using h.close

theorem Crowd.turn_drain_wf (h : cr.Wf) : (cr.turn .drain).Wf := by
  simpa [Crowd.turn, Bounded.call, Crowd.Wf, Crowd.pops, Crowd.pushes] using h.drain

/-- A suspended caller polled again waits on in its place, with its ticket or a new one, or
leaves. -/
theorem Crowd.again_wf {i : Nat} {w : Waiter α} (h : cr.Wf) (hi : cr.waiters[i]? = some w) :
    (cr.again i w).Wf := by
  have hpops := filterMap_perm_eraseIdx hi Waiter.popTicket?
  have hpushes := filterMap_perm_eraseIdx hi Waiter.pushTicket?
  rcases hr : cr.queue.resume w with ⟨r, q'⟩
  have hcall : cr.queue.call (.resume w) = (.ofResume r, q') := by simp [Bounded.call, hr]
  cases w with
  | pop t =>
    have h' := Bounded.Watch.perm h hpops hpushes
    simp only [Waiter.popTicket?, Waiter.pushTicket?, Option.toList_some, Option.toList_none,
      List.nil_append, List.singleton_append] at h'
    rcases h'.resumePop hr with ⟨f, rfl, hq⟩ | ⟨t', rfl, hq⟩
    · cases f <;>
        simpa [Crowd.again, hcall, Answer.ofResume, Crowd.Wf, Crowd.pops, Crowd.pushes] using hq
    · simp only [Crowd.again, hcall, Answer.ofResume, Crowd.Wf, Crowd.pops, Crowd.pushes]
      refine hq.perm ?_ ?_
      · refine (List.perm_append_singleton t' _).trans ?_
        simpa [Waiter.popTicket?] using (filterMap_perm_set hi (.pop t') Waiter.popTicket?).symm
      · simpa [Waiter.pushTicket?] using (filterMap_perm_set hi (.pop t') Waiter.pushTicket?).symm
  | push y t =>
    have h' := Bounded.Watch.perm h hpops hpushes
    simp only [Waiter.popTicket?, Waiter.pushTicket?, Option.toList_some, Option.toList_none,
      List.nil_append, List.singleton_append] at h'
    rcases h'.resumePush hr with ⟨f, rfl, hq⟩ | ⟨t', rfl, hq⟩
    · cases f <;>
        simpa [Crowd.again, hcall, Answer.ofResume, Crowd.Wf, Crowd.pops, Crowd.pushes] using hq
    · simp only [Crowd.again, hcall, Answer.ofResume, Crowd.Wf, Crowd.pops, Crowd.pushes]
      refine hq.perm ?_ ?_
      · simpa [Waiter.popTicket?] using (filterMap_perm_set hi (.push y t') Waiter.popTicket?).symm
      · refine (List.perm_append_singleton t' _).trans ?_
        simpa [Waiter.pushTicket?] using
          (filterMap_perm_set hi (.push y t') Waiter.pushTicket?).symm

/-- A suspended caller dropped before it finished. -/
theorem Crowd.abandon_wf {i : Nat} {w : Waiter α} (h : cr.Wf) (hi : cr.waiters[i]? = some w) :
    (⟨(cr.queue.call (.abandon w)).2, cr.waiters.eraseIdx i⟩ : Crowd α).Wf := by
  have h' := Bounded.Watch.perm h (filterMap_perm_eraseIdx hi Waiter.popTicket?)
    (filterMap_perm_eraseIdx hi Waiter.pushTicket?)
  cases w with
  | pop t =>
    simp only [Waiter.popTicket?, Waiter.pushTicket?, Option.toList_some, Option.toList_none,
      List.nil_append, List.singleton_append] at h'
    exact h'.abandonPop
  | push y t =>
    simp only [Waiter.popTicket?, Waiter.pushTicket?, Option.toList_some, Option.toList_none,
      List.nil_append, List.singleton_append] at h'
    exact (h'.abandonPush : (cr.queue.abandon (.push y t)).Watch _ _ 0 0)

/-- Every move keeps what the queue owes its suspended callers. -/
theorem Crowd.move_wf (h : cr.Wf) (m : Crowd.Move α) : (cr.move m).Wf := by
  cases m with
  | push x => exact Crowd.turn_push_wf h
  | pop => exact Crowd.turn_pop_wf h
  | tryPop => exact Crowd.turn_tryPop_wf h
  | close => exact Crowd.turn_close_wf h
  | drain => exact Crowd.turn_drain_wf h
  | resume i =>
    simp only [Crowd.move]
    split
    next w hi => exact Crowd.again_wf h hi
    next => exact h
  | abandon i =>
    simp only [Crowd.move]
    split
    next w hi => exact Crowd.abandon_wf h hi
    next => exact h

/-- Every sequence of moves keeps it. -/
theorem Crowd.run_wf (h : cr.Wf) (ms : List (Crowd.Move α)) : (cr.run ms).Wf := by
  induction ms generalizing cr with
  | nil => exact h
  | cons m ms ih => exact ih (Crowd.move_wf h m)

/-- While somebody is registered the woken tickets cover `n`; otherwise every ticket is woken:
either way at least `min n` of them are. -/
theorem Signal.Tracks.min_le {s : Signal} {ts : List Ticket} {next n : Nat} {closed : Bool}
    (h : s.Tracks ts next closed) (hn : s.waiting ≠ [] → n ≤ ts.countP s.pending) :
    min n ts.length ≤ ts.countP s.pending := by
  by_cases hw : s.waiting = []
  · have hall : ts.countP s.pending = ts.length := List.countP_eq_length.mpr fun t ht =>
      (h.covered t ht).resolve_right (by rw [hw]; exact List.not_mem_nil)
    omega
  · have := hn hw
    omega

/-- Once the queue is closed, every ticket is woken. -/
theorem Signal.Tracks.pending_of_closed {s : Signal} {ts : List Ticket} {next : Nat}
    {closed : Bool} (h : s.Tracks ts next closed) (hc : closed = true) :
    ∀ t ∈ ts, s.pending t = true := fun t ht =>
  (h.covered t ht).resolve_right (by rw [h.shut hc]; exact List.not_mem_nil)

theorem Crowd.countP_pops (cr : Crowd α) (q : Bounded α) :
    cr.waiters.countP Waiter.pops = cr.pops.length ∧
      cr.waiters.countP (fun w => w.pops && q.holdsWake w) = cr.pops.countP q.notEmpty.pending := by
  refine ⟨List.length_filterMap_eq_countP.symm, ?_⟩
  rw [Crowd.pops, List.countP_filterMap]
  apply List.countP_congr
  intro w _
  cases w <;> simp [Waiter.pops, Waiter.popTicket?, Bounded.holdsWake, Signal.check_fst]

theorem Crowd.countP_pushes (cr : Crowd α) (q : Bounded α) :
    cr.waiters.countP Waiter.pushes = cr.pushes.length ∧
      cr.waiters.countP (fun w => w.pushes && q.holdsWake w) =
        cr.pushes.countP q.notFull.pending := by
  refine ⟨List.length_filterMap_eq_countP.symm, ?_⟩
  rw [Crowd.pushes, List.countP_filterMap]
  apply List.countP_congr
  intro w _
  cases w <;> simp [Waiter.pushes, Waiter.pushTicket?, Bounded.holdsWake, Signal.check_fst]

/-- No wake-up of a bounded queue is lost: after any interleaving of calls, at least as many
waiting pops as there are items, and waiting pushes as there are free places, hold a wake-up
(or all of them, if fewer), and once the queue is closed every waiting caller holds one. -/
theorem Crowd.no_lost_wakeups (capacity : Nat) (mode : FullMode) (moves : List (Crowd.Move α)) :
    let cr := (Crowd.new capacity mode : Crowd α).run moves
    let q := cr.queue
    min q.items.length (cr.waiters.countP Waiter.pops) ≤
        cr.waiters.countP (fun w => w.pops && q.holdsWake w) ∧
      min (q.capacity - q.items.length) (cr.waiters.countP Waiter.pushes) ≤
        cr.waiters.countP (fun w => w.pushes && q.holdsWake w) ∧
      (q.closed = true → ∀ w ∈ cr.waiters, q.holdsWake w = true) := by
  intro cr q
  have h : cr.Wf := Crowd.run_wf (Crowd.new_wf capacity mode) moves
  obtain ⟨hpops, hwokenPops⟩ := cr.countP_pops q
  obtain ⟨hpushes, hwokenPushes⟩ := cr.countP_pushes q
  refine ⟨?_, ?_, fun hc w hw => ?_⟩
  · rw [hpops, hwokenPops]
    exact h.popSide.min_le fun hne => by simpa using h.popsWoken hne
  · rw [hpushes, hwokenPushes]
    exact h.pushSide.min_le fun hne => by simpa using h.pushesWoken hne
  · cases w with
    | pop t =>
      have ht : t ∈ cr.pops := List.mem_filterMap.mpr ⟨.pop t, hw, rfl⟩
      simpa [Bounded.holdsWake, Signal.check_fst] using h.popSide.pending_of_closed hc t ht
    | push y t =>
      have ht : t ∈ cr.pushes := List.mem_filterMap.mpr ⟨.push y t, hw, rfl⟩
      simpa [Bounded.holdsWake, Signal.check_fst] using h.pushSide.pending_of_closed hc t ht

/-- Two pops wait on an empty queue: a push wakes one of them, and a close the other. -/
example :
    let cr := (Crowd.new 2 .wait : Crowd Nat).run [.pop, .pop, .push 7]
    let cr' := cr.run [.close]
    cr.waiters.countP (fun w => w.pops && cr.queue.holdsWake w) = 1 ∧
      cr'.waiters.countP (fun w => w.pops && cr'.queue.holdsWake w) = 2 := by
  decide

end Lost

end NetNode.Queue
