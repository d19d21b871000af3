import Mathlib
import NetNode.Pool.Session

/-!
# The books of a buffer pool

A pool counts what it does: every rent is served by an allocation or by a reuse, and every
return is kept as an idle buffer or discarded because the idle queue is full. `BufferPool.Books`
says that the counters account for the idle buffers: those prewarmed and those kept from returns,
less those reused, never more than the capacity. Each call on the pool keeps the books
(`BufferPool.rent_books`, `BufferPool.giveBack_books`, `BufferPool.prewarm_books`).

A session lends buffers as numbered loans, each released once. `Session.Ledger` adds that the
rents not matched by a return are the loans still held, give or take the buffers rented and
returned without a loan. The main statement is `pool_ledger`: along every run of requests on a
new pool, the books hold, a return is discarded exactly when the idle queue is full, every rent
hands out a buffer of the pool's size, and when every buffer goes out and comes back as a loan
the buffers on loan are the loans still held.
-/

namespace NetNode.Pool

/-! ## One call on the pool -/

section Calls

variable (p : BufferPool)

@[simp] theorem BufferPool.giveBack_rents (b : Buffer) :
    (p.giveBack b).stats.rents = p.stats.rents := by
  unfold BufferPool.giveBack
  split <;> rfl

@[simp] theorem BufferPool.giveBack_returns (b : Buffer) :
    (p.giveBack b).stats.returns = p.stats.returns + 1 := by
  unfold BufferPool.giveBack
  split <;> rfl

@[simp] theorem BufferPool.rent_rents : p.rent.2.stats.rents = p.stats.rents + 1 := by
  unfold BufferPool.rent
  split <;> rfl

@[simp] theorem BufferPool.rent_returns : p.rent.2.stats.returns = p.stats.returns := by
  unfold BufferPool.rent
  split <;> rfl

@[simp] theorem BufferPool.rent_capacity : p.rent.2.capacity = p.capacity := by
  unfold BufferPool.rent
  split <;> rfl

@[simp] theorem BufferPool.rent_bufferSize : p.rent.2.bufferSize = p.bufferSize := by
  unfold BufferPool.rent
  split <;> rfl

/-- A rent hands out a buffer of the pool's size, a reused one cut or filled up with zeros. -/
@[simp] theorem BufferPool.rent_size : p.rent.1.size = p.bufferSize := by
  unfold BufferPool.rent
  split <;> rfl

@[simp] theorem BufferPool.giveBack_capacity (b : Buffer) :
    (p.giveBack b).capacity = p.capacity := by
  unfold BufferPool.giveBack
  split <;> rfl

@[simp] theorem BufferPool.giveBack_bufferSize (b : Buffer) :
    (p.giveBack b).bufferSize = p.bufferSize := by
  unfold BufferPool.giveBack
  split <;> rfl

@[simp] theorem BufferPool.prewarm_capacity (n : Nat) : (p.prewarm n).capacity = p.capacity := rfl

@[simp] theorem BufferPool.prewarm_bufferSize (n : Nat) :
    (p.prewarm n).bufferSize = p.bufferSize := rfl

@[simp] theorem BufferPool.prewarm_stats (n : Nat) : (p.prewarm n).stats = p.stats := rfl

/-- A return is counted as a discard exactly when the idle queue has no room. -/
theorem BufferPool.giveBack_discards (b : Buffer) :
    (p.giveBack b).stats.discards =
      p.stats.discards + if p.idle.length < p.capacity then 0 else 1 := by
  unfold BufferPool.giveBack
  split <;> simp_all

/-- Prewarming adds zeroed buffers up to its count or until the idle queue is full. -/
theorem BufferPool.prewarm_idle_length (n : Nat) :
    (p.prewarm n).idle.length = p.idle.length + min n (p.capacity - p.idle.length) := by
  simp [BufferPool.prewarm]

end Calls

/-- The counters account for the idle buffers after `prewarmed` buffers were prewarmed in all. -/
structure BufferPool.Books (p : BufferPool) (prewarmed : Nat) : Prop where
  /-- Every rent allocated a buffer or reused an idle one. -/
  rents : p.stats.rents = p.stats.allocations + p.stats.reuses
  /-- Every idle buffer was prewarmed or kept from a return, and not yet reused. -/
  idle : p.idle.length + p.stats.reuses + p.stats.discards = prewarmed + p.stats.returns
  /-- Every discard is a return. -/
  discards : p.stats.discards ≤ p.stats.returns
  /-- The idle buffers fit the capacity. -/
  room : p.idle.length ≤ p.capacity

theorem BufferPool.new_books (capacity bufferSize : Nat) :
    (BufferPool.new capacity bufferSize).Books 0 :=
  ⟨rfl, rfl, le_refl 0, Nat.zero_le _⟩

section Books

variable {p : BufferPool} {k : Nat}

theorem BufferPool.rent_books (h : p.Books k) : p.rent.2.Books k := by
  obtain ⟨hr, hi, hd, hroom⟩ := h
  unfold BufferPool.rent
  split
  · -- a reuse takes the oldest idle buffer
    rename_i b rest hidle
    rw [hidle, List.length_cons] at hi hroom
    exact ⟨by simp; omega, by simp; omega, by simpa using hd, by simp; omega⟩
  · -- an allocation leaves the idle queue alone
    exact ⟨by simp; omega, by simpa using hi, by simpa using hd, by simpa using hroom⟩

theorem BufferPool.giveBack_books (h : p.Books k) (b : Buffer) : (p.giveBack b).Books k := by
  obtain ⟨hr, hi, hd, hroom⟩ := h
  unfold BufferPool.giveBack
  split
  · -- kept at the back of the idle queue
    exact ⟨by simpa using hr, by simp; omega, by simp; omega, by simp; omega⟩
  · -- discarded
    exact ⟨by simpa using hr, by simp; omega, by simp; omega, by simpa using hroom⟩

theorem BufferPool.prewarm_books (h : p.Books k) (n : Nat) :
    (p.prewarm n).Books (k + min n (p.capacity - p.idle.length)) := by
  obtain ⟨hr, hi, hd, hroom⟩ := h
  have hlen := p.prewarm_idle_length n
  refine ⟨hr, ?_, hd, ?_⟩
  · rw [BufferPool.prewarm_stats]
    omega
  · rw [BufferPool.prewarm_capacity]
    omega

/-- On a pool whose books hold, a return is a discard exactly when the idle queue is full. -/
theorem BufferPool.Books.giveBack_discards (h : p.Books k) (b : Buffer) :
    (p.giveBack b).stats.discards =
      p.stats.discards + if p.idle.length = p.capacity then 1 else 0 := by
  rw [BufferPool.giveBack_discards]
  have := h.room
  by_cases hfull : p.idle.length = p.capacity
  · simp [hfull]
  · simp [hfull, show p.idle.length < p.capacity by omega]

end Books

/-! ## Loans -/

/-- The size of the buffer a rent handed out, as a loan or raw. -/
def Reply.rentSize? : Reply → Option Nat
  | .rented _ l => some l.buffer.size
  | .rawRented len _ => some len
  | _ => none

/-- Whether a request takes a buffer out of the pool or puts one in without a loan. -/
def Request.raw : Request → Bool
  | .rentRaw _ | .returnRaw _ => true
  | _ => false

/-- A buffer rented without a loan. -/
def Request.rawRents : Request → Nat
  | .rentRaw _ => 1
  | _ => 0

/-- A buffer returned without a loan. -/
def Request.rawReturns : Request → Nat
  | .returnRaw _ => 1
  | _ => 0

/-- The buffers a request prewarms into the pool. -/
def Request.pushes (p : BufferPool) : Request → Nat
  | .prewarm n => min n (p.capacity - p.idle.length)
  | _ => 0

/-- The buffers the prewarm requests of a run add to the idle queue. -/
def Session.prewarmed (s : Session) : List Request → Nat
  | [] => 0
  | r :: rs => r.pushes s.pool + (s.request r).2.prewarmed rs

/-- The books of a session after `prewarmed` buffers were prewarmed, `rawRents` rented and
`rawReturns` returned without a loan: the pool's books hold, every rent not matched by a return
is a loan still held or a raw rent not matched by a raw return, and the loans held have distinct
numbers, all below the next one. -/
structure Session.Ledger (s : Session) (prewarmed rawRents rawReturns : Nat) : Prop where
  books : s.pool.Books prewarmed
  loans : s.pool.stats.returns + s.loans.length + rawRents = s.pool.stats.rents + rawReturns
  ids : (s.loans.map Prod.fst).Nodup
  fresh : ∀ e ∈ s.loans, e.1 < s.nextId

theorem Session.new_ledger (p : BufferPool) (hp : p.Books 0) (hrents : p.stats.rents = 0)
    (hreturns : p.stats.returns = 0) : Session.Ledger { pool := p } 0 0 0 :=
  ⟨hp, by simp [hrents, hreturns], List.nodup_nil, fun _ h => by cases h⟩

/-- Replacing a held loan keeps the numbers of the loans held. -/
theorem Session.update_ids (s : Session) (id : Nat) (l : Loan) :
    (s.update id l).loans.map Prod.fst = s.loans.map Prod.fst := by
  simp only [Session.update, List.map_map]
  apply List.map_congr_left
  intro e _
  by_cases h : e.1 = id <;> simp [h]

/-- An entry found by its number is among the entries. -/
theorem mem_of_lookup_eq_some {l : List (Nat × Loan)} {id : Nat} {x : Loan}
    (h : l.lookup id = some x) : (id, x) ∈ l := by
  induction l with
  | nil => cases h
  | cons e es ih =>
    obtain ⟨i, y⟩ := e
    by_cases hi : id = i
    · subst hi
      simp only [List.lookup, beq_self_eq_true, Option.some.injEq] at h
      simp [h]
    · have hne : (id == i) = false := by simpa using hi
      simp only [List.lookup, hne] at h
      exact List.mem_cons_of_mem _ (ih h)

/-- Releasing a held loan whose number no other loan has drops that loan alone. -/
theorem Session.release_length {s : Session} {id : Nat} {l : Loan} (h : s.loan? id = some l)
    (hids : (s.loans.map Prod.fst).Nodup) :
    (s.loans.filter (·.1 ≠ id)).length + 1 = s.loans.length := by
  have hmem : id ∈ s.loans.map Prod.fst :=
    List.mem_map.2 ⟨_, mem_of_lookup_eq_some h, rfl⟩
  -- the number is held once, and the filter keeps every other loan
  have hone : (s.loans.map Prod.fst).count id = 1 := List.count_eq_one_of_mem hids hmem
  rw [List.count, List.countP_map] at hone
  have hsplit := s.loans.length_eq_countP_add_countP (fun e => decide (e.1 = id))
  have hfilter : (s.loans.filter (·.1 ≠ id)).length =
      s.loans.countP (fun e => decide ¬ decide (e.1 = id) = true) := by
    rw [← List.countP_eq_length_filter]
    congr 1
    funext e
    simp
  have hcount : s.loans.countP (fun e => decide (e.1 = id)) = 1 := by
    rw [← hone]
    rfl
  omega

section Ledger

variable {s : Session} {k a b : Nat}

theorem Session.Ledger.update (h : s.Ledger k a b) (id : Nat) (l : Loan) :
    (s.update id l).Ledger k a b := by
  refine ⟨h.books, ?_, by rw [Session.update_ids]; exact h.ids, ?_⟩
  · simpa [Session.update] using h.loans
  · intro e he
    change e.1 < s.nextId
    simp only [Session.update, List.mem_map] at he
    obtain ⟨e', he', rfl⟩ := he
    by_cases hi : e'.1 = id
    · simpa [hi] using h.fresh e' he'
    · simpa [hi] using h.fresh e' he'

/-- A rent through the session adds a loan under the next number. -/
theorem Session.Ledger.lend (h : s.Ledger k a b) :
    (s.request .rent).2.Ledger k a b := by
  refine ⟨BufferPool.rent_books h.books, ?_, ?_, ?_⟩
  · have := h.loans
    simp only [Session.request, List.length_append, List.length_singleton,
      BufferPool.rent_rents, BufferPool.rent_returns]
    omega
  · simp only [Session.request, List.map_append, List.map_cons, List.map_nil]
    refine List.nodup_append.2 ⟨h.ids, List.nodup_singleton _, ?_⟩
    intro x hx y hy
    simp only [List.mem_singleton] at hy
    obtain ⟨e, he, rfl⟩ := List.mem_map.1 hx
    exact hy ▸ (h.fresh e he).ne
  · intro e he
    simp only [Session.request, List.mem_append, List.mem_singleton] at he
    rcases he with he | rfl
    · exact Nat.lt_succ_of_lt (h.fresh e he)
    · exact Nat.lt_succ_self _

/-- Releasing a held loan gives its buffer back and drops the loan. -/
theorem Session.Ledger.release (h : s.Ledger k a b) {id : Nat} {l : Loan}
    (hl : s.loan? id = some l) :
    Session.Ledger { s with pool := s.pool.giveBack l.buffer, loans := s.loans.filter (·.1 ≠ id) }
      k a b := by
  have hlen := Session.release_length hl h.ids
  have := h.loans
  refine ⟨BufferPool.giveBack_books h.books _, ?_, ?_, ?_⟩
  · simp only [BufferPool.giveBack_returns, BufferPool.giveBack_rents]
    omega
  · exact (List.filter_sublist.map Prod.fst).nodup h.ids
  · intro e he
    exact h.fresh e (List.mem_of_mem_filter he)

/-- One request keeps the session's books, the counts moving by what it prewarms and what it
rents or returns without a loan. -/
theorem Session.request_ledger (h : s.Ledger k a b) (r : Request) :
    (s.request r).2.Ledger (k + r.pushes s.pool) (a + r.rawRents) (b + r.rawReturns) := by
  have hloans := h.loans
  cases r with
  | rent => exact h.lend
  | write id offset data =>
    simp only [Session.request, Request.pushes, Request.rawRents, Request.rawReturns]
    split
    · exact h.update _ _
    · exact h
  | setFilled id n =>
    simp only [Session.request, Request.pushes, Request.rawRents, Request.rawReturns]
    split
    · split
      · exact h.update _ _
      · exact h
    · exact h
  | filled id =>
    simp only [Session.request, Request.pushes, Request.rawRents, Request.rawReturns]
    split <;> exact h
  | peek id n =>
    simp only [Session.request, Request.pushes, Request.rawRents, Request.rawReturns]
    split <;> exact h
  | describeLoan id =>
    simp only [Session.request, Request.pushes, Request.rawRents, Request.rawReturns]
    split <;> exact h
  | stats => exact h
  | describe => exact h
  | release id =>
    simp only [Session.request, Request.pushes, Request.rawRents, Request.rawReturns]
    split
    · exact h.release ‹_›
    · exact h
  | rentRaw n =>
    -- the buffer leaves the pool with no loan to bring it back
    refine ⟨BufferPool.rent_books h.books, ?_, h.ids, h.fresh⟩
    simp only [Session.request, BufferPool.rent_rents, BufferPool.rent_returns,
      Request.rawRents, Request.rawReturns]
    omega
  | returnRaw data =>
    -- a buffer comes back that no loan took out
    refine ⟨BufferPool.giveBack_books h.books _, ?_, h.ids, h.fresh⟩
    simp only [Session.request, BufferPool.giveBack_rents, BufferPool.giveBack_returns,
      Request.rawRents, Request.rawReturns]
    omega
  | prewarm n =>
    refine ⟨BufferPool.prewarm_books h.books n, ?_, h.ids, h.fresh⟩
    simpa [Session.request, Request.rawRents, Request.rawReturns] using hloans

end Ledger

/-- A request leaves the pool as it was, or rents from it, gives a buffer back to it, or
prewarms it. -/
theorem Session.request_pool (s : Session) (r : Request) :
    (s.request r).2.pool = s.pool ∨ (s.request r).2.pool = s.pool.rent.2 ∨
      (∃ b, (s.request r).2.pool = s.pool.giveBack b) ∨
      ∃ n, (s.request r).2.pool = s.pool.prewarm n := by
  cases r with
  | rent | rentRaw _ => exact .inr (.inl rfl)
  | returnRaw _ => exact .inr (.inr (.inl ⟨_, rfl⟩))
  | prewarm n => exact .inr (.inr (.inr ⟨n, rfl⟩))
  | stats | describe => exact .inl rfl
  | release id =>
    simp only [Session.request]
    split
    · exact .inr (.inr (.inl ⟨_, rfl⟩))
    · exact .inl rfl
  | write _ _ _ | filled _ | peek _ _ | describeLoan _ =>
    simp only [Session.request]
    split <;> exact .inl rfl
  | setFilled id n =>
    simp only [Session.request]
    split
    · split <;> exact .inl rfl
    · exact .inl rfl

/-- A request keeps the pool's capacity and buffer size. -/
theorem Session.request_shape (s : Session) (r : Request) :
    (s.request r).2.pool.capacity = s.pool.capacity ∧
      (s.request r).2.pool.bufferSize = s.pool.bufferSize := by
  rcases s.request_pool r with h | h | ⟨b, h⟩ | ⟨n, h⟩ <;> simp [h]

/-- A rent answers with a buffer of the pool's size; no other request answers with one. -/
theorem Session.request_rentSize (s : Session) (r : Request) :
    ∀ n ∈ (s.request r).1.rentSize?, n = s.pool.bufferSize := by
  cases r with
  | rent | rentRaw _ => simp [Session.request, Reply.rentSize?]
  | returnRaw _ | prewarm _ | stats | describe => simp [Session.request, Reply.rentSize?]
  | write _ _ _ | filled _ | peek _ _ | release _ | describeLoan _ =>
    simp only [Session.request]
    split <;> simp [Reply.rentSize?]
  | setFilled id n =>
    simp only [Session.request]
    split
    · split <;> simp [Reply.rentSize?]
    · simp [Reply.rentSize?]

/-! ## Runs -/

@[simp] theorem Session.run_nil (s : Session) : s.run [] = ([], s) := rfl

@[simp] theorem Session.run_cons (s : Session) (r : Request) (rs : List Request) :
    s.run (r :: rs) =
      (((s.request r).1, (s.request r).2.pool.idle.length, (s.request r).2.pool.stats.outstanding) ::
          ((s.request r).2.run rs).1, ((s.request r).2.run rs).2) := rfl

/-- A run keeps the session's books, the counts moving by what its requests prewarm and what
they rent or return without a loan. -/
theorem Session.run_ledger {s : Session} {k a b : Nat} (h : s.Ledger k a b) (rs : List Request) :
    (s.run rs).2.Ledger (k + s.prewarmed rs) (a + (rs.map Request.rawRents).sum)
      (b + (rs.map Request.rawReturns).sum) := by
  induction rs generalizing s k a b with
  | nil => simpa [Session.prewarmed] using h
  | cons r rs ih =>
    have := ih (Session.request_ledger h r)
    simp only [Session.run_cons, Session.prewarmed, List.map_cons, List.sum_cons]
    simpa only [Nat.add_assoc] using this

/-- A run keeps the pool's capacity and buffer size, and every rent in it hands out a buffer
of that size. -/
theorem Session.run_sizes (s : Session) (rs : List Request) :
    (s.run rs).2.pool.capacity = s.pool.capacity ∧
      (s.run rs).2.pool.bufferSize = s.pool.bufferSize ∧
      ∀ x ∈ (s.run rs).1, ∀ n ∈ x.1.rentSize?, n = s.pool.bufferSize := by
  induction rs generalizing s with
  | nil => simp
  | cons r rs ih =>
    obtain ⟨hcap, hsize⟩ := s.request_shape r
    obtain ⟨hcap', hsize', hrents⟩ := ih (s.request r).2
    refine ⟨hcap'.trans hcap, hsize'.trans hsize, ?_⟩
    simp only [Session.run_cons, List.mem_cons, forall_eq_or_imp]
    exact ⟨s.request_rentSize r, fun x hx n hn => (hrents x hx n hn).trans hsize⟩

/-- Along every run of requests on a new buffer pool, every rent is served by an allocation or
a reuse, at most `cap` buffers stay idle, a return is discarded exactly when they are full, and
the rents not returned are the loans still held. -/
theorem pool_ledger (cap size : Nat) (rs : List Request) :
    let start : Session := { pool := BufferPool.new cap size }
    let run := start.run rs
    let p := run.2.pool
    p.stats.rents = p.stats.allocations + p.stats.reuses ∧
    p.idle.length = start.prewarmed rs + (p.stats.returns - p.stats.discards) - p.stats.reuses ∧
    p.idle.length ≤ cap ∧
    (∀ b, (p.giveBack b).stats.discards =
      p.stats.discards + if p.idle.length = cap then 1 else 0) ∧
    (∀ x ∈ run.1, ∀ n ∈ x.1.rentSize?, n = size) ∧
    p.stats.returns + run.2.loans.length + (rs.map Request.rawRents).sum =
      p.stats.rents + (rs.map Request.rawReturns).sum ∧
    ((∀ r ∈ rs, r.raw = false) → p.stats.outstanding = run.2.loans.length) := by
  dsimp only
  have hstart : Session.Ledger { pool := BufferPool.new cap size } 0 0 0 :=
    Session.new_ledger _ (BufferPool.new_books cap size) rfl rfl
  obtain ⟨hbooks, hloans, -, -⟩ := Session.run_ledger hstart rs
  obtain ⟨hcap, -, hrents⟩ := Session.run_sizes { pool := BufferPool.new cap size } rs
  change _ = cap at hcap
  simp only [Nat.zero_add] at hbooks hloans
  have hidle := hbooks.idle
  have hdisc := hbooks.discards
  refine ⟨hbooks.rents, by omega, hbooks.room.trans_eq hcap,
    fun b => by rw [hbooks.giveBack_discards b, hcap], hrents, hloans, fun hraw => ?_⟩
  -- with no raw requests, both raw counts are zero
  have hzero : ∀ r ∈ rs, r.rawRents = 0 ∧ r.rawReturns = 0 := by
    intro r hr
    have := hraw r hr
    cases r <;> simp_all [Request.raw, Request.rawRents, Request.rawReturns]
  rw [List.sum_eq_zero (by simpa using fun r hr => (hzero r hr).1),
    List.sum_eq_zero (by simpa using fun r hr => (hzero r hr).2)] at hloans
  simp only [Stats.outstanding]
  omega

/-! ## The counts fit in 64 bits

The pool keeps its counts in 64-bit words that wrap around. A request rents or gives back at most
one buffer, and every count is at most the rents and returns, so along fewer than 2^64 requests a
64-bit word holds every count exactly. -/

/-- A request rents or gives back at most one buffer. -/
theorem Session.request_calls (s : Session) (r : Request) :
    (s.request r).2.pool.stats.rents + (s.request r).2.pool.stats.returns ≤
      s.pool.stats.rents + s.pool.stats.returns + 1 := by
  rcases s.request_pool r with h | h | ⟨b, h⟩ | ⟨n, h⟩ <;> rw [h] <;> simp <;> omega

theorem Session.run_calls (s : Session) (rs : List Request) :
    (s.run rs).2.pool.stats.rents + (s.run rs).2.pool.stats.returns ≤
      s.pool.stats.rents + s.pool.stats.returns + rs.length := by
  induction rs generalizing s with
  | nil => simp
  | cons r rs ih =>
    have hr := s.request_calls r
    have hrs := ih (s.request r).2
    simp only [Session.run_cons, List.length_cons]
    omega

/-- Along fewer than 2^64 requests on a new pool, every count of the pool is below 2^64. -/
theorem Session.stats_fit_words (cap size : Nat) (rs : List Request) (hrs : rs.length < 2 ^ 64) :
    let p := (({ pool := BufferPool.new cap size } : Session).run rs).2.pool
    ∀ n ∈ [p.stats.rents, p.stats.allocations, p.stats.reuses, p.stats.returns,
      p.stats.discards], n < 2 ^ 64 := by
  have hstart : Session.Ledger { pool := BufferPool.new cap size } 0 0 0 :=
    Session.new_ledger _ (BufferPool.new_books cap size) rfl rfl
  have hbooks := (Session.run_ledger hstart rs).books
  have hcalls := Session.run_calls { pool := BufferPool.new cap size } rs
  dsimp only
  generalize (({ pool := BufferPool.new cap size } : Session).run rs).2.pool = p at hbooks hcalls ⊢
  have hrents := hbooks.rents
  have hdisc := hbooks.discards
  simp only [BufferPool.new] at hcalls
  intro n hn
  simp only [List.mem_cons, List.not_mem_nil, or_false] at hn
  rcases hn with rfl | rfl | rfl | rfl | rfl <;> omega

-- Five loans on a pool that keeps two idle buffers: releasing them all keeps two and discards
-- three, and nothing is left on loan.
example :
    let p := (({ pool := BufferPool.new 2 64 } : Session).run
      [.rent, .rent, .rent, .rent, .rent, .release 0, .release 1, .release 2, .release 3,
        .release 4]).2.pool
    (p.idle.length, p.stats.discards, p.stats.outstanding) = (2, 3, 0) := by
  decide

end NetNode.Pool
