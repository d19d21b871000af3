import NetNode.Pool.Basic

/-!
# A session of loans on one pool

A session runs requests against one pool and keeps the buffers it rents as loans numbered
0, 1, … in order. A loan stays usable until it is released, which returns its buffer.
-/

namespace NetNode.Pool

/-- A request to the session. -/
inductive Request where
  | rent
  | write (id offset : Nat) (bytes : List UInt8)
  | setFilled (id len : Nat)
  | filled (id : Nat)
  | peek (id len : Nat)
  | release (id : Nat)
  /-- Rent a buffer and drop it without returning it; show its first `peek` bytes. -/
  | rentRaw (peek : Nat)
  /-- Return a buffer that was never rented through the session. -/
  | returnRaw (bytes : List UInt8)
  | prewarm (count : Nat)
  | stats
  | describe
  | describeLoan (id : Nat)
  deriving Inhabited

/-- The answer to a request. -/
inductive Reply where
  | rented (id : Nat) (loan : Loan)
  | done
  | filledLength (loan : Loan)
  | bytes (data : List UInt8)
  | peeked (data : List UInt8) (capacity : Nat)
  | rawRented (len : Nat) (data : List UInt8)
  | stats (s : Stats)
  | described (text : String)
  | failed (message : String)
  | noLoan (id : Nat)
  deriving Inhabited

/-- A session: the pool and the loans by number. -/
structure Session where
  pool : BufferPool
  loans : List (Nat × Loan) := []
  nextId : Nat := 0
  deriving Inhabited

/-- The loan with a number, if it is still held. -/
def Session.loan? (s : Session) (id : Nat) : Option Loan := s.loans.lookup id

/-- Replace a held loan. -/
def Session.update (s : Session) (id : Nat) (l : Loan) : Session :=
  { s with loans := s.loans.map fun e => if e.1 = id then (id, l) else e }

/-- Answer one request. -/
def Session.request (s : Session) : Request → Reply × Session
  | .rent =>
    let (b, p) := s.pool.rent
    let l : Loan := ⟨b, 0⟩
    (.rented s.nextId l, { s with pool := p, loans := s.loans ++ [(s.nextId, l)], nextId := s.nextId + 1 })
  | .write id offset data =>
    match s.loan? id with
    | some l => (.done, s.update id { l with buffer := l.buffer.write offset data })
    | none => (.noLoan id, s)
  | .setFilled id n =>
    match s.loan? id with
    | some l =>
      match l.setFilled n with
      | .ok l => (.filledLength l, s.update id l)
      | .error m => (.failed m, s)
    | none => (.noLoan id, s)
  | .filled id =>
    match s.loan? id with
    | some l => (.bytes l.bytes, s)
    | none => (.noLoan id, s)
  | .peek id n =>
    match s.loan? id with
    | some l => (.peeked (l.buffer.take n) l.buffer.size, s)
    | none => (.noLoan id, s)
  | .release id =>
    match s.loan? id with
    | some l => (.done, { s with pool := s.pool.giveBack l.buffer, loans := s.loans.filter (·.1 ≠ id) })
    | none => (.noLoan id, s)
  | .rentRaw n =>
    let (b, p) := s.pool.rent
    (.rawRented b.size (b.take n), { s with pool := p })
  | .returnRaw data => (.done, { s with pool := s.pool.giveBack (.ofBytes data) })
  | .prewarm n => (.done, { s with pool := s.pool.prewarm n })
  | .stats => (.stats s.pool.stats, s)
  | .describe => (.described s.pool.describe, s)
  | .describeLoan id =>
    match s.loan? id with
    | some l => (.described l.describe, s)
    | none => (.noLoan id, s)

/-- Run requests in order; each answer comes with the idle count and the buffers on loan
after it. -/
def Session.run (s : Session) : List Request → List (Reply × Nat × Nat) × Session
  | [] => ([], s)
  | r :: rs =>
    let (reply, s) := s.request r
    let shown := (reply, s.pool.idle.length, s.pool.stats.outstanding)
    let (rest, s) := s.run rs
    (shown :: rest, s)

/-- Return every loan still held. -/
def Session.releaseAll (s : Session) : Session :=
  { s with pool := s.loans.foldl (fun p e => p.giveBack e.2.buffer) s.pool, loans := [] }

end NetNode.Pool
