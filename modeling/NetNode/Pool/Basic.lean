/-!
# Buffer pools

A pool lends byte buffers of one size and keeps up to `capacity` idle buffers for reuse,
oldest returned first out. A rent takes an idle buffer (brought to the pool's size, its old
bytes kept) or makes a new zeroed one; a return keeps the buffer when there is room and frees
it otherwise. Counters record rents, allocations, reuses, returns and discards; the buffers on
loan are the rents not yet matched by a return.
-/

namespace NetNode.Pool

/-- A byte buffer: its size, and its leading bytes; every byte past them is zero. -/
structure Buffer where
  size : Nat
  front : List UInt8 := []
  deriving DecidableEq, Inhabited, Repr

/-- A zeroed buffer. -/
def Buffer.zeros (size : Nat) : Buffer := ⟨size, []⟩

/-- A buffer holding exactly the given bytes. -/
def Buffer.ofBytes (bytes : List UInt8) : Buffer := ⟨bytes.length, bytes⟩

/-- The first `n` bytes of a buffer (fewer when it is shorter). -/
def Buffer.take (b : Buffer) (n : Nat) : List UInt8 :=
  let n := min n b.size
  (b.front.take n) ++ List.replicate (n - b.front.length) 0

/-- The buffer brought to `size` bytes: cut, or filled up with zeros. -/
def Buffer.resize (b : Buffer) (size : Nat) : Buffer := ⟨size, b.front.take size⟩

/-- Write bytes from `offset`; bytes that would fall past the end are left out. -/
def Buffer.write (b : Buffer) (offset : Nat) (bytes : List UInt8) : Buffer :=
  let fit := bytes.take (b.size - offset)
  let stop := offset + fit.length
  let full := b.take (max stop b.front.length)
  ⟨b.size, full.take offset ++ fit ++ full.drop stop⟩

/-- Counters of a pool. -/
structure Stats where
  rents : Nat := 0
  allocations : Nat := 0
  reuses : Nat := 0
  returns : Nat := 0
  discards : Nat := 0
  deriving DecidableEq, Inhabited, Repr

/-- Buffers rented and not yet returned; never below zero. -/
def Stats.outstanding (s : Stats) : Nat := s.rents - s.returns

/-- The share of rents served by reuse, or zero before the first rent. -/
def Stats.efficiency (s : Stats) : Float :=
  if s.rents = 0 then 0.0 else s.reuses.toFloat / s.rents.toFloat

/-- A buffer pool. -/
structure BufferPool where
  capacity : Nat
  bufferSize : Nat
  idle : List Buffer := []
  stats : Stats := {}
  deriving Inhabited

/-- The usual pool: 1024 idle buffers of 65535 bytes. -/
def BufferPool.defaultCapacity : Nat := 1024

/-- The usual buffer size: the largest UDP payload. -/
def BufferPool.defaultBufferSize : Nat := 65535

/-- An empty pool. -/
def BufferPool.new (capacity bufferSize : Nat) : BufferPool := { capacity, bufferSize }

/-- The message when a pool is asked to keep no buffers at all. -/
def zeroCapacity : String := "capacity must be non-zero"

/-- The most buffers a pool can keep: its idle queue lays out one slot of 32 bytes, aligned to
8, per buffer, and no allocation may exceed the largest signed 64-bit size less the alignment. -/
def BufferPool.maxCapacity : Nat := (9223372036854775807 - 7) / 32

/-- The message when the slots of a pool's idle queue cannot be laid out. -/
def capacityOverflow : String := "capacity overflow"

/-- An empty pool with a capacity of at least one and at most `maxCapacity`. -/
def BufferPool.create (capacity bufferSize : Nat) : Except String BufferPool :=
  if capacity = 0 then .error zeroCapacity
  else if BufferPool.maxCapacity < capacity then .error capacityOverflow
  else .ok (.new capacity bufferSize)

/-- Add zeroed idle buffers, up to `count`, stopping when the pool is full. -/
def BufferPool.prewarm (p : BufferPool) (count : Nat) : BufferPool :=
  let room := p.capacity - p.idle.length
  { p with idle := p.idle ++ List.replicate (min count room) (.zeros p.bufferSize) }

/-- A pool built from settings: a capacity of zero is taken as one, then `prewarm` buffers
are added. -/
def BufferPool.build (capacity bufferSize prewarm : Nat) : Except String BufferPool :=
  (BufferPool.create (max capacity 1) bufferSize).map (·.prewarm prewarm)

/-- Rent a buffer of the pool's size. -/
def BufferPool.rent (p : BufferPool) : Buffer × BufferPool :=
  let s := { p.stats with rents := p.stats.rents + 1 }
  match p.idle with
  | b :: rest => (b.resize p.bufferSize, { p with idle := rest, stats := { s with reuses := s.reuses + 1 } })
  | [] => (.zeros p.bufferSize, { p with stats := { s with allocations := s.allocations + 1 } })

/-- Give a buffer back: kept when there is room, freed otherwise. -/
def BufferPool.giveBack (p : BufferPool) (b : Buffer) : BufferPool :=
  let s := { p.stats with returns := p.stats.returns + 1 }
  if p.idle.length < p.capacity then { p with idle := p.idle ++ [b], stats := s }
  else { p with stats := { s with discards := s.discards + 1 } }

/-- The one-line description of the counters. -/
def Stats.describe (s : Stats) : String :=
  s!"BufferPoolStats \x7b rents: {s.rents}, allocations: {s.allocations}, reuses: {s.reuses}, returns: {s.returns}, discards: {s.discards} \x7d"

/-- The one-line description of a pool. -/
def BufferPool.describe (p : BufferPool) : String :=
  s!"ArrayBufferPool \x7b capacity: {p.capacity}, available: {p.idle.length}, buffer_size: {p.bufferSize}, stats: {p.stats.describe} \x7d"

/-- A buffer on loan, with the number of bytes filled by the last receive. -/
structure Loan where
  buffer : Buffer
  filled : Nat := 0
  deriving DecidableEq, Inhabited, Repr

/-- The message when a fill length exceeds the buffer. -/
def fillTooLong : String := "length exceeds buffer capacity"

/-- Record how many bytes are filled; refused past the buffer's size. -/
def Loan.setFilled (l : Loan) (n : Nat) : Except String Loan :=
  if n ≤ l.buffer.size then .ok { l with filled := n } else .error fillTooLong

/-- The filled bytes. -/
def Loan.bytes (l : Loan) : List UInt8 := l.buffer.take l.filled

/-- The one-line description of a loan. -/
def Loan.describe (l : Loan) : String :=
  s!"PooledBuffer \x7b capacity: {l.buffer.size}, filled: {l.filled}, .. \x7d"

end NetNode.Pool
