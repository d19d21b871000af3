import NetNode.Queue.Bounded

/-!
# A session of callers on one queue

A session runs requests against one queue. A push or pop that has to wait is kept under a
number (0, 1, … in the order callers start waiting). After every request the waiting callers
look again, oldest first, in rounds, until a round finishes none of them; those that finish
are reported in the order they finished.
-/

namespace NetNode.Queue

/-- A request to the session. -/
inductive Request where
  | push (value : Int)
  | pop
  | tryPop
  | close
  | drain
  | isEmpty
  | cancel (id : Nat)
  | describe
  | pushOnce (value : Int)
  deriving Inhabited

/-- The immediate answer to a request. -/
inductive Reply where
  | pending (id : Nat)
  | pushed (r : PushResult Int)
  | popped (item : Option Int)
  | drained (items : List Int)
  | closed
  | isEmpty (b : Bool)
  | cancelled (found : Bool)
  | described (text : String)
  /-- A push looked at once: `none` when it would have to wait. -/
  | pushedOnce (r : Option (PushResult Int))
  deriving Inhabited

/-- A session: the queue and its waiting callers by number. -/
structure Session where
  queue : Bounded Int
  waiting : List (Nat × Waiter Int) := []
  nextId : Nat := 0
  deriving Inhabited

/-- A new session on an empty queue. -/
def Session.new (capacity : Nat) (mode : FullMode) : Session := ⟨.new capacity mode, [], 0⟩

/-- Keep a waiting caller under the next number. -/
def Session.keep (s : Session) (w : Waiter Int) : Reply × Session :=
  (.pending s.nextId, { s with waiting := s.waiting ++ [(s.nextId, w)], nextId := s.nextId + 1 })

/-- Answer one request. -/
def Session.request (s : Session) : Request → Reply × Session
  | .push v =>
    match s.queue.push v with
    | (.done r, q) => (.pushed r, { s with queue := q })
    | (.waiting w, q) => { s with queue := q }.keep w
  | .pop =>
    match s.queue.pop with
    | (.done r, q) => (.popped r, { s with queue := q })
    | (.waiting w, q) => { s with queue := q }.keep w
  | .tryPop => let (r, q) := s.queue.tryPop; (.popped r, { s with queue := q })
  | .close => (.closed, { s with queue := s.queue.close })
  | .drain => let (items, q) := s.queue.drain; (.drained items, { s with queue := q })
  | .isEmpty => (.isEmpty s.queue.items.isEmpty, s)
  | .cancel id =>
    match s.waiting.find? (·.1 = id) with
    | some (_, w) =>
      (.cancelled true, { s with queue := s.queue.abandon w, waiting := s.waiting.filter (·.1 ≠ id) })
    | none => (.cancelled false, s)
  | .describe => (.described s.queue.describe, s)
  | .pushOnce v =>
    match s.queue.push v with
    | (.done r, q) => (.pushedOnce (some r), { s with queue := q })
    | (.waiting w, q) => (.pushedOnce none, { s with queue := q.abandon w })

/-- One round: every waiting caller looks again, oldest first. -/
def Session.round (s : Session) : Session × List (Nat × Finished Int) :=
  let step (acc : Bounded Int × List (Nat × Waiter Int) × List (Nat × Finished Int))
      (entry : Nat × Waiter Int) :=
    let (q, kept, done) := acc
    match q.resume entry.2 with
    | (.inl r, q) => (q, kept, done ++ [(entry.1, r)])
    | (.inr w, q) => (q, kept ++ [(entry.1, w)], done)
  let (q, kept, done) := s.waiting.foldl step (s.queue, [], [])
  ({ s with queue := q, waiting := kept }, done)

/-- Rounds until one finishes nobody (at most `fuel` rounds). -/
def Session.settle (s : Session) : Nat → Session × List (Nat × Finished Int)
  | 0 => (s, [])
  | fuel + 1 =>
    let (s, done) := s.round
    if done.isEmpty then (s, [])
    else
      let (s, more) := s.settle fuel
      (s, done ++ more)

/-- What one request shows: the reply, the callers that finished after it, the length and
whether the queue is closed. -/
structure Step where
  reply : Reply
  finished : List (Nat × Finished Int)
  length : Nat
  closed : Bool
  deriving Inhabited

/-- Answer one request, then let the waiting callers settle. -/
def Session.step (s : Session) (r : Request) : Step × Session :=
  let (reply, s) := s.request r
  let (s, finished) := s.settle (s.waiting.length + 1)
  (⟨reply, finished, s.queue.items.length, s.queue.closed⟩, s)

/-- Run requests in order. -/
def Session.run (s : Session) : List Request → List Step × Session
  | [] => ([], s)
  | r :: rs =>
    let (st, s) := s.step r
    let (sts, s) := s.run rs
    (st :: sts, s)

end NetNode.Queue
