import NetNode.Proofs.Node.Isolation
import NetNode.Node.Session

/-!
# A session's requests are one interleaving

A session answers its owner's requests one after another: it waits for the node's tasks, lets
time pass, and makes the call's own moves. Every request therefore leaves the node where some
sequence of moves takes it (`Session.reaches_handle`), and the node after any list of requests
is the new node after some sequence of moves (`Session.after_exec`). So every statement proved
along every interleaving of `Machine.exec` holds of the node at every point of every session.

The one call that is not a move is dropping the node while a stop holds its only run; it then
changes nothing, since a stop in progress leaves the running slot empty (`Machine.Separate`).
-/

namespace NetNode.Node

open NetNode.Address

/-- The session after answering requests in turn. -/
def Session.after (s : Session) (reqs : List Request) : Session :=
  reqs.foldl (fun s req => (s.handle req).1) s

@[simp] theorem Session.after_nil (s : Session) : s.after [] = s := rfl

@[simp] theorem Session.after_cons (s : Session) (req : Request) (reqs : List Request) :
    s.after (req :: reqs) = (s.handle req).1.after reqs := rfl

/-- A start takes the lock and, when it binds, launches its run as a move of its own. -/
theorem Session.reaches_startAgainst {s s' : Session} {taken : List SocketAddress}
    {linked : Bool} {r : Except NodeError Unit} (h : s.startAgainst taken linked = .ok (s', r)) :
    s.machine.Reaches s'.machine := by
  have hl := Machine.reaches_awaitLock s.machine
  unfold Session.startAgainst at h
  cases hcan : s.machine.awaitLock.canStart with
  | false =>
    simp only [hcan, Bool.not_false, if_true, Except.ok.injEq, Prod.mk.injEq] at h
    obtain ⟨rfl, -⟩ := h
    exact hl
  | true =>
    cases hb : s.bind taken with
    | error e =>
      simp only [hcan, hb, Bool.not_true, Bool.false_eq_true, if_false, Except.ok.injEq,
        Prod.mk.injEq] at h
      obtain ⟨rfl, -⟩ := h
      exact hl
    | ok b =>
      obtain ⟨a, host⟩ := b
      simp only [hcan, hb, Bool.not_true, Bool.false_eq_true, if_false] at h
      cases hp : s.flavor.startPanic? with
      | some message => simp [hp] at h
      | none =>
        simp only [hp, Except.ok.injEq, Prod.mk.injEq] at h
        obtain ⟨rfl, -⟩ := h
        have hs : s.machine.awaitLock.act (.start a (s.machine.awaitLock.world.plan.parentOf linked)) =
            some (s.machine.awaitLock.launch a (s.machine.awaitLock.world.plan.parentOf linked)) := by
          simp [Machine.act, hcan, Machine.awaitLock_stopping]
        exact hl.trans (.of_act hs)

/-- A start that does not panic is a start against the addresses bound now. -/
theorem Session.reaches_start {s s' : Session} {linked : Bool} {r : Except NodeError Unit}
    (h : s.start linked = .ok (s', r)) : s.machine.Reaches s'.machine :=
  Session.reaches_startAgainst h

theorem Session.reaches_send (s : Session) (await : Bool) :
    s.machine.Reaches (s.send await).1.machine := by
  unfold Session.send
  split
  · exact .refl _
  · split
    · exact Machine.reaches_awaitGoal _ _
    · exact .refl _

/-- Every request leaves the node where some sequence of moves takes it, provided a stop in
progress holds the only run. -/
theorem Session.reaches_handle (s : Session) (req : Request)
    (h : s.machine.stopping.isSome → s.machine.slot = none) :
    s.machine.Reaches (s.handle req).1.machine := by
  by_cases hg : s.gone = true
  · simp only [Session.handle, hg, if_true]
    exact .refl _
  · cases req with
    | start =>
      cases hs : s.start false with
      | error message =>
        simp only [Session.handle, hg, hs, Bool.false_eq_true, if_false]
        exact .refl _
      | ok p =>
        simp only [Session.handle, hg, hs, Bool.false_eq_true, if_false]
        exact Session.reaches_start hs
    | startWithParent =>
      cases hs : s.start true with
      | error message =>
        simp only [Session.handle, hg, hs, Bool.false_eq_true, if_false]
        exact .refl _
      | ok p =>
        simp only [Session.handle, hg, hs, Bool.false_eq_true, if_false]
        exact Session.reaches_start hs
    | cancelParent =>
      simp only [Session.handle, hg, Bool.false_eq_true, if_false]
      exact Machine.reaches_cancelParent _ _
    | stop =>
      simp only [Session.handle, hg, Bool.false_eq_true, if_false]
      exact Machine.reaches_stop _
    | dispose =>
      simp only [Session.handle, hg, Bool.false_eq_true, if_false]
      exact Machine.reaches_dispose _
    | drop =>
      simp only [Session.handle, hg, Bool.false_eq_true, if_false]
      exact Machine.reaches_orphan h
    | wait g =>
      simp only [Session.handle, hg, Bool.false_eq_true, if_false]
      exact Machine.reaches_awaitGoal _ _
    | send payload reply await =>
      simp only [Session.handle, hg, Bool.false_eq_true, if_false]
      exact Session.reaches_send s await
    | openIdle =>
      simp only [Session.handle, hg, Bool.false_eq_true, if_false]
      split <;> exact .refl _
    | startConflict =>
      simp only [Session.handle, hg, Bool.false_eq_true, if_false]
      split <;> exact .refl _
    | state | stats | exceptions | exceptionsSorted | counters | describe =>
      simp only [Session.handle, hg, Bool.false_eq_true, if_false]
      exact .refl _

/-- Along every list of requests, the node of a new session is the new node after some sequence
of moves. -/
theorem Session.after_exec (f : Flavor) (sink : Sink) (reqs : List Request) :
    ∃ as, ((Session.new f sink).after reqs).machine = (Machine.new f.plan sink f.pool).exec as := by
  -- the invariant carried along the requests: the node is reached from the new one
  suffices h : ∀ s : Session, (Machine.new f.plan sink f.pool).Reaches s.machine →
      (Machine.new f.plan sink f.pool).Reaches (s.after reqs).machine from
    h _ (.refl _)
  induction reqs with
  | nil => exact fun s hs => hs
  | cons req reqs ih =>
    intro s hs
    obtain ⟨as, has⟩ := hs
    have hsep : s.machine.Separate := has ▸
      Machine.exec_separate (Machine.new_separate f.plan sink f.pool) as
    exact ih _ (Machine.Reaches.trans ⟨as, has⟩ (s.reaches_handle req hsep.single))

end NetNode.Node
