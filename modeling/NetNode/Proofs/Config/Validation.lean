import Mathlib
import NetNode.Proofs.Config.Checks
import NetNode.Node.Session

/-!
# What validation accepts, and what a node is then built from

`Config.Valid` says without running anything which configurations pass the checks: some node
is configured, every count of a node is at least 1, the UDP concurrency is at most what a
semaphore holds and the receive size at most the largest datagram, and the log format is
`json` or `text`. `Config.failures` lists every check that fails, in the order the checks are
made: that some node is configured, then each count's limit, TCP before UDP, then the log
format.

`validation_exact`: validation accepts exactly the valid configurations and otherwise rejects
with the first failure, always a validation error. A transport built from options that pass is
given what the constructors of its run need (`Transport.Checked`): a queue capacity of at least
1, which is the one configured, a permit count for the UDP dispatch semaphore between 1 and the
most a semaphore holds, and, when the UDP transport builds its own pool, a pool keeping the
configured number of buffers, at least one. A TCP socket listens with its backlog saturated to
a 32-bit signed integer.

Validation puts no upper bound on the queue, pool and worker counts, so what it accepts is not
all a start needs: a start that binds panics exactly when the queue's slots or the workers'
join handles cannot be laid out (`Transport.Fits`).
-/

namespace NetNode

open NetNode.Pool NetNode.Node NetNode.Address

/-! ## The checks, said without running them -/

/-- The counts of a TCP node that validation accepts: each is at least 1. -/
structure TcpConfig.Valid (c : TcpConfig) : Prop where
  workers : 0 < c.maxConcurrentConnections
  queue : 0 < c.queueCapacity
  backlog : 0 < c.backlog

/-- The counts of a UDP node that validation accepts: each is at least 1, the concurrency is at
most what a semaphore holds and the receive size at most the largest datagram. -/
structure UdpConfig.Valid (c : UdpConfig) : Prop where
  workers : 0 < c.workers
  concurrency : 0 < c.maxConcurrency ∧ c.maxConcurrency ≤ maxPermits
  queue : 0 < c.queueCapacity
  receive : 0 < c.receiveBufferSize ∧ c.receiveBufferSize ≤ maxDatagramSize
  pool : 0 < c.bufferPoolCapacity

/-- A configuration that validation accepts: some node is configured, each node's counts are
valid, and the log format is one of the two known. -/
structure Config.Valid (c : Config) : Prop where
  someNode : c.tcp.isSome ∨ c.udp.isSome
  tcp : ∀ t ∈ c.tcp, t.Valid
  udp : ∀ u ∈ c.udp, u.Valid
  format : c.log.format = "json" ∨ c.log.format = "text"

/-- The limits on a configuration's counts, in the order they are checked: the TCP node's,
then the UDP node's. -/
def Config.limits (c : Config) : List Limit :=
  (c.tcp.map TcpConfig.limits).getD [] ++ (c.udp.map UdpConfig.limits).getD []

/-- Every check of a configuration that fails, in the order they are made: some node is
configured, each count is within its limit, the log format is known. -/
def Config.failures (c : Config) : List ConfigError :=
  (if c.tcp.isNone && c.udp.isNone then [noNodeConfigured] else []) ++
    (c.limits.filter fun l => !l.holds).map Limit.refusal ++ failuresOf c.log.validate

/-! ## Counts within their limits -/

theorem Limit.holds_iff (l : Limit) :
    l.holds ↔ 0 < l.value ∧ ∀ most ∈ l.most, l.value ≤ most := by
  rcases l with ⟨option, _ | most, value⟩ <;> simp [Limit.holds]

theorem Limit.refusal_validation (l : Limit) : ∃ m, l.refusal = .validation m := by
  rcases l with ⟨option, _ | most, value⟩ <;> exact ⟨_, rfl⟩

/-- Counts checked in order fail with the first one outside its limit. -/
theorem checkLimits_eq (ls : List Limit) :
    checkLimits ls = firstFailure ((ls.filter fun l => !l.holds).map Limit.refusal) (.ok ()) := by
  induction ls with
  | nil => rfl
  | cons l ls ih =>
    rw [checkLimits, ih]
    -- a count within its limit is passed over; the first outside it is the failure
    cases h : l.holds
    · simp [Limit.check, h, error_bind]
    · simp [Limit.check, h, ok_bind]

theorem checkLimits_eq_ok (ls : List Limit) : checkLimits ls = .ok () ↔ ∀ l ∈ ls, l.holds := by
  simp [checkLimits_eq, firstFailure_eq_ok, List.filter_eq_nil_iff]

/-! ## Each part of a configuration -/

theorem TcpConfig.valid_iff (c : TcpConfig) :
    c.Valid ↔ 0 < c.maxConcurrentConnections ∧ 0 < c.queueCapacity ∧ 0 < c.backlog :=
  ⟨fun h => ⟨h.workers, h.queue, h.backlog⟩, fun ⟨hw, hq, hb⟩ => ⟨hw, hq, hb⟩⟩

theorem UdpConfig.valid_iff (c : UdpConfig) :
    c.Valid ↔ 0 < c.workers ∧ (0 < c.maxConcurrency ∧ c.maxConcurrency ≤ maxPermits) ∧
      0 < c.queueCapacity ∧ (0 < c.receiveBufferSize ∧ c.receiveBufferSize ≤ maxDatagramSize) ∧
      0 < c.bufferPoolCapacity :=
  ⟨fun h => ⟨h.workers, h.concurrency, h.queue, h.receive, h.pool⟩,
    fun ⟨hw, hc, hq, hr, hp⟩ => ⟨hw, hc, hq, hr, hp⟩⟩

theorem TcpConfig.limits_hold (c : TcpConfig) : (∀ l ∈ c.limits, l.holds) ↔ c.Valid := by
  simp [TcpConfig.limits, Limit.holds_iff, TcpConfig.valid_iff]

theorem UdpConfig.limits_hold (c : UdpConfig) : (∀ l ∈ c.limits, l.holds) ↔ c.Valid := by
  simp [UdpConfig.limits, Limit.holds_iff, UdpConfig.valid_iff]

theorem TcpConfig.validate_eq_ok (c : TcpConfig) : c.validate = .ok () ↔ c.Valid := by
  rw [TcpConfig.validate, checkLimits_eq_ok, TcpConfig.limits_hold]

theorem UdpConfig.validate_eq_ok (c : UdpConfig) : c.validate = .ok () ↔ c.Valid := by
  rw [UdpConfig.validate, checkLimits_eq_ok, UdpConfig.limits_hold]

theorem LogConfig.validate_eq_ok (c : LogConfig) :
    c.validate = .ok () ↔ c.format = "json" ∨ c.format = "text" := by
  unfold LogConfig.validate
  split <;> simp_all

theorem LogConfig.failuresOf_validation (c : LogConfig) :
    ∀ e ∈ failuresOf c.validate, ∃ m, e = .validation m := by
  unfold LogConfig.validate
  split <;> simp [failuresOf]

theorem Config.limits_hold (c : Config) :
    (∀ l ∈ c.limits, l.holds) ↔ (∀ t ∈ c.tcp, t.Valid) ∧ ∀ u ∈ c.udp, u.Valid := by
  rcases c with ⟨_ | t, _ | u, log⟩ <;>
    simp [Config.limits, ← TcpConfig.limits_hold, ← UdpConfig.limits_hold, or_imp, forall_and]

/-! ## The whole configuration -/

/-- Validation reports the first failing check, in the order node presence, the counts, the
log format. -/
theorem Config.validate_eq (c : Config) : c.validate = firstFailure c.failures (.ok ()) := by
  -- each node present or not: its counts are checked in order, or contribute nothing
  rcases c with ⟨_ | t, _ | u, log⟩ <;>
    simp only [Config.validate, Config.failures, Config.limits, TcpConfig.validate,
      UdpConfig.validate, checkLimits_eq, Option.isNone_none, Option.isNone_some, Bool.and_self,
      Bool.and_false, Bool.false_and, Bool.false_eq_true, ↓reduceIte, Option.map_none,
      Option.map_some, Option.getD_none, Option.getD_some, List.nil_append, List.append_nil,
      List.filter_append, List.map_append, firstFailure_append, firstFailure_bind, ok_bind,
      firstFailure_failuresOf]
  rfl

theorem Config.valid_iff (c : Config) :
    c.Valid ↔ (c.tcp.isSome ∨ c.udp.isSome) ∧ ((∀ t ∈ c.tcp, t.Valid) ∧ ∀ u ∈ c.udp, u.Valid) ∧
      (c.log.format = "json" ∨ c.log.format = "text") :=
  ⟨fun h => ⟨h.someNode, ⟨h.tcp, h.udp⟩, h.format⟩, fun ⟨hn, ⟨ht, hu⟩, hf⟩ => ⟨hn, ht, hu, hf⟩⟩

theorem Config.failures_eq_nil (c : Config) : c.failures = [] ↔ c.Valid := by
  rw [Config.valid_iff, ← Config.limits_hold, ← LogConfig.validate_eq_ok, ← failuresOf_eq_nil]
  -- the node check fails only when neither node is configured
  rcases c with ⟨_ | t, _ | u, log⟩ <;> simp [Config.failures, List.filter_eq_nil_iff]

theorem Config.failures_validation (c : Config) : ∀ e ∈ c.failures, ∃ m, e = .validation m := by
  intro e he
  simp only [Config.failures, List.mem_append, List.mem_map] at he
  rcases he with (hnode | ⟨l, -, rfl⟩) | hlog
  · split at hnode
    · exact ⟨_, List.mem_singleton.1 hnode⟩
    · simp at hnode
  · exact l.refusal_validation
  · exact LogConfig.failuresOf_validation c.log e hlog

/-! ## What the transports are built from -/

/-- What the checks guarantee the constructors of a transport's run: a queue of its configured
capacity, which is at least 1, and, when units run as tasks of their own, a semaphore of between
1 and the most permits a semaphore holds. -/
structure Transport.Checked (tr : Transport) : Prop where
  capacity : (Flavor.socket tr).plan.capacity = tr.queueCapacity
  queue : 0 < tr.queueCapacity
  permits : ∀ n ∈ (Flavor.socket tr).plan.dispatch, 0 < n ∧ n ≤ maxPermits

theorem Transport.checked_tcp {c : TcpConfig} (h : c.Valid) : (Transport.tcp c).Checked where
  capacity := Nat.max_eq_left h.queue
  queue := h.queue
  permits := by simp [Flavor.plan, Transport.dispatchLimit]

theorem Transport.checked_udp {c : UdpConfig} (h : c.Valid) (p : BufferPool) :
    (Transport.udp c p).Checked where
  capacity := Nat.max_eq_left h.queue
  queue := h.queue
  permits := by simpa [Flavor.plan, Transport.dispatchLimit] using h.concurrency

theorem Transport.ofTcp_eq_ok (c : TcpConfig) (t : Transport) :
    Transport.ofTcp c = .ok t ↔ c.Valid ∧ t = .tcp c := by
  rw [← TcpConfig.validate_eq_ok]
  unfold Transport.ofTcp
  cases c.validate <;> simp [Bind.bind, Except.bind, pure, Except.pure, eq_comm]

/-- A fresh pool is built exactly when its capacity can be laid out, and is then empty. -/
theorem BufferPool.build_eq_ok {capacity : Nat} (bufferSize : Nat) (h : 0 < capacity) (p : BufferPool) :
    BufferPool.build capacity bufferSize 0 = .ok p ↔
      capacity ≤ BufferPool.maxCapacity ∧ p = BufferPool.new capacity bufferSize := by
  have hmax : max capacity 1 = capacity := Nat.max_eq_left h
  unfold BufferPool.build BufferPool.create
  rw [hmax]
  by_cases hfit : capacity ≤ BufferPool.maxCapacity
  · have hzero : capacity ≠ 0 := Nat.pos_iff_ne_zero.1 h
    simp [hzero, Nat.not_lt.2 hfit, hfit, Except.map, BufferPool.prewarm, BufferPool.new, eq_comm]
  · simp [Nat.lt_of_not_le hfit, hfit, Except.map, Nat.pos_iff_ne_zero.1 h]

theorem BufferPool.build_overflow {capacity bufferSize : Nat}
    (h : BufferPool.maxCapacity < capacity) :
    BufferPool.build capacity bufferSize 0 = .error capacityOverflow := by
  have hpos : 0 < capacity := Nat.lt_of_le_of_lt (Nat.zero_le _) h
  simp [BufferPool.build, BufferPool.create, Nat.max_eq_left hpos, h,
    Nat.pos_iff_ne_zero.1 hpos, Except.map]

/-- Building a UDP transport checks its options first, then uses the given pool or builds one. -/
theorem Transport.ofUdp_of_validate {c : UdpConfig} (hv : c.validate = .ok ())
    (pool : Option BufferPool) :
    Transport.ofUdp c pool =
      match pool with
      | none =>
        match BufferPool.build c.bufferPoolCapacity c.receiveBufferSize 0 with
        | .ok p => .ok (.udp c p)
        | .error m => .error (.panic m)
      | some p =>
        if p.bufferSize < c.receiveBufferSize then
          .error (.config (poolTooSmall p.bufferSize c.receiveBufferSize))
        else .ok (.udp c p) := by
  unfold Transport.ofUdp
  rw [hv]
  rcases pool with _ | p
  · cases BufferPool.build c.bufferPoolCapacity c.receiveBufferSize 0 <;> rfl
  · by_cases hsize : p.bufferSize < c.receiveBufferSize <;> simp [hsize] <;> rfl

theorem Transport.ofUdp_valid {c : UdpConfig} {pool : Option BufferPool} {tr : Transport}
    (h : Transport.ofUdp c pool = .ok tr) : c.Valid ∧ ∃ p, tr = .udp c p := by
  cases hv : c.validate with
  | error e =>
    unfold Transport.ofUdp at h
    simp [hv, Except.mapError, Bind.bind, Except.bind] at h
  | ok u =>
    refine ⟨(UdpConfig.validate_eq_ok c).1 hv, ?_⟩
    rw [Transport.ofUdp_of_validate hv] at h
    -- every branch that succeeds puts the options beside some pool
    rcases pool with _ | p
    · cases hb : BufferPool.build c.bufferPoolCapacity c.receiveBufferSize 0 with
      | error m => simp [hb] at h
      | ok q => exact ⟨q, by simpa [hb] using h.symm⟩
    · by_cases hsize : p.bufferSize < c.receiveBufferSize
      · simp [hsize] at h
      · exact ⟨p, by simpa [hsize] using h.symm⟩

/-- A UDP transport with a pool of its own is built exactly from valid options whose pool
capacity can be laid out, and then holds an empty pool of that capacity. -/
theorem Transport.ofUdp_none_eq_ok (c : UdpConfig) (tr : Transport) :
    Transport.ofUdp c none = .ok tr ↔
      c.Valid ∧ c.bufferPoolCapacity ≤ BufferPool.maxCapacity ∧
        tr = .udp c (BufferPool.new c.bufferPoolCapacity c.receiveBufferSize) := by
  by_cases hvalid : c.Valid
  · have hv := (UdpConfig.validate_eq_ok c).2 hvalid
    rw [Transport.ofUdp_of_validate hv]
    have hbuild := BufferPool.build_eq_ok c.receiveBufferSize hvalid.pool
    cases hb : BufferPool.build c.bufferPoolCapacity c.receiveBufferSize 0 with
    | error m =>
      have hbig : ¬ c.bufferPoolCapacity ≤ BufferPool.maxCapacity := fun hfit =>
        absurd ((hbuild _).2 ⟨hfit, rfl⟩) (by rw [hb]; simp)
      simp [hvalid, hbig]
    | ok p =>
      obtain ⟨hfit, rfl⟩ := (hbuild p).1 hb
      simp [hvalid, hfit, eq_comm]
  · constructor
    · exact fun h => absurd (Transport.ofUdp_valid h).1 hvalid
    · exact fun h => absurd h.1 hvalid

theorem Transport.ofUdp_overflow {c : UdpConfig} (hv : c.validate = .ok ())
    (h : BufferPool.maxCapacity < c.bufferPoolCapacity) :
    Transport.ofUdp c none = .error (.panic capacityOverflow) := by
  rw [Transport.ofUdp_of_validate hv, BufferPool.build_overflow h]

/-! ## Binding and starting -/

/-- Binding a socket leaves the host's listen calls as they were. -/
theorem Net.Host.bind_listens {h h' : Net.Host} {proto : Net.Proto} {taken : List SocketAddress}
    {addr a : SocketAddress} {fd : Nat} (hb : h.bind proto taken addr = .ok (a, fd, h')) :
    h'.listens = h.listens := by
  unfold Net.Host.bind at hb
  split at hb
  · cases hb
  · split at hb
    · cases hb
      rfl
    · split at hb
      · cases hb
      · cases hb
        rfl

/-- Binding a TCP transport makes its socket listen with the configured backlog, saturated. -/
theorem Transport.bind_tcp_listens {c : TcpConfig} {h h' : Net.Host} {taken : List SocketAddress}
    {a : SocketAddress} {fd : Nat} (hb : (Transport.tcp c).bind h taken = .ok (a, fd, h')) :
    h'.listens = h.listens ++ [(fd, Net.listenBacklog c.backlog)] := by
  unfold Transport.bind at hb
  cases hh : h.bind .tcp taken c.address with
  | error e => simp [Transport.proto, Transport.address, hh, Except.map] at hb
  | ok x =>
    obtain ⟨a', fd', h''⟩ := x
    simp only [Transport.proto, Transport.address, hh, Except.map, Except.ok.injEq,
      Prod.mk.injEq] at hb
    obtain ⟨-, rfl, rfl⟩ := hb
    simp [Net.Host.listen, Net.Host.bind_listens hh]

/-- The backlog a listening socket hands the kernel lies between 1 and the largest 32-bit signed
integer, and is the configured one exactly when that fits. -/
theorem Net.listenBacklog_bounds {b : Nat} (h : 0 < b) :
    0 < Net.listenBacklog b ∧ Net.listenBacklog b ≤ Net.i32Max ∧
      (Net.listenBacklog b = b ↔ b ≤ Net.i32Max) := by
  unfold Net.listenBacklog Net.i32Max
  omega

/-- The run of a transport can be laid out: the queue's slots and the workers' join handles each
fit in one allocation. -/
def Transport.Fits (tr : Transport) : Prop :=
  tr.queueCapacity ≤ layoutMax tr.unitBytes 8 ∧ tr.workerCount ≤ layoutMax 8 8

/-- Building the run of a transport that passed the checks panics exactly when the run cannot
be laid out, and then with a capacity overflow. -/
theorem Flavor.startPanic?_socket {tr : Transport} (hc : tr.Checked) :
    ((Flavor.socket tr).startPanic? = none ↔ tr.Fits) ∧
      ∀ m, (Flavor.socket tr).startPanic? = some m → m = capacityOverflow := by
  -- the checks rule out the semaphore's panic, so only the two layouts are left
  have hpermits : (Flavor.socket tr).plan.dispatch.any (maxPermits < ·) = false := by
    cases hd : (Flavor.socket tr).plan.dispatch with
    | none => rfl
    | some n =>
      have := (hc.permits n (by simp [hd])).2
      simp only [Option.any_some, decide_eq_false_iff_not, Nat.not_lt]
      exact this
  have hworkers : (Flavor.socket tr).plan.workers = tr.workerCount := rfl
  have hbytes : (Flavor.socket tr).unitBytes = tr.unitBytes := rfl
  simp only [Flavor.startPanic?, hpermits, hc.capacity, hworkers, hbytes, Transport.Fits]
  by_cases hq : layoutMax tr.unitBytes 8 < tr.queueCapacity
  · simp [hq]
  · by_cases hw : layoutMax 8 8 < tr.workerCount
    · simp [hq, hw]
    · simp [hq, hw, Nat.not_lt.mp hq, Nat.not_lt.mp hw]

/-- A start of a node on a transport that passed the checks panics exactly when the node can
start, its socket binds, and the run cannot be laid out; the panic is a capacity overflow. -/
theorem Node.Session.startAgainst_eq_error {s : Node.Session} {tr : Transport}
    (hf : s.flavor = .socket tr) (hc : tr.Checked) (taken : List SocketAddress) (linked : Bool)
    (m : String) :
    s.startAgainst taken linked = .error m ↔
      m = capacityOverflow ∧ s.machine.awaitLock.canStart = true ∧
        (∃ b, s.bind taken = .ok b) ∧ ¬ tr.Fits := by
  obtain ⟨hnone, hsome⟩ := Flavor.startPanic?_socket hc
  unfold Node.Session.startAgainst
  cases hcan : s.machine.awaitLock.canStart with
  | false => simp [hcan]
  | true =>
    cases hb : s.bind taken with
    | error e => simp [hcan]
    | ok b =>
      obtain ⟨a, h⟩ := b
      simp only [hcan, hf, Bool.not_true, Bool.false_eq_true, if_false, true_and]
      cases hp : (Flavor.socket tr).startPanic? with
      | none => simp [hnone.mp hp]
      | some m' =>
        -- the only panic left is the layout's
        have hm' := hsome m' hp
        have hnf : ¬ tr.Fits := fun hfits => by simp [hnone.mpr hfits] at hp
        subst hm'
        simp only [Except.error.injEq, hnf, not_false_eq_true, and_true]
        exact ⟨fun h => ⟨h.symm, _, rfl⟩, fun h => h.1.symm⟩

/-- Validation accepts exactly the valid configurations and otherwise reports its first failing
check; what it accepts builds transports that listen with a saturated backlog and whose start
panics exactly when the run cannot be laid out. -/
theorem validation_exact (c : Config) :
    (c.validate = .ok () ↔ c.Valid) ∧
    (∀ e, c.validate = .error e ↔ c.failures.head? = some e) ∧
    (∀ e ∈ c.failures, ∃ m, e = .validation m) ∧
    (∀ t ∈ c.tcp, ∀ tr, Transport.ofTcp t = .ok tr ↔ t.Valid ∧ tr = .tcp t) ∧
    (∀ u ∈ c.udp, ∀ tr, Transport.ofUdp u none = .ok tr ↔
      u.Valid ∧ u.bufferPoolCapacity ≤ BufferPool.maxCapacity ∧
        tr = .udp u (BufferPool.new u.bufferPoolCapacity u.receiveBufferSize)) ∧
    (∀ tr, ((∃ t ∈ c.tcp, Transport.ofTcp t = .ok tr) ∨
      ∃ u ∈ c.udp, ∃ pool, Transport.ofUdp u pool = .ok tr) →
        tr.Checked ∧
        ∀ s : Node.Session, s.flavor = .socket tr → ∀ taken linked m,
          s.startAgainst taken linked = .error m ↔
            m = capacityOverflow ∧ s.machine.awaitLock.canStart = true ∧
              (∃ b, s.bind taken = .ok b) ∧ ¬ tr.Fits) ∧
    (∀ t ∈ c.tcp, ∀ tr, Transport.ofTcp t = .ok tr →
      ∀ h taken a fd h', tr.bind h taken = .ok (a, fd, h') →
        h'.listens = h.listens ++ [(fd, Net.listenBacklog t.backlog)] ∧
        0 < Net.listenBacklog t.backlog ∧ Net.listenBacklog t.backlog ≤ Net.i32Max ∧
        (Net.listenBacklog t.backlog = t.backlog ↔ t.backlog ≤ Net.i32Max)) := by
  refine ⟨?_, fun e => ?_, c.failures_validation, fun t _ => Transport.ofTcp_eq_ok t,
    fun u _ => Transport.ofUdp_none_eq_ok u, ?_, ?_⟩
  · rw [Config.validate_eq, firstFailure_eq_ok, Config.failures_eq_nil]
    simp
  · rw [Config.validate_eq, firstFailure_eq_error]
  · intro tr hbuilt
    have hc : tr.Checked := by
      rcases hbuilt with ⟨t, -, ht⟩ | ⟨u, -, pool, hu⟩
      · obtain ⟨hvalid, rfl⟩ := (Transport.ofTcp_eq_ok t tr).1 ht
        exact Transport.checked_tcp hvalid
      · obtain ⟨hvalid, p, rfl⟩ := Transport.ofUdp_valid hu
        exact Transport.checked_udp hvalid p
    exact ⟨hc, fun s hf taken linked m => Node.Session.startAgainst_eq_error hf hc taken linked m⟩
  · intro t _ tr ht h taken a fd h' hb
    obtain ⟨hvalid, rfl⟩ := (Transport.ofTcp_eq_ok t tr).1 ht
    exact ⟨Transport.bind_tcp_listens hb, Net.listenBacklog_bounds hvalid.backlog⟩

/-- Validation bounds neither the pool nor the queue by what can be laid out. A UDP node asking
for the largest 64-bit number of pool buffers passes validation, yet building its pool panics;
a TCP node asking for 2^62 queue slots passes validation and builds, yet its first start panics
with the same capacity overflow. -/
theorem validated_capacities_overflow :
    let u : UdpConfig := { address := .loopback 0, workers := 4, bufferPoolCapacity := wordMax }
    let t : TcpConfig := { address := .loopback 0, queueCapacity := 4611686018427387904 }
    u.validate = .ok () ∧ Transport.ofUdp u none = .error (.panic capacityOverflow) ∧
      t.validate = .ok () ∧ Transport.ofTcp t = .ok (.tcp t) ∧
        (Node.Session.new (.socket (.tcp t)) .none).start false = .error capacityOverflow := by
  intro u t
  have hu : u.validate = .ok () := by decide
  have ht : t.validate = .ok () := by decide
  have htr : Transport.ofTcp t = .ok (.tcp t) := (Transport.ofTcp_eq_ok t _).2 ⟨(TcpConfig.validate_eq_ok t).1 ht, rfl⟩
  refine ⟨hu, Transport.ofUdp_overflow hu (by decide), ht, htr, ?_⟩
  -- a fresh node can start and binds; only the queue's slots do not fit
  have hc : (Transport.tcp t).Checked := Transport.checked_tcp ((TcpConfig.validate_eq_ok t).1 ht)
  refine (Node.Session.startAgainst_eq_error rfl hc _ false _).2 ⟨rfl, rfl, ⟨_, rfl⟩, ?_⟩
  intro hfits
  have hq := hfits.1
  revert hq
  decide

end NetNode
