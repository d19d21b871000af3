import Mathlib
import NetNode.Config.Load
import NetNode.Proofs.Config.Checks

/-!
# Environment variables change exactly the fields they name

A loaded configuration may be changed by four variables. What they ask for is said here without
the order of the loader's steps: `Config.envFailures` lists, in the order the variables are read,
the address variables set for a configured node whose value is no address and a count variable
that is no 64-bit count; `Config.overridden` is the configuration with each node's address moved
where its variable names one, both node limits set to the count, and the log level replaced.

`env_overrides`: loading a file with the variables succeeds exactly when the file loads, no
variable fails and the changed configuration passes the checks, and then gives that
configuration; it fails with the file's own failure, or else with the first variable's failure,
or else with the first check the changed configuration fails. An address variable of a node
that is not configured changes nothing.

The loader's steps each either fail with the first of their own failures or go on
(`firstFailure`), so the whole is the first failure of the concatenated lists
(`Config.applyEnv_eq`).
-/

namespace NetNode

open NetNode.Address

/-! ## What the variables ask for -/

/-- The failure of an address variable: it is set, for a node that is configured, to a value
that is no address. A variable of a node that is not configured never fails. -/
def addressFailures (name : String) (present : Bool) (value : Option String) : List ConfigError :=
  match present, value with
  | true, some v =>
    if (SocketAddress.parse? v).isSome then [] else [.env name s!"Invalid socket address: {v}"]
  | _, _ => []

/-- The failure of the count variable: it is set to a value that is no 64-bit count. -/
def countFailures : Option String → List ConfigError
  | some v => if (parseCount? v).isSome then [] else [.env envMaxConcurrency s!"Invalid number: {v}"]
  | none => []

/-- The failures of the variables, in the order they are read: the TCP address, the UDP address
and the count. -/
def Config.envFailures (c : Config) (lookup : String → Option String) : List ConfigError :=
  addressFailures envTcpAddr c.tcp.isSome (lookup envTcpAddr) ++
    addressFailures envUdpAddr c.udp.isSome (lookup envUdpAddr) ++
    countFailures (lookup envMaxConcurrency)

/-- The configuration the variables describe: it equals `c` but for each configured node's
address, moved where its variable holds an address, the TCP worker count and the UDP
concurrency, both set to the count where the count variable holds one, and the log level,
replaced by its variable's value whatever it is. -/
def Config.overridden (c : Config) (lookup : String → Option String) : Config :=
  let address (name : String) (a : SocketAddress) := ((lookup name).bind SocketAddress.parse?).getD a
  let count (n : Nat) := ((lookup envMaxConcurrency).bind parseCount?).getD n
  { tcp := c.tcp.map fun t =>
      { t with address := address envTcpAddr t.address,
               maxConcurrentConnections := count t.maxConcurrentConnections }
    udp := c.udp.map fun u =>
      { u with address := address envUdpAddr u.address, maxConcurrency := count u.maxConcurrency }
    log := { c.log with level := (lookup envLogLevel).getD c.log.level } }

/-- The variables can be read for a configuration: an address variable set for a configured node
holds an address, and the count variable, when set, a 64-bit count. -/
structure Config.EnvReadable (c : Config) (lookup : String → Option String) : Prop where
  tcp : c.tcp.isSome → ∀ v ∈ lookup envTcpAddr, (SocketAddress.parse? v).isSome
  udp : c.udp.isSome → ∀ v ∈ lookup envUdpAddr, (SocketAddress.parse? v).isSome
  count : ∀ v ∈ lookup envMaxConcurrency, (parseCount? v).isSome

/-- Why the variables are refused for a configuration: the first variable that fails, or else
the first check the changed configuration fails. -/
def Config.envError? (c : Config) (lookup : String → Option String) : Option ConfigError :=
  match c.envFailures lookup with
  | e :: _ => some e
  | [] =>
    match (c.overridden lookup).validate with
    | .error e => some e
    | .ok () => none

theorem addressFailures_eq_nil {name : String} {present : Bool} {value : Option String} :
    addressFailures name present value = [] ↔
      (present → ∀ v ∈ value, (SocketAddress.parse? v).isSome) := by
  cases present <;> cases value <;> simp [addressFailures, Option.isSome_iff_ne_none]

theorem countFailures_eq_nil {value : Option String} :
    countFailures value = [] ↔ ∀ v ∈ value, (parseCount? v).isSome := by
  cases value <;> simp [countFailures, Option.isSome_iff_ne_none]

theorem Config.envFailures_eq_nil {c : Config} {lookup : String → Option String} :
    c.envFailures lookup = [] ↔ c.EnvReadable lookup := by
  simp only [Config.envFailures, List.append_eq_nil_iff, addressFailures_eq_nil,
    countFailures_eq_nil]
  exact ⟨fun ⟨⟨ht, hu⟩, hn⟩ => ⟨ht, hu, hn⟩, fun ⟨ht, hu, hn⟩ => ⟨⟨ht, hu⟩, hn⟩⟩

/-! ## The loader's steps -/

/-- Moving a node: the variable's failure, or the node moved where the variable holds an
address. -/
theorem overrideAddress_eq {α : Type} (name : String) (value : Option String)
    (set : α → SocketAddress → α) (node : Option α) :
    overrideAddress name value set node =
      firstFailure (addressFailures name node.isSome value)
        (.ok (node.map fun n => ((value.bind SocketAddress.parse?).elim n (set n)))) := by
  cases node with
  | none => rfl
  | some n =>
    cases value with
    | none => rfl
    | some v =>
      cases h : SocketAddress.parse? v <;>
        simp [overrideAddress, envAddress, addressFailures, h, Except.map]

/-- Reading the count: the variable's failure, or the count it holds, if any. -/
theorem overrideCount_eq (value : Option String) :
    overrideCount value = firstFailure (countFailures value) (.ok (value.bind parseCount?)) := by
  cases value with
  | none => rfl
  | some v => cases h : parseCount? v <;> simp [overrideCount, countFailures, h]

/-- The nodes the loader's steps build are those of `Config.overridden`. -/
theorem Config.overridden_eq (c : Config) (lookup : String → Option String) :
    c.overridden lookup =
      { tcp := (c.tcp.map fun t => ((lookup envTcpAddr).bind SocketAddress.parse?).elim t
            fun a => { t with address := a }).map fun t =>
          { t with maxConcurrentConnections :=
              ((lookup envMaxConcurrency).bind parseCount?).getD t.maxConcurrentConnections }
        udp := (c.udp.map fun u => ((lookup envUdpAddr).bind SocketAddress.parse?).elim u
            fun a => { u with address := a }).map fun u =>
          { u with maxConcurrency :=
              ((lookup envMaxConcurrency).bind parseCount?).getD u.maxConcurrency }
        log := { c.log with level := (lookup envLogLevel).getD c.log.level } } := by
  simp only [Config.overridden, Option.map_map]
  -- each node is moved or kept as its address parses or not
  congr 1 <;> congr 1 <;> funext n <;>
    cases ((lookup _).bind SocketAddress.parse?) <;> rfl

/-- Applying the variables gives the first variable that fails, in the order they are read,
or else the changed configuration once it passes the checks. -/
theorem Config.applyEnv_eq (c : Config) (lookup : String → Option String) :
    c.applyEnv lookup =
      firstFailure (c.envFailures lookup)
        (do (c.overridden lookup).validate; pure (c.overridden lookup)) := by
  simp only [Config.applyEnv, overrideAddress_eq, overrideCount_eq, firstFailure_bind, ok_bind,
    Config.envFailures, firstFailure_append, Config.overridden_eq]

/-! ## Loading with the variables -/

theorem Config.loadFileWithEnv_eq (cpus : Processors) (fs : Files.Tree) (path : String)
    (lookup : String → Option String) :
    Config.loadFileWithEnv cpus fs path lookup =
      Config.loadFile cpus fs path >>= (·.applyEnv lookup) :=
  rfl

/-- What applying the variables gives is decided by `Config.envFailures` and the checks of
`Config.overridden`. -/
theorem Config.applyEnv_eq_ok {c c' : Config} {lookup : String → Option String} :
    c.applyEnv lookup = .ok c' ↔
      c.EnvReadable lookup ∧ c' = c.overridden lookup ∧ c'.validate = .ok () := by
  rw [Config.applyEnv_eq, ← Config.envFailures_eq_nil]
  cases c.envFailures lookup with
  | cons e _ => simp
  | nil =>
    cases h : (c.overridden lookup).validate with
    | error e =>
      simp only [bind, Except.bind, firstFailure_nil, reduceCtorEq, true_and, false_iff,
        not_and]
      rintro rfl
      simp [h]
    | ok u =>
      simp only [bind, Except.bind, pure, Except.pure, firstFailure_nil, Except.ok.injEq,
        true_and]
      constructor
      · rintro rfl
        exact ⟨rfl, h⟩
      · rintro ⟨rfl, -⟩
        rfl

theorem Config.applyEnv_eq_error {c : Config} {lookup : String → Option String}
    {e : ConfigError} : c.applyEnv lookup = .error e ↔ c.envError? lookup = some e := by
  rw [Config.applyEnv_eq, Config.envError?]
  cases c.envFailures lookup with
  | cons f _ => simp
  | nil =>
    cases h : (c.overridden lookup).validate with
    | error f => simp [bind, Except.bind]
    | ok u => simp [bind, Except.bind, pure, Except.pure]

/-- An address variable of a node that is not configured is never read: whatever it holds, the
variables fail or change the configuration alike. -/
theorem Config.applyEnv_update_absent (c : Config) (lookup : String → Option String)
    (v : Option String) :
    (c.tcp = none → c.applyEnv (Function.update lookup envTcpAddr v) = c.applyEnv lookup) ∧
    (c.udp = none → c.applyEnv (Function.update lookup envUdpAddr v) = c.applyEnv lookup) := by
  -- the four variables have different names
  have h₁ : envUdpAddr ≠ envTcpAddr := by decide
  have h₂ : envLogLevel ≠ envTcpAddr := by decide
  have h₃ : envMaxConcurrency ≠ envTcpAddr := by decide
  have h₄ : envLogLevel ≠ envUdpAddr := by decide
  have h₅ : envMaxConcurrency ≠ envUdpAddr := by decide
  constructor
  · intro ht
    simp only [Config.applyEnv_eq, Config.envFailures, Config.overridden, addressFailures, ht,
      Option.isSome_none, Option.map_none, Function.update_of_ne h₁, Function.update_of_ne h₂,
      Function.update_of_ne h₃]
  · intro hu
    simp only [Config.applyEnv_eq, Config.envFailures, Config.overridden, addressFailures, hu,
      Option.isSome_none, Option.map_none, Function.update_of_ne h₁.symm,
      Function.update_of_ne h₄, Function.update_of_ne h₅]

/-- The checks never look at the log level. -/
theorem Config.validate_withLevel (c : Config) (s : String) :
    Config.validate { c with log := { c.log with level := s } } = c.validate :=
  rfl

/-- Any log level is taken and never checked: setting the level variable changes the level of
what applying the variables gives, and nothing else. -/
theorem Config.applyEnv_update_level (c : Config) (lookup : String → Option String) (s : String) :
    c.applyEnv (Function.update lookup envLogLevel (some s)) =
      (c.applyEnv lookup).map fun c' => { c' with log := { c'.log with level := s } } := by
  have h₁ : envTcpAddr ≠ envLogLevel := by decide
  have h₂ : envUdpAddr ≠ envLogLevel := by decide
  have h₃ : envMaxConcurrency ≠ envLogLevel := by decide
  -- the variables' failures do not read the level, and the changed configuration differs in it
  have hfail : c.envFailures (Function.update lookup envLogLevel (some s)) = c.envFailures lookup := by
    simp only [Config.envFailures, Function.update_of_ne h₁, Function.update_of_ne h₂,
      Function.update_of_ne h₃]
  have hover : c.overridden (Function.update lookup envLogLevel (some s)) =
      { c.overridden lookup with log := { (c.overridden lookup).log with level := s } } := by
    simp only [Config.overridden, Function.update_of_ne h₁, Function.update_of_ne h₂,
      Function.update_of_ne h₃, Function.update_self, Option.getD_some]
  rw [Config.applyEnv_eq, Config.applyEnv_eq, hfail, hover, Config.validate_withLevel]
  cases c.envFailures lookup with
  | cons e _ => rfl
  | nil => cases (c.overridden lookup).validate <;> rfl

/-- Loading with environment overrides succeeds exactly when the file loads, every variable set
is well formed and the changed configuration passes the checks, and otherwise fails with the
first of these failures; only the node addresses, the two node limits and the log level change. -/
theorem env_overrides (cpus : Processors) (fs : Files.Tree) (path : String)
    (lookup : String → Option String) :
    (∀ c', Config.loadFileWithEnv cpus fs path lookup = .ok c' ↔
      ∃ c, Config.loadFile cpus fs path = .ok c ∧ c.EnvReadable lookup ∧
        c' = c.overridden lookup ∧ c'.validate = .ok ()) ∧
    (∀ e, Config.loadFileWithEnv cpus fs path lookup = .error e ↔
      Config.loadFile cpus fs path = .error e ∨
        ∃ c, Config.loadFile cpus fs path = .ok c ∧ c.envError? lookup = some e) ∧
    (∀ s, Config.loadFileWithEnv cpus fs path (Function.update lookup envLogLevel (some s)) =
      (Config.loadFileWithEnv cpus fs path lookup).map fun c' =>
        { c' with log := { c'.log with level := s } }) ∧
    (∀ c, Config.loadFile cpus fs path = .ok c → ∀ v,
      (c.tcp = none → Config.loadFileWithEnv cpus fs path (Function.update lookup envTcpAddr v) =
        Config.loadFileWithEnv cpus fs path lookup) ∧
      (c.udp = none → Config.loadFileWithEnv cpus fs path (Function.update lookup envUdpAddr v) =
        Config.loadFileWithEnv cpus fs path lookup)) := by
  simp only [Config.loadFileWithEnv_eq]
  refine ⟨fun c' => ?_, fun e => ?_, fun s => ?_, fun c hc v => ?_⟩
  · cases Config.loadFile cpus fs path with
    | error f => simp [bind, Except.bind]
    | ok c => simpa [bind, Except.bind] using Config.applyEnv_eq_ok
  · cases Config.loadFile cpus fs path with
    | error f => simp [bind, Except.bind]
    | ok c => simpa [bind, Except.bind] using Config.applyEnv_eq_error
  · cases Config.loadFile cpus fs path with
    | error f => rfl
    | ok c => exact Config.applyEnv_update_level c lookup s
  · simp only [hc, bind, Except.bind]
    exact Config.applyEnv_update_absent c lookup v

end NetNode
