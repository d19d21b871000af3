import Mathlib
import NetNode.Cli.Program

/-!
# Reading the command line

The program reads its arguments left to right in words (`Splits`): a path option (`-c` or
`--config`) together with the argument after it, whatever that argument is, or any other
argument on its own. A path option with nothing after it ends the list and is dropped. Every
argument list splits in exactly one way (`Splits.exists`, `Splits.unique`), so "the arguments a
path option takes" and "the arguments that stand on their own" are well defined.

The first word that asks for help or the version, or that the program does not know, ends the
reading (`parse_of_splits_stop`), and the program prints and leaves before it reads or writes
any file (`execute_help`, `execute_version`, `execute_unknown`). Without such a word the
arguments ask for the path the last path option takes, or the default, and for writing or
checking a configuration exactly when those flags stand on their own (`parse_of_splits_run`).
Writing the default configuration then comes before checking one (`execute_generate`), and
checking before starting any node (`execute_check`).

`command_line` gathers these.
-/

namespace NetNode.Cli

/-- An argument that asks for a configuration path, which the argument after it gives. -/
def PathFlag (arg : String) : Prop := arg = "-c" ∨ arg = "--config"

instance (arg : String) : Decidable (PathFlag arg) := inferInstanceAs (Decidable (_ ∨ _))

/-- The arguments the program knows. -/
def knownArgs : List String :=
  ["-c", "--config", "-g", "--generate-config", "--check", "-h", "--help", "-v", "--version"]

/-- A unit of the command line: a path option with the argument it takes, or one argument on
its own. -/
inductive Word where
  | path (flag value : String)
  | single (arg : String)
  deriving DecidableEq, Repr

/-- The path a word gives, if it is a path option. -/
def Word.path? : Word → Option String
  | .path _ value => some value
  | .single _ => none

/-- A word that ends the reading: help, version, or an argument the program does not know. -/
def Word.Stops : Word → Prop
  | .path _ _ => False
  | .single arg =>
    arg = "-h" ∨ arg = "--help" ∨ arg = "-v" ∨ arg = "--version" ∨ arg ∉ knownArgs

/-- How an argument list splits into words, read left to right: a path option takes the
argument after it, whatever that argument is, and a path option with nothing after it is
dropped. -/
inductive Splits : List String → List Word → Prop where
  | nil : Splits [] []
  | dangling {flag : String} : PathFlag flag → Splits [flag] []
  | path {flag value : String} {rest : List String} {ws : List Word} :
      PathFlag flag → Splits rest ws → Splits (flag :: value :: rest) (.path flag value :: ws)
  | single {arg : String} {rest : List String} {ws : List Word} :
      ¬ PathFlag arg → Splits rest ws → Splits (arg :: rest) (.single arg :: ws)

/-! ## Every argument list splits in one way -/

theorem Splits.exists : (args : List String) → ∃ ws, Splits args ws
  | [] => ⟨[], .nil⟩
  | [arg] => if h : PathFlag arg then ⟨[], .dangling h⟩ else ⟨[.single arg], .single h .nil⟩
  | arg :: value :: rest =>
    if h : PathFlag arg then
      have ⟨_, hws⟩ := Splits.exists rest
      ⟨_, .path h hws⟩
    else
      have ⟨_, hws⟩ := Splits.exists (value :: rest)
      ⟨_, .single h hws⟩

theorem Splits.unique {args : List String} {ws ws' : List Word} (h : Splits args ws)
    (h' : Splits args ws') : ws = ws' := by
  induction h generalizing ws' with
  | nil => cases h'; rfl
  | dangling hf =>
    cases h' with
    | dangling => rfl
    | single hf' => exact absurd hf hf'
  | path hf _ ih =>
    cases h' with
    | path _ h' => rw [ih h']
    | single hf' => exact absurd hf hf'
  | single hf _ ih =>
    cases h' with
    | dangling hf' => exact absurd hf' hf
    | path hf' => exact absurd hf' hf
    | single _ h' => rw [ih h']

/-! ## Reading the words -/

/-- A word on its own that does not end the reading asks to write or to check a
configuration. -/
theorem Word.eq_of_not_stops {arg : String} (hf : ¬ PathFlag arg)
    (hs : ¬ (Word.single arg).Stops) :
    arg = "-g" ∨ arg = "--generate-config" ∨ arg = "--check" := by
  simp only [Word.Stops, not_or, not_not] at hs
  obtain ⟨hh, hhelp, hv, hversion, hk⟩ := hs
  simp only [knownArgs, List.mem_cons, List.not_mem_nil, or_false] at hk
  simp only [PathFlag, not_or] at hf
  rcases hk with rfl | rfl | rfl | rfl | rfl | rfl | rfl | rfl | rfl <;> simp_all

theorem parse_path {flag : String} (hf : PathFlag flag) (a : Args) (value : String)
    (rest : List String) :
    Args.parse a (flag :: value :: rest) = Args.parse { a with configPath := value } rest := by
  rcases hf with rfl | rfl <;> rfl

theorem parse_dangling {flag : String} (hf : PathFlag flag) (a : Args) :
    Args.parse a [flag] = .run a := by
  rcases hf with rfl | rfl <;> rfl

theorem parse_generate {arg : String} (h : arg = "-g" ∨ arg = "--generate-config") (a : Args)
    (rest : List String) :
    Args.parse a (arg :: rest) = Args.parse { a with generate := true } rest := by
  rcases h with rfl | rfl <;> cases rest <;> simp [Args.parse]

theorem parse_check (a : Args) (rest : List String) :
    Args.parse a ("--check" :: rest) = Args.parse { a with check := true } rest := by
  cases rest <;> simp [Args.parse]

theorem parse_help {arg : String} (h : arg = "-h" ∨ arg = "--help") (a : Args)
    (rest : List String) : Args.parse a (arg :: rest) = .help := by
  rcases h with rfl | rfl <;> cases rest <;> simp [Args.parse]

theorem parse_version {arg : String} (h : arg = "-v" ∨ arg = "--version") (a : Args)
    (rest : List String) : Args.parse a (arg :: rest) = .version := by
  rcases h with rfl | rfl <;> cases rest <;> simp [Args.parse]

theorem parse_unknown {arg : String} (h : arg ∉ knownArgs) (a : Args) (rest : List String) :
    Args.parse a (arg :: rest) = .unknown arg := by
  simp only [knownArgs, List.mem_cons, List.not_mem_nil, or_false, not_or] at h
  obtain ⟨hc, hconfig, hg, hgenerate, hcheck, hh, hhelp, hv, hversion⟩ := h
  cases rest <;> simp [Args.parse, hc, hconfig, hg, hgenerate, hcheck, hh, hhelp, hv, hversion]

/-- A word on its own that does not end the reading sets the flag it names. -/
theorem parse_single {arg : String} (hf : ¬ PathFlag arg) (hs : ¬ (Word.single arg).Stops)
    (a : Args) (rest : List String) :
    Args.parse a (arg :: rest) = Args.parse
      { a with generate := a.generate || decide ("-g" = arg ∨ "--generate-config" = arg)
               check := a.check || decide ("--check" = arg) } rest := by
  rcases Word.eq_of_not_stops hf hs with rfl | rfl | rfl <;> simp [parse_generate, parse_check]

/-- Without a word that ends it, the reading gives the path the last path option takes, and
asks to write or check a configuration when the flag stands on its own. -/
theorem parse_of_splits_run {args : List String} {ws : List Word} (h : Splits args ws)
    (hs : ∀ w ∈ ws, ¬ w.Stops) (a : Args) :
    Args.parse a args = .run
      { configPath := (ws.filterMap Word.path?).getLast?.getD a.configPath
        generate := a.generate ||
          decide (Word.single "-g" ∈ ws ∨ Word.single "--generate-config" ∈ ws)
        check := a.check || decide (Word.single "--check" ∈ ws) } := by
  induction h generalizing a with
  | nil => simp [Args.parse]
  | dangling hf => simp [parse_dangling hf]
  | path hf _ ih =>
    rw [parse_path hf, ih (fun w hw => hs w (List.mem_cons_of_mem _ hw))]
    simp [Word.path?, List.getLast?_cons]
  | single hf _ ih =>
    rw [parse_single hf (hs _ List.mem_cons_self),
      ih (fun w hw => hs w (List.mem_cons_of_mem _ hw))]
    simp [Word.path?, Bool.or_assoc, Bool.or_left_comm]

/-- The first word that ends the reading is reached with the words before it read. -/
theorem parse_of_splits_stop {args : List String} {pre post : List Word} {arg : String}
    (h : Splits args (pre ++ .single arg :: post)) (hpre : ∀ w ∈ pre, ¬ w.Stops) (a : Args) :
    ∃ a' rest, Args.parse a args = Args.parse a' (arg :: rest) := by
  induction pre generalizing args a with
  | nil =>
    cases h with
    | single _ _ => exact ⟨a, _, rfl⟩
  | cons w pre ih =>
    have hpre' : ∀ v ∈ pre, ¬ v.Stops := fun v hv => hpre v (List.mem_cons_of_mem _ hv)
    cases h with
    | path hf h =>
      obtain ⟨a', rest, hr⟩ := ih h hpre' _
      exact ⟨a', rest, (parse_path hf _ _ _).trans hr⟩
    | single hf h =>
      obtain ⟨a', rest, hr⟩ := ih h hpre' _
      exact ⟨a', rest, (parse_single hf (hpre _ List.mem_cons_self) _ _).trans hr⟩

/-! ## What the program does -/

/-- The outcome of a program that ends at once: its exit code, the lines it prints, its error
text, and the files it leaves. -/
def Outcome.ended (code : Nat) (lines : List String) (err : String) (files : Files.Tree) :
    Outcome :=
  { exitCode := some code, stdout := lines.map Line.plain, stderr := err, files }

/-- Writing the default configuration for `cpus` processors at `path`: the line that says where,
or the failure to write with the files left as they were. -/
def generateOutcome (cpus : Processors) (files : Files.Tree) (path : String) : Outcome :=
  match files.write path (Config.standard cpus).fileText.toUTF8 with
  | .ok written =>
    .ended 0 [s!"Generated default configuration at {Text.Quote.quote path}"] "" written
  | .error e => .ended 1 [] (failureText (ConfigError.io e).message [e.message]) files

/-- Checking the configuration at `path`, with the environment's changes: the line that says it
is valid, or the failure to load it. No node starts and no file is written. -/
def checkOutcome (inv : Invocation) (path : String) : Outcome :=
  match Config.loadFileWithEnv inv.processors inv.files path inv.env with
  | .ok _ => .ended 0 ["Configuration is valid"] "" inv.files
  | .error e =>
    .ended 1 []
      (failureText s!"Failed to load configuration from {Text.Quote.quote path}" (configChain e))
      inv.files

section Execute

variable {inv : Invocation}

theorem execute_help (h : Args.parse {} inv.args = .help) :
    execute inv = .ended 0 helpLines "" inv.files := by
  simp only [execute, h]
  rfl

theorem execute_version (h : Args.parse {} inv.args = .version) :
    execute inv = .ended 0 [versionLine] "" inv.files := by
  simp only [execute, h]
  rfl

theorem execute_unknown {arg : String} (h : Args.parse {} inv.args = .unknown arg) :
    execute inv = .ended 1 helpLines s!"Unknown argument: {arg}\n" inv.files := by
  simp only [execute, h]
  rfl

/-- Asked to write the default configuration, the program writes it whether or not it was also
asked to check one. -/
theorem execute_generate {args : Args} (h : Args.parse {} inv.args = .run args)
    (hg : args.generate = true) :
    execute inv = generateOutcome inv.processors inv.files args.configPath := by
  simp only [execute, h, hg, if_true, generateOutcome]
  cases inv.files.write args.configPath (Config.standard inv.processors).fileText.toUTF8 <;> rfl

/-- Asked to check a configuration and not to write one, the program checks it and starts no
node. -/
theorem execute_check {args : Args} (h : Args.parse {} inv.args = .run args)
    (hg : args.generate = false) (hc : args.check = true) :
    execute inv = checkOutcome inv args.configPath := by
  simp only [execute, h, hg, hc, checkOutcome]
  cases Config.loadFileWithEnv inv.processors inv.files args.configPath inv.env <;> rfl

end Execute

/-- Every argument list splits into words in one way; a word asking for help or the version,
or one not known, ends the program before any file is touched, and otherwise the last path
option, the writing flag and the checking flag decide what runs, in that order. -/
theorem command_line (inv : Invocation) :
    (∃! ws, Splits inv.args ws) ∧
    ∀ ws, Splits inv.args ws →
      (∀ pre arg post, ws = pre ++ .single arg :: post → (∀ w ∈ pre, ¬ w.Stops) →
        ((arg = "-h" ∨ arg = "--help") → execute inv = .ended 0 helpLines "" inv.files) ∧
        ((arg = "-v" ∨ arg = "--version") → execute inv = .ended 0 [versionLine] "" inv.files) ∧
        (arg ∉ knownArgs →
          execute inv = .ended 1 helpLines s!"Unknown argument: {arg}\n" inv.files)) ∧
      ((∀ w ∈ ws, ¬ w.Stops) → ∃ args, Args.parse {} inv.args = .run args ∧
        args.configPath = (ws.filterMap Word.path?).getLast?.getD defaultConfigPath ∧
        (args.generate = true ↔ Word.single "-g" ∈ ws ∨ Word.single "--generate-config" ∈ ws) ∧
        (args.check = true ↔ Word.single "--check" ∈ ws) ∧
        (args.generate = true →
          execute inv = generateOutcome inv.processors inv.files args.configPath) ∧
        (args.generate = false → args.check = true →
          execute inv = checkOutcome inv args.configPath)) := by
  refine ⟨?_, fun ws h => ⟨fun pre arg post hws hpre => ?_, fun hs => ?_⟩⟩
  · obtain ⟨ws, h⟩ := Splits.exists inv.args
    exact ⟨ws, h, fun ws' h' => h'.unique h⟩
  · subst hws
    obtain ⟨a, rest, hparse⟩ := parse_of_splits_stop h hpre {}
    exact ⟨fun hh => execute_help (hparse.trans (parse_help hh a rest)),
      fun hv => execute_version (hparse.trans (parse_version hv a rest)),
      fun hu => execute_unknown (hparse.trans (parse_unknown hu a rest))⟩
  · have hrun := parse_of_splits_run h hs {}
    refine ⟨_, hrun, rfl, ?_, ?_, execute_generate hrun, execute_check hrun⟩
    · simp
    · simp

/-- A path option takes the flag after it as its path: nothing is written. -/
example : Args.parse {} ["-c", "-g"] = .run { configPath := "-g" } := by decide

end NetNode.Cli
