import NetNode.Cli.Program

/-!
# The program's entry point

The command line of the echo server. It gathers what the program is given (its arguments, the
number of processors, the configuration file at the chosen path, whether that path and its
directory are directories, the `NODE_RUNTIME_*` variables and `RUST_LOG`), runs
`Cli.execute`, and writes the outcome: output lines, the error text, the exit code, and a
written configuration file.

A run prints its start-up records, then waits for the signal that ends it. Standard input
stands in for the signals: a line `TERM` or `INT`, or the end of the input, which counts as
`TERM`. Records are written without timestamps.
-/

open NetNode NetNode.Cli

/-- Whether a directory is at `p`. -/
def dirExists (p : String) : IO Bool :=
  (System.mkFilePath [p]).isDir

/-- The bytes of the file at `p`, when it can be read. -/
def readFile? (p : String) : IO (Option ByteArray) := do
  match ← (IO.FS.readBinFile p).toBaseIO with
  | Except.ok b => pure (some b)
  | Except.error _ => pure none

/-- The text of an output line under the outcome's log format. -/
def lineText (o : Outcome) : Line → String
  | .plain t => t
  | .record r => if o.json then (r.toValue o.withTarget).compact else r.line o.withTarget

/-- Read standard input until a signal name or its end. -/
partial def awaitSignal (stdin : IO.FS.Stream) : IO Signal := do
  let line ← stdin.getLine
  if line.isEmpty then return .terminate
  match line.trimAscii.toString with
  | "INT" => return .interrupt
  | "TERM" => return .terminate
  | _ => awaitSignal stdin

/-- The canonical components of `path` seen from the directory `cwd`. -/
def canonical (cwd path : String) : List String :=
  let start := if path.startsWith "/" then [] else Files.parts cwd
  (Files.parts path).foldl (fun acc c =>
    if c = "." then acc else if c = ".." then acc.dropLast else acc ++ [c]) start

/-- The file tree along `path`: each directory on the way, and the file at its end. -/
def treeAlong (cwd path : String) : IO Files.Tree := do
  let cs := canonical cwd path
  let mut t : Files.Tree := { cwd }
  for n in List.range (cs.length + 1) do
    let p := Files.join (cs.take n)
    if ← dirExists p then t := t.withDir p
    else if let some b ← readFile? p then t := t.withFile p b
  return t

/-- The processors the machine lists in `/proc/cpuinfo`; one when it lists none. -/
def readProcessors : IO Processors := do
  let listed ← match ← (IO.FS.readFile "/proc/cpuinfo").toBaseIO with
    | .ok text => pure ((text.splitOn "\n").countP (·.startsWith "processor"))
    | .error _ => pure 0
  if h : 0 < listed ∧ listed ≤ wordMax then return ⟨listed, h.1, h.2⟩
  else return ⟨1, Nat.one_pos, by decide⟩

/-- Run the program. -/
def main (args : List String) : IO UInt32 := do
  let path := match Args.parse {} args with
    | .run a => a.configPath
    | _ => defaultConfigPath
  let cwd := toString (← IO.currentDir)
  let files ← treeAlong cwd path
  let names := [envTcpAddr, envUdpAddr, envLogLevel, envMaxConcurrency]
  let values ← names.mapM fun n => do return (n, ← IO.getEnv n)
  let env (n : String) : Option String := (values.lookup n).join
  let rustLog := (← IO.getEnv "RUST_LOG").getD ""
  let processors ← readProcessors
  let inv : Invocation := { args, processors, files, env, logDirectives := rustLog }
  let stdout ← IO.getStdout
  let first := execute inv
  for l in first.stdout do stdout.putStrLn (lineText first l)
  stdout.flush
  let final ← match first.exitCode with
    | some _ => pure first
    | none => do
      let o := execute { inv with signal := some (← awaitSignal (← IO.getStdin)) }
      for l in o.stdout.drop first.stdout.length do stdout.putStrLn (lineText o l)
      pure o
  (← IO.getStderr).putStr final.stderr
  match final.files.read path, files.read path with
  | .ok b, .ok before => if b.toList != before.toList then IO.FS.writeBinFile path b
  | .ok b, .error _ => IO.FS.writeBinFile path b
  | .error _, _ => pure ()
  return (final.exitCode.getD 0).toUInt32
