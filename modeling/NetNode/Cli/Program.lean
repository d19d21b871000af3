import NetNode.Cli.Args
import NetNode.Cli.Log
import NetNode.Config.Load
import NetNode.Config.Encode
import NetNode.Node.Session

/-!
# The echo server program

The program reads its arguments, then either prints help or its version, writes a default
configuration, checks a configuration, or runs: it loads the configuration (the file, then the
environment), starts a TCP node and then a UDP node as configured, waits for a signal, and
disposes of both nodes, logging each step. A node that fails to start ends the program with
the bind failure; a UDP failure first disposes of the TCP node.

The run is a pure function of what the program is given: its arguments, the files it sees,
its environment, the log directives and the signal that ends the run. Time does not pass in
it, so durations it logs are zero. The nodes live on the isolated host, where no client gets
through, so their statistics stay at zero.

A failure is printed as the program's final error: its text, then its causes, numbered when
there are several.
-/

namespace NetNode.Cli

open NetNode.Os NetNode.Address NetNode.Json

/-- A line written to standard output: plain text or a log record. -/
inductive Line where
  | plain (text : String)
  | record (r : Record)
  deriving Inhabited

/-- The signal that ends a run. -/
inductive Signal where
  | terminate
  | interrupt
  deriving DecidableEq, Inhabited, Repr

/-- The name of a signal. -/
def Signal.name : Signal → String
  | .terminate => "SIGTERM"
  | .interrupt => "SIGINT"

/-- What the program is given: arguments, the processors of the machine it runs on, files,
environment, the log directives of the environment, and the signal that ends a run, if one
comes. -/
structure Invocation where
  args : List String
  processors : Processors
  files : Files.Tree := Files.Tree.standard
  env : String → Option String := fun _ => none
  logDirectives : String := ""
  signal : Option Signal := none

/-- How the program ended: its exit code, or none while it still runs; its output lines, its
error text and the files after it; and how its log records are written. -/
structure Outcome where
  exitCode : Option Nat
  stdout : List Line := []
  stderr : String := ""
  files : Files.Tree := Files.Tree.standard
  json : Bool := true
  withTarget : Bool := true
  deriving Inhabited

/-- A cause's number, right-aligned in five columns. -/
def causeNumber (n : Nat) : String :=
  let s := toString n
  String.ofList (List.replicate (5 - s.length) ' ') ++ s

/-- A cause's text with every line after its first indented by `pad`, so that it stays in
the column its first line starts in. -/
def indentCause (pad : String) (c : String) : String :=
  ("\n" ++ pad).intercalate (c.splitOn "\n")

/-- The text printed for a final error: the error, then its causes, one alone indented by four
spaces and several numbered. -/
def failureText (top : String) (causes : List String) : String :=
  match causes with
  | [] => s!"Error: {top}\n"
  | [c] =>
    let shown := indentCause "    " c
    s!"Error: {top}\n\nCaused by:\n    {shown}\n"
  | cs =>
    let numbered := cs.zipIdx.map fun (c, i) =>
      let shown := indentCause "       " c
      s!"\n{causeNumber i}: {shown}"
    "Error: " ++ top ++ "\n\nCaused by:" ++ String.join numbered ++ "\n"

/-- The texts of a configuration failure and of what caused it. -/
def configChain (e : ConfigError) : List String :=
  match e with
  | .io io => [e.message, io.message]
  | _ => [e.message]

/-- The texts of a node failure and of what caused it. -/
def nodeChain (e : NodeError) : List String :=
  match e with
  | .bind _ io => [e.message, io.message]
  | .config c => e.message :: configChain c

/-- The target of the program's own records. -/
def mainTarget : String := "node_runtime"

/-- The target of the node lifecycle's records. -/
def lifecycleTarget : String := "node_runtime::node::lifecycle"

/-- An information record of the program. -/
def note (message : String) : Record := ⟨.info, mainTarget, message, []⟩

/-- The level of the configuration: one of the names, in any case, or information. -/
def configLevel (c : Config) : Level := (Level.ofName? c.log.level).getD .info

/-- The directives in force: those of the environment, then the configuration's level for
every target, then warnings only for the runtime library; and a note for each directive of the
environment that could not be read. -/
def directivesFor (env : String) (c : Config) : List Directive × List String :=
  let (ds, notes) := parseDirectives env
  (ds ++ [{ level := some (configLevel c) }, { target := some "tokio", level := some .warn }],
    notes)

/-- The target of the socket helpers' records. -/
def socketTarget : String := "node_runtime::node::socket"

/-- The target of the workers' records. -/
def workerTarget : String := "node_runtime::node::worker"

/-- The target of the producer's records. -/
def producerTarget : String := "node_runtime::node::producer"

/-- The record of a socket created for a transport, before the node starts. -/
def socketRecord (t : Transport) : Record :=
  match t with
  | .tcp c =>
    ⟨.debug, socketTarget, "Created TCP listener",
      [("addr", .shown c.address.text), ("backlog", .count c.backlog)]⟩
  | .udp c _ => ⟨.debug, socketTarget, "Created UDP socket", [("addr", .shown c.address.text)]⟩

/-- One record per worker of a node, numbered from 0. -/
def workerRecords (name : String) (workers : Nat) (message : String) : List Record :=
  (List.range workers).map fun i =>
    ⟨.debug, workerTarget, message, [("node", .text name), ("worker_id", .count i)]⟩

/-- A node of the program: its name, and its session on the shared host. -/
structure Served where
  name : String
  session : Node.Session
  deriving Inhabited

/-- How starting a node of the program ended: the node serves, its bind failed, or building its
run panicked. -/
inductive Launch where
  | served (node : Served)
  | failed (error : NodeError)
  | panicked (message : String)
  deriving Inhabited

/-- Start a node on the host: the host after, how the start ended, and the records. A started
node's workers announce themselves after the node does; a start that panics has created its
socket. -/
def startNode (host : Net.Host) (name : String) (t : Transport) :
    Net.Host × Launch × List Record :=
  let s : Node.Session := { Node.Session.new (.socket t) .none with host }
  match s.start false with
  | .error message => (s.host, .panicked message, [socketRecord t])
  | .ok (s, result) =>
    match result, s.machine.localAddr? with
    | .ok (), some a =>
      (s.host, .served ⟨name, s⟩,
        [socketRecord t,
         ⟨.info, lifecycleTarget, "Node started",
          [("node", .text name), ("addr", .shown a.text), ("workers", .count t.workerCount),
           ("queue_capacity", .count t.queueCapacity)]⟩] ++
        workerRecords name t.workerCount "Worker started")
    | .error e, _ =>
      (s.host, .failed e,
        [⟨.error, lifecycleTarget, "Failed to start node",
          [("node", .text name), ("addr", .shown t.address.text), ("error", .shown e.message)]⟩])
    | .ok (), none => (s.host, .served ⟨name, s⟩, [])

/-- Dispose of a node: the node after and the records of its stop and disposal. Cancelling the
run ends its producer, which reports how it ended, and then its workers, while the stop waits
for them. -/
def Served.dispose (n : Served) : Served × List Record :=
  let m := n.session.machine
  let addr := m.localAddr?
  let generation := (m.slot.map (·.generation)).getD 0
  let workers := m.world.plan.workers
  let clock := m.world.clock
  let (m, report) := m.stop
  let node := ("node", FieldValue.text n.name)
  let ended : List Record :=
    [⟨.debug, producerTarget, "Producer exited", [node, ("exit", .shown "Cancelled")]⟩,
     ⟨.debug, lifecycleTarget, "Producer task finished",
       [node, ("generation", .count generation), ("exit", .shown "Cancelled")]⟩] ++
    workerRecords n.name workers "Worker exiting"
  let stopRecords := match addr with
    | some a =>
      let place := ("addr", FieldValue.shown a.text)
      [⟨.info, lifecycleTarget, "Stopping node", [node, place]⟩] ++ ended ++
        (if report.timedOut then
          [⟨.warn, lifecycleTarget, "Stop timed out, abandoning in-flight work",
            [node, place, ("timeout_ms", .count m.world.plan.stopMillis),
             ("active", .count m.world.stats.active)]⟩]
        else []) ++
        [⟨.info, lifecycleTarget, "Node stopped",
          [node, place, ("elapsed_ms", .count (m.world.clock - clock))]⟩]
    | none => []
  let disposed := if m.state = .disposed then [] else [⟨.info, lifecycleTarget, "Node disposed", [node]⟩]
  ({ n with session := { n.session with machine := { m with state := .disposed } } },
    (if report.wasRunning then stopRecords else []) ++ disposed)

/-- The record of a running node dropped while the program unwinds from a panic. -/
def droppedRecords : Option Served → List Record
  | some n =>
    if n.session.machine.slot.isSome then
      [⟨.debug, lifecycleTarget, "Node dropped while running, cancelling", [("node", .text n.name)]⟩]
    else []
  | none => []

/-- The closing statistics line of a node. -/
def Served.finalStats (n : Served) : Record :=
  let s := n.session.machine.world.stats
  if n.name = "tcp" then
    note s!"Final TCP stats: {s.accepted} accepted, {s.processed} processed, {s.failed} failed, {s.dropped} dropped"
  else
    note s!"Final UDP stats: {s.accepted} received, {s.processed} processed, {s.failed} failed, {s.dropped} dropped"

/-- Dispose of the node, if any, and log its closing statistics. -/
def shutdownRecords : Option Served → List Record
  | some n =>
    let (n, rs) := n.dispose
    rs ++ [n.finalStats]
  | none => []

/-- The exit code of a program whose main thread panicked. -/
def panicExitCode : Nat := 101

/-- The text a program leaves when its main thread panics with `message`. -/
def panicText (message : String) : String := s!"thread \x27main\x27 panicked:\n{message}\n"

/-- Run the nodes of a loaded configuration until the signal: the exit code (none when no
signal comes), the records, and the error text. -/
def serve (c : Config) (path : String) (signal : Option Signal) :
    Option Nat × List Record × String :=
  let opening := [note versionLine, note s!"Configuration loaded from {Text.Quote.quote path}"]
  let (host, tcpResult, tcpRecords) : Net.Host × Option Launch × List Record :=
    match c.tcp with
    | some t =>
      let (h, r, rs) := startNode {} "tcp" (.tcp t)
      (h, some r, rs)
    | none => ({}, none, [])
  match tcpResult with
  | some (.failed e) =>
    (some 1, opening ++ tcpRecords, failureText "Failed to start TCP node" (nodeChain e))
  | some (.panicked m) => (some panicExitCode, opening ++ tcpRecords, panicText m)
  | _ =>
    let tcpNode := match tcpResult with
      | some (.served n) => some n
      | _ => none
    let udpBuilt := c.udp.map fun u =>
      (u, Pool.BufferPool.build u.bufferPoolCapacity u.receiveBufferSize 0)
    match udpBuilt with
    | some (_, .error m) => (some panicExitCode, opening ++ tcpRecords, panicText m)
    | _ =>
      let (udpResult, udpRecords) : Option Launch × List Record :=
        match udpBuilt with
        | some (u, .ok pool) =>
          let (_, r, rs) := startNode host "udp" (.udp u pool)
          (some r, rs)
        | _ => (none, [])
      match udpResult with
      | some (.failed e) =>
        let cleanup := match tcpNode with
          | some n => (n.dispose).2
          | none => []
        (some 1, opening ++ tcpRecords ++ udpRecords ++ cleanup,
          failureText "Failed to start UDP node" (nodeChain e))
      | some (.panicked m) =>
        (some panicExitCode, opening ++ tcpRecords ++ udpRecords ++ droppedRecords tcpNode,
          panicText m)
      | _ =>
        let udpNode := match udpResult with
          | some (.served n) => some n
          | _ => none
        let started := opening ++ tcpRecords ++ udpRecords ++ [note "Startup complete in 0.00ms"]
        match signal with
        | none => (none, started, "")
        | some sig =>
          (some 0, started ++ [note s!"Received {sig.name}, initiating shutdown...",
              note "Shutting down..."] ++
            shutdownRecords tcpNode ++ shutdownRecords udpNode ++ [note "Shutdown complete"], "")

/-- Run the program. -/
def execute (inv : Invocation) : Outcome :=
  let plain (ls : List String) : List Line := ls.map Line.plain
  match Args.parse {} inv.args with
  | .help => { exitCode := some 0, stdout := plain helpLines, files := inv.files }
  | .version => { exitCode := some 0, stdout := plain [versionLine], files := inv.files }
  | .unknown a =>
    { exitCode := some 1, stdout := plain helpLines, stderr := s!"Unknown argument: {a}\n",
      files := inv.files }
  | .run args =>
    let path := args.configPath
    if args.generate then
      match inv.files.write path (Config.standard inv.processors).fileText.toUTF8 with
      | .ok fs =>
        { exitCode := some 0, files := fs,
          stdout := plain [s!"Generated default configuration at {Text.Quote.quote path}"] }
      | .error e =>
        { exitCode := some 1, files := inv.files,
          stderr := failureText (ConfigError.io e).message [e.message] }
    else
      match Config.loadFileWithEnv inv.processors inv.files path inv.env with
      | .error e =>
        { exitCode := some 1, files := inv.files,
          stderr := failureText s!"Failed to load configuration from {Text.Quote.quote path}" (configChain e) }
      | .ok c =>
        if args.check then
          { exitCode := some 0, stdout := plain ["Configuration is valid"], files := inv.files }
        else
          let (directives, notes) := directivesFor inv.logDirectives c
          let (code, records, err) := serve c path inv.signal
          { exitCode := code, files := inv.files,
            stderr := String.join (notes.map (· ++ "\n")) ++ err,
            stdout := (records.filter (enabled directives)).map Line.record,
            json := c.log.format == "json", withTarget := c.log.target }

end NetNode.Cli
