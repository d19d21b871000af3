/-!
# Command-line arguments

The program takes a configuration path (`-c`/`--config`, defaulting to
`/etc/node-runtime/config.json`), `-g`/`--generate-config` to write a default configuration
there, `--check` to validate the configuration only, and `-h`/`--help` and `-v`/`--version`,
which print and leave at once. Arguments are read left to right: a later path wins, a `-c` at
the very end is ignored, and the first unknown argument ends the reading.
-/

namespace NetNode.Cli

/-- The program's version. -/
def version : String := "0.1.0"

/-- The line printed for `--version`, and the first log line of a run. -/
def versionLine : String := s!"node-runtime v{version}"

/-- The configuration path used when none is given. -/
def defaultConfigPath : String := "/etc/node-runtime/config.json"

/-- What the arguments ask for. -/
structure Args where
  configPath : String := defaultConfigPath
  generate : Bool := false
  check : Bool := false
  deriving DecidableEq, Inhabited, Repr

/-- The outcome of reading the arguments. -/
inductive Parsed where
  | run (args : Args)
  | help
  | version
  | unknown (arg : String)
  deriving DecidableEq, Inhabited, Repr

/-- Read the arguments left to right. -/
def Args.parse (a : Args) : List String → Parsed
  | [] => .run a
  | flag :: rest =>
    if flag = "-c" || flag = "--config" then
      match rest with
      | path :: rest => Args.parse { a with configPath := path } rest
      | [] => .run a
    else if flag = "-g" || flag = "--generate-config" then Args.parse { a with generate := true } rest
    else if flag = "--check" then Args.parse { a with check := true } rest
    else if flag = "-h" || flag = "--help" then .help
    else if flag = "-v" || flag = "--version" then .version
    else .unknown flag

/-- The help text, one entry per line; the last line is empty. -/
def helpLines : List String :=
  [versionLine,
   "",
   "TCP/UDP echo server with bounded concurrency and graceful shutdown.",
   "",
   "USAGE:",
   "    node-runtime [OPTIONS]",
   "",
   "OPTIONS:",
   "    -c, --config <PATH>     Configuration file path [default: /etc/node-runtime/config.json]",
   "    -g, --generate-config   Generate default configuration and exit",
   "    --check                 Check configuration and exit",
   "    -h, --help              Print help information",
   "    -v, --version           Print version information",
   "",
   "ENVIRONMENT:",
   "    NODE_RUNTIME_TCP_ADDR          Override TCP bind address",
   "    NODE_RUNTIME_UDP_ADDR          Override UDP bind address",
   "    NODE_RUNTIME_LOG_LEVEL         Override log level (trace, debug, info, warn, error)",
   "    NODE_RUNTIME_MAX_CONCURRENCY   Override TCP workers and UDP concurrency",
   ""]

end NetNode.Cli
