import NetNode.Cli.Pattern
import NetNode.Json.Write
import NetNode.Text.Quote

/-!
# Log records

A log record has a level, a target (the module that logged it), a message and named fields.
Fields hold text, text shown through its display form, or counts. A record renders as a JSON
object, `{"level", "fields", "target"}` with the message among the fields, or as a text line:
the level right-aligned in five columns, the target and a colon, the message, then each field
as `name=value`, text fields quoted.

Which records are written is decided by directives, as in `RUST_LOG`, separated by commas: a
bare level, or a target optionally followed by a span part `[name{field,...}]` and `=level`.
A level is a name in any case, `off`, or a number from 0 to 5; a target without a level lets
everything through. A directive that cannot be read is skipped with a note. Directives that
name a span or match field values only act inside spans, and this program opens none. Of the
others, the most specific one about a record decides: a longer target first, then more fields;
a target is about every record whose target starts with it, as text.

A directive is read character by character once the white space at its ends is trimmed, and
the positions met are byte offsets into the trimmed text; but the parts they delimit are cut
from the directive as it was given. So leading white space shifts every part: the target gets
the white space and loses as many bytes at its end, and the level text is cut that much too
early. A directive starts with a letter, a digit, `-`, `:`, `_` or `[`; it must end in a target,
a level, or after a span part. A field value is checked when its field closes (see
`Cli.Pattern`).
-/

namespace NetNode.Cli

open NetNode.Json

/-- Severity of a record, most severe first. -/
inductive Level where
  | error
  | warn
  | info
  | debug
  | trace
  deriving DecidableEq, Inhabited, Repr

/-- The rank of a level: error 1 up to trace 5. -/
def Level.rank : Level → Nat
  | .error => 1
  | .warn => 2
  | .info => 3
  | .debug => 4
  | .trace => 5

/-- The upper-case name of a level. -/
def Level.name : Level → String
  | .error => "ERROR"
  | .warn => "WARN"
  | .info => "INFO"
  | .debug => "DEBUG"
  | .trace => "TRACE"

/-- The level named by a word, in any case. -/
def Level.ofName? (s : String) : Option Level :=
  match s.toLower with
  | "error" => some .error
  | "warn" => some .warn
  | "info" => some .info
  | "debug" => some .debug
  | "trace" => some .trace
  | _ => none

/-- A field's value: text, text given in its display form, or a count. -/
inductive FieldValue where
  | text (s : String)
  | shown (s : String)
  | count (n : Nat)
  deriving DecidableEq, Inhabited, Repr

/-- A log record. -/
structure Record where
  level : Level
  target : String
  message : String
  fields : List (String × FieldValue) := []
  deriving DecidableEq, Inhabited, Repr

/-- A field value in JSON. -/
def FieldValue.toValue : FieldValue → Value
  | .text s | .shown s => .str s
  | .count n => .nat n

/-- A field value in a text line: text is quoted. -/
def FieldValue.render : FieldValue → String
  | .text s => Text.Quote.quote s
  | .shown s => s
  | .count n => toString n

/-- A record as a JSON object, with or without its target. -/
def Record.toValue (r : Record) (withTarget : Bool) : Value :=
  let fields := ("message", Value.str r.message) :: r.fields.map fun (k, v) => (k, v.toValue)
  .obj ([("level", .str r.level.name), ("fields", .obj fields)] ++
    (if withTarget then [("target", .str r.target)] else []))

/-- A record as a text line, with or without its target. -/
def Record.line (r : Record) (withTarget : Bool) : String :=
  let level := String.ofList (List.replicate (5 - r.level.name.length) ' ') ++ r.level.name
  let target := if withTarget then r.target ++ ": " else ""
  let fields := r.fields.map fun (k, v) => s!" {k}={v.render}"
  level ++ " " ++ target ++ r.message ++ String.join fields

/-- A filter directive: the prefix of the targets it is for, the span it is limited to, the
fields it asks for (each with a value to match, or none to only ask for the field), and the
most verbose level it lets through, none meaning nothing at all. -/
structure Directive where
  target : Option String := none
  span : Option String := none
  fields : List (String × Option String) := []
  level : Option Level := some .trace
  deriving DecidableEq, Inhabited, Repr

/-- Why a directive could not be read: its shape, its level, or a field value that cannot be
matched. -/
inductive DirectiveError where
  | invalid
  | level
  | field (reason : Pattern.Refusal)
  deriving DecidableEq, Inhabited, Repr

/-- The text of a directive error. -/
def DirectiveError.message : DirectiveError → String
  | .invalid => "invalid filter directive"
  | .field reason => "invalid field filter: " ++ reason.message
  | .level =>
    "error parsing level filter: expected one of \"off\", \"error\", \"warn\", \"info\", " ++
      "\"debug\", \"trace\", or a number 0-5"

/-- Read a count as an unsigned machine word reads it: an optional `+` and decimal digits. -/
def parseWord? (s : String) : Option Nat :=
  let cs := s.toList
  let ds := match cs with
    | '+' :: rest => rest
    | _ => cs
  if ds.isEmpty || !ds.all Char.isDigit then none
  else
    let n := ds.foldl (fun acc c => acc * 10 + (c.toNat - 48)) 0
    if n < Nat.pow 2 64 then some n else none

/-- Read a level filter: a number from 0 (nothing) to 5 (trace), or a name in any case; the
empty text is the error level. -/
def parseLevelFilter? (s : String) : Option (Option Level) :=
  let byNumber : Option (Option Level) := match parseWord? s with
    | some 0 => some none
    | some 1 => some (some .error)
    | some 2 => some (some .warn)
    | some 3 => some (some .info)
    | some 4 => some (some .debug)
    | some 5 => some (some .trace)
    | _ => none
  match byNumber with
  | some l => some l
  | none =>
    if s.isEmpty then some (some .error)
    else if s.toLower = "off" then some none
    else (Level.ofName? s).map some

/-- A field a directive asks for: its name, and the value after the first `=`, if any. -/
def parseField (s : String) : String × Option String :=
  match s.splitOn "=" with
  | name :: value :: _ => (name, some value)
  | _ => (s, none)

/-- Where the reading of a directive is: at its start; in a part that is a level or a target;
in a span name; in a field; after the fields; after a span; in the level. Positions are byte
offsets. -/
inductive Scan where
  | start
  | levelOrTarget (pos : Nat)
  | span (pos : Nat)
  | field (pos : Nat)
  | fields
  | target
  | level (pos : Nat)
  deriving DecidableEq, Inhabited, Repr

/-- Whether a character may begin a target. -/
def targetStart (c : Char) : Bool :=
  c = '-' || c = ':' || c = '_' || Text.alphanumeric c

/-- The characters of a text, each with the byte offset it starts at. -/
def withOffsets : Nat → List Char → List (Nat × Char)
  | _, [] => []
  | o, c :: cs => (o, c) :: withOffsets (o + c.utf8Size) cs

/-- The part of a text from byte `a` to byte `b`: the characters that start in between, so a
bound inside a character keeps the characters that start after it. -/
def sliceBytes (cs : List Char) (a b : Nat) : String :=
  String.ofList ((withOffsets 0 cs).filterMap fun (o, c) => if a ≤ o && o < b then some c else none)

/-- Read the characters of a trimmed directive, one at a time, updating the directive. `all` is
the directive as given, which the parts are cut from, and `i` the byte offset of the first
character of `cs` in the trimmed text. -/
def scanDirective (all : List Char) : List Char → Nat → Scan → Directive →
    Except DirectiveError (Scan × Directive)
  | [], _, st, d => .ok (st, d)
  | c :: cs, i, st, d =>
    let slice (a : Nat) : String := sliceBytes all a i
    let next (st : Scan) (d : Directive) := scanDirective all cs (i + c.utf8Size) st d
    match st with
    | .start =>
      if c = '[' then next (.span (i + 1)) d
      else if targetStart c then next (.levelOrTarget i) d
      else .error .invalid
    | .levelOrTarget a =>
      if c = '=' then next (.level (i + 1)) { d with target := some (slice a) }
      else if c = '[' then next (.span (i + 1)) { d with target := some (slice a) }
      else next st d
    | .target => if c = '=' then next (.level (i + 1)) d else .error .invalid
    | .span a =>
      if c = ']' then next .target { d with span := some (slice a) }
      else if c = '\x7b' then
        next (.field (i + 1)) { d with span := if slice a = "" then none else some (slice a) }
      else next st d
    | .field a =>
      if c = '\x7d' then
        if slice a = "" then .error .invalid
        else
          let (name, value) := parseField (slice a)
          match value.bind Pattern.valueRefusal? with
          | some reason => .error (.field reason)
          | none => next .fields { d with fields := d.fields ++ [(name, value)] }
      else next st d
    | .fields => if c = ']' then next .target d else .error .invalid
    | .level _ => next st d

/-- Read one directive. -/
def Directive.parse (s : String) : Except DirectiveError Directive := do
  let all := s.toList
  let rest (a : Nat) : String := sliceBytes all a s.utf8ByteSize
  let (st, d) ← scanDirective all (Text.trimWhite all) 0 .start {}
  match st with
  | .levelOrTarget a =>
    match parseLevelFilter? (rest a) with
    | some l => pure { d with target := none, level := l }
    | none => pure { d with target := some (rest a), level := some .trace }
  | .level a =>
    if rest a = "" then pure { d with level := some .trace }
    else
      match parseLevelFilter? (rest a) with
      | some l => pure { d with level := l }
      | none => throw .level
  | .target => pure d
  | _ => throw .invalid

/-- Read comma-separated directives, skipping empty ones: the directives read, and a line for
each one that could not be read. -/
def parseDirectives (s : String) : List Directive × List String :=
  (s.splitOn ",").foldl (fun (ds, notes) part =>
    if part.isEmpty then (ds, notes)
    else
      match Directive.parse part with
      | .ok d => (ds ++ [d], notes)
      | .error e => (ds, notes ++ [s!"ignoring \x60{part}\x60: {e.message}"])) ([], [])

/-- A directive is static when it names no span and matches no field values; only static
directives decide on records outside spans, and this program opens none. -/
def Directive.static (d : Directive) : Bool :=
  d.span.isNone && d.fields.all (·.2.isNone)

/-- The names of the fields a static directive asks for. -/
def Directive.fieldNames (d : Directive) : List String := d.fields.map (·.1)

/-- Whether two directives are the same filter, so that the later one replaces the earlier. -/
def Directive.sameFilter (a b : Directive) : Bool :=
  a.target == b.target && a.fieldNames == b.fieldNames

/-- Whether `a` is tried before `b`: a longer target first (any target before none), then more
fields, then the greater target and field names. -/
def Directive.before (a b : Directive) : Bool :=
  let la : Nat := (a.target.map fun t => t.length + 1).getD 0
  let lb : Nat := (b.target.map fun t => t.length + 1).getD 0
  if la ≠ lb then decide (lb < la)
  else if a.fields.length ≠ b.fields.length then decide (b.fields.length < a.fields.length)
  else if a.target ≠ b.target then decide ((b.target.getD "") < (a.target.getD ""))
  else decide (b.fieldNames.toString < a.fieldNames.toString)

/-- The static directives in force, a later one replacing an earlier one for the same filter,
in the order they are tried. -/
def staticSet (ds : List Directive) : List Directive :=
  let kept := (ds.filter Directive.static).foldl (fun acc d =>
    if acc.any (·.sameFilter d) then acc.map fun e => if e.sameFilter d then d else e
    else acc ++ [d]) []
  kept.mergeSort fun a b => !b.before a

/-- Whether a directive is about a record: the record's target starts with the directive's
target, and the record has every field the directive asks for. -/
def Directive.about (d : Directive) (r : Record) : Bool :=
  (d.target.map fun t => r.target.startsWith t).getD true &&
    d.fieldNames.all fun n => n = "message" || r.fields.any (·.1 = n)

/-- Whether the directives let a record through: the first static directive about it decides. -/
def enabled (ds : List Directive) (r : Record) : Bool :=
  match (staticSet ds).find? (·.about r) with
  | some d => (d.level.map fun l => decide (r.level.rank ≤ l.rank)).getD false
  | none => false

end NetNode.Cli
