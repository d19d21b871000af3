import NetNode.Json.Value
import NetNode.Decimal.Shortest

/-!
# Writing JSON text

Two layouts of the same text: `compact` puts no blank anywhere, `pretty` puts every item and
field on a line of its own, indented two spaces per level, with `": "` after a key; an empty
array or object stays `[]` or `{}`. A string is written between quotes with a backslash before
a quote or backslash, the short escapes for backspace, form feed, newline, return and tab,
and `\u00XX` (lowercase) for every other control below U+0020. A binary64 number is written
in its shortest form (`Decimal.Style.float`); one that is not finite is written `null`.
-/

namespace NetNode.Json

/-- The four lowercase hexadecimal digits of a control character's escape. -/
def controlEscape (n : Nat) : List Char :=
  ['\\', 'u', '0', '0', Char.ofNat (48 + n / 16),
    (if n % 16 < 10 then Char.ofNat (48 + n % 16) else Char.ofNat (87 + n % 16))]

/-- How one character of a string is written. -/
def escapeChar (c : Char) : List Char :=
  if c = '"' then ['\\', '"']
  else if c = '\\' then ['\\', '\\']
  else if c = '\x08' then ['\\', 'b']
  else if c = '\x0c' then ['\\', 'f']
  else if c = '\n' then ['\\', 'n']
  else if c = '\r' then ['\\', 'r']
  else if c = '\t' then ['\\', 't']
  else if c.toNat < 0x20 then controlEscape c.toNat
  else [c]

/-- A string literal. -/
def quoted (s : String) : String :=
  String.ofList ('"' :: s.toList.flatMap escapeChar ++ ['"'])

/-- The text of a number. -/
def Number.text : Number → String
  | .nat n => toString n
  | .neg n => "-" ++ toString n
  | .float x => if x.isFinite then Decimal.render Decimal.Style.float x else "null"

mutual

/-- The compact text of a value. -/
def Value.compact : Value → String
  | .null => "null"
  | .bool b => if b then "true" else "false"
  | .num n => n.text
  | .str s => quoted s
  | .arr items => "[" ++ compactItems items ++ "]"
  | .obj fields => "\x7b" ++ compactFields fields ++ "\x7d"

/-- The compact text of array items, separated by commas. -/
def compactItems : List Value → String
  | [] => ""
  | [v] => v.compact
  | v :: rest => v.compact ++ "," ++ compactItems rest

/-- The compact text of object fields, separated by commas. -/
def compactFields : List (String × Value) → String
  | [] => ""
  | [(k, v)] => quoted k ++ ":" ++ v.compact
  | (k, v) :: rest => quoted k ++ ":" ++ v.compact ++ "," ++ compactFields rest

end

/-- The indentation of a nesting level. -/
def indent (level : Nat) : String := String.ofList (List.replicate (2 * level) ' ')

mutual

/-- The indented text of a value whose first line starts at nesting `level`. -/
def Value.prettyAt (level : Nat) : Value → String
  | .arr [] => "[]"
  | .obj [] => "\x7b\x7d"
  | .arr items => "[\n" ++ prettyItems (level + 1) items ++ "\n" ++ indent level ++ "]"
  | .obj fields => "\x7b\n" ++ prettyFields (level + 1) fields ++ "\n" ++ indent level ++ "\x7d"
  | v => v.compact

/-- Array items, one per line. -/
def prettyItems (level : Nat) : List Value → String
  | [] => ""
  | [v] => indent level ++ v.prettyAt level
  | v :: rest => indent level ++ v.prettyAt level ++ ",\n" ++ prettyItems level rest

/-- Object fields, one per line. -/
def prettyFields (level : Nat) : List (String × Value) → String
  | [] => ""
  | [(k, v)] => indent level ++ quoted k ++ ": " ++ v.prettyAt level
  | (k, v) :: rest =>
      indent level ++ quoted k ++ ": " ++ v.prettyAt level ++ ",\n" ++ prettyFields level rest

end

/-- The indented text of a value. -/
def Value.pretty (v : Value) : String := v.prettyAt 0

end NetNode.Json
