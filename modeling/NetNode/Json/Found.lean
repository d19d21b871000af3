import NetNode.Json.Value
import NetNode.Text.Quote
import NetNode.Decimal.Shortest

/-!
# What a typed reader found

When a typed reader meets a value of the wrong type, or a value out of its range, its message
names what it found and what it expected: `invalid type: string "x", expected usize`.
A number found is written as read: an integer as its digits, a binary64 value in shortest form
with a point or an exponent; a string is quoted with escapes.
-/

namespace NetNode.Json

/-- What a typed reader found instead of what it wanted. -/
inductive Found where
  | null
  | bool (b : Bool)
  | unsigned (n : Nat)
  | signed (i : Int)
  | float (x : Float)
  | str (s : String)
  | seq
  | map
  deriving Inhabited

/-- The text naming what was found. -/
def Found.text : Found → String
  | .null => "null"
  | .bool b => s!"boolean `{b}`"
  | .unsigned n => s!"integer `{n}`"
  | .signed i => s!"integer `{i}`"
  | .float x => s!"floating point `{Decimal.render Decimal.Style.float x}`"
  | .str s => s!"string {Text.Quote.quote s}"
  | .seq => "sequence"
  | .map => "map"

/-- What a number is, as found. -/
def Found.ofNumber : Number → Found
  | .nat n => .unsigned n
  | .neg n => .signed (-(n : Int))
  | .float x => .float x

/-- What a value is, as found. -/
def Found.ofValue : Value → Found
  | .null => .null
  | .bool b => .bool b
  | .num n => .ofNumber n
  | .str s => .str s
  | .arr _ => .seq
  | .obj _ => .map

/-- The message for a value of the wrong type. -/
def invalidType (found : Found) (expected : String) : String :=
  s!"invalid type: {found.text}, expected {expected}"

/-- The message for a value of the right type but out of range. -/
def invalidValue (found : Found) (expected : String) : String :=
  s!"invalid value: {found.text}, expected {expected}"

/-- The message for a sequence of the wrong length. -/
def invalidLength (len : Nat) (expected : String) : String :=
  s!"invalid length {len}, expected {expected}"

/-- The message for a record without a field it needs. -/
def missingField (name : String) : String := s!"missing field `{name}`"

/-- The message for a record that gives a field twice. -/
def duplicateField (name : String) : String := s!"duplicate field `{name}`"

end NetNode.Json
