/-!
# JSON values

A JSON document as the program reads and writes it. A number is kept the way it was read: a
nonnegative integer of 64 bits, a negative integer of 64 bits, or a binary64 value for every
other number. An object is a list of fields; the reader keeps one field per key, in the order
of their keys.
-/

namespace NetNode.Json

/-- A JSON number as read: `nat` for `0 … 2^64-1`, `neg n` for `-n` down to `-2^63`, and
`float` for everything else. -/
inductive Number where
  | nat (n : Nat)
  | neg (n : Nat)
  | float (x : Float)

/-- A JSON value. -/
inductive Value where
  | null
  | bool (b : Bool)
  | num (n : Number)
  | str (s : String)
  | arr (items : List Value)
  | obj (fields : List (String × Value))

namespace Value

instance : Inhabited Value := ⟨.null⟩

/-- The value of a field of an object: the last field with that key. -/
def field? (v : Value) (key : String) : Option Value :=
  match v with
  | .obj fields => (fields.reverse.find? (·.1 == key)).map (·.2)
  | _ => none

/-- Whether an object has a field with that key. -/
def has (v : Value) (key : String) : Bool := (v.field? key).isSome

/-- The natural number of a value, if it is a nonnegative integer. -/
def asNat? : Value → Option Nat
  | .num (.nat n) => some n
  | _ => none

/-- The integer of a value, if it is an integer. -/
def asInt? : Value → Option Int
  | .num (.nat n) => some n
  | .num (.neg n) => some (-(n : Int))
  | _ => none

/-- The text of a string value. -/
def asString? : Value → Option String
  | .str s => some s
  | _ => none

/-- The truth value of a boolean. -/
def asBool? : Value → Option Bool
  | .bool b => some b
  | _ => none

/-- The items of an array. -/
def asArray? : Value → Option (List Value)
  | .arr xs => some xs
  | _ => none

/-- The fields of an object. -/
def asObject? : Value → Option (List (String × Value))
  | .obj fs => some fs
  | _ => none

/-- Whether the value is `null`. -/
def isNull : Value → Bool
  | .null => true
  | _ => false

/-- A nonnegative integer value. -/
def nat (n : Nat) : Value := .num (.nat n)

/-- An integer value. -/
def int (i : Int) : Value := if 0 ≤ i then .num (.nat i.toNat) else .num (.neg i.natAbs)

/-- A binary64 value. -/
def float (x : Float) : Value := .num (.float x)

end Value

end NetNode.Json
