import NetNode.Json.Found
import NetNode.Address.Parse

/-!
# Typed reading from a JSON value

The same records as from text, read from a value already parsed: an object's members come in
key order and cannot repeat, and no failure has a place. An array longer than the record is
refused after its fields were read.
-/

namespace NetNode.Json

open NetNode.Address

variable {α σ : Type}

/-- A typed reader over JSON values. -/
abbrev TreeReader (α : Type) := Value → Except String α

/-- Read an unsigned integer of at most `limit`; `expected` names the type. -/
def treeUnsigned (expected : String) (limit : Nat) : TreeReader Nat
  | .num (.nat v) => if v ≤ limit then .ok v else .error (invalidValue (.unsigned v) expected)
  | .num (.neg v) => .error (invalidValue (.signed (-(v : Int))) expected)
  | v => .error (invalidType (.ofValue v) expected)

/-- Read a boolean. -/
def treeBoolean : TreeReader Bool
  | .bool b => .ok b
  | v => .error (invalidType (.ofValue v) "a boolean")

/-- Read a string; `expected` names what the string stands for. -/
def treeText (expected : String) : TreeReader String
  | .str s => .ok s
  | v => .error (invalidType (.ofValue v) expected)

/-- Read a socket address written as a string. -/
def treeAddress (v : Value) : Except String SocketAddress := do
  let s ← treeText "socket address" v
  match SocketAddress.parse? s with
  | some a => pure a
  | none => throw "invalid socket address syntax"

/-- Read `null` as nothing, anything else with the given reader. -/
def treeOptional (inner : TreeReader α) : TreeReader (Option α)
  | .null => .ok none
  | v => (inner v).map some

/-- One field of a record read from a value. -/
structure TreeField (σ : Type) where
  name : String
  required : Bool
  read : TreeReader (σ → σ)

/-- Apply the members of an object in order; unknown members are ignored. -/
def treeMembers (fields : List (TreeField σ)) (acc : σ) :
    List (String × Value) → Except String σ
  | [] => .ok acc
  | (k, v) :: rest =>
    match fields.find? (·.name = k) with
    | some f => do treeMembers fields ((← f.read v) acc) rest
    | none => treeMembers fields acc rest

/-- Apply array elements to the fields in order; `count` is the number of fields. -/
def treeElements (what : String) (count : Nat) :
    List (TreeField σ) → Nat → σ → List Value → Except String σ
  | [], _, acc, _ => .ok acc
  | f :: rest, i, acc, [] =>
    if f.required then .error (invalidLength i s!"{what} with {count} elements")
    else treeElements what count rest (i + 1) acc []
  | f :: rest, i, acc, v :: vs => do
    treeElements what count rest (i + 1) ((← f.read v) acc) vs

/-- Read a record named `name` from an object or an array; `init` holds the defaults. -/
def treeRecord (name : String) (fields : List (TreeField σ)) (init : σ) : TreeReader σ
  | .obj members => do
    let v ← treeMembers fields init members
    match fields.find? (fun f => f.required && !members.any (·.1 = f.name)) with
    | some f => throw (missingField f.name)
    | none => pure v
  | .arr items => do
    let v ← treeElements s!"struct {name}" fields.length fields 0 init items
    if items.length ≤ fields.length then pure v
    else throw (invalidLength items.length "fewer elements in array")
  | v => .error (invalidType (.ofValue v) s!"struct {name}")

end NetNode.Json
