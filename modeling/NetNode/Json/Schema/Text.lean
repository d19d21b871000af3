import NetNode.Json.Skip
import NetNode.Json.Found
import NetNode.Address.Parse

/-!
# Typed reading from JSON text

A reader takes a cursor and gives a typed value and the cursor after it. A failure found by a
reader's own check (wrong type, out of range, a missing or repeated field) is placed where the
innermost reader stood when it gave up; a failure of the text itself keeps its own place.

A record is read from an object of named members, in any order, unknown members skipped, or
from an array of its fields in order, missing trailing fields taking their defaults.
-/

namespace NetNode.Json

open NetNode.Address

variable {α σ : Type}

/-- A typed reader over JSON text. -/
abbrev TextReader (α : Type) := Cursor → Except Failure (α × Cursor)

/-- A failure from a reader's own check, not yet placed. -/
def Failure.loose (message : String) : Failure := ⟨.custom message, none⟩

/-- The failure for a value of the wrong type that starts at `c`: the value is read first, so
that a fault inside it wins, and the failure stands after it. -/
def wrongTypeAt (expected : String) (c : Cursor) : Failure :=
  let after (found : Found) (c' : Cursor) : Failure :=
    (Failure.loose (invalidType found expected)).placeAt c'.index
  match c.rest with
  | 'n' :: _ => match c.bump.expectWord "ull".toList with
    | .error e => e
    | .ok c' => after .null c'
  | 't' :: _ => match c.bump.expectWord "rue".toList with
    | .error e => e
    | .ok c' => after (.bool true) c'
  | 'f' :: _ => match c.bump.expectWord "alse".toList with
    | .error e => e
    | .ok c' => after (.bool false) c'
  | '-' :: _ => match readNumber true c.bump with
    | .error e => e
    | .ok (n, c') => after (.ofNumber n) c'
  | '"' :: _ => match readString c.bump with
    | .error e => e
    | .ok (s, c') => after (.str s) c'
  | '[' :: _ => after .seq c
  | '{' :: _ => after .map c
  | ch :: _ =>
    if isDigit ch then
      match readNumber false c with
      | .error e => e
      | .ok (n, c') => after (.ofNumber n) c'
    else c.failAhead .expectedValue
  | [] => c.failAhead .expectedValue

/-- Read an unsigned integer of at most `limit`; `expected` names the type. -/
def readUnsigned (expected : String) (limit : Nat) : TextReader Nat := fun c =>
  let c0 := c.skipBlank
  let check : Number × Cursor → Except Failure (Nat × Cursor) := fun (n, c') =>
    let place (m : String) := Except.error ((Failure.loose m).placeAt c'.index)
    match n with
    | .nat v => if v ≤ limit then .ok (v, c') else place (invalidValue (.unsigned v) expected)
    | .neg v => place (invalidValue (.signed (-(v : Int))) expected)
    | .float x => place (invalidType (.float x) expected)
  match c0.rest with
  | [] => .error (c0.failAhead .eofValue)
  | '-' :: _ => readNumber true c0.bump >>= check
  | ch :: _ =>
    if isDigit ch then readNumber false c0 >>= check else .error (wrongTypeAt expected c0)

/-- Read a boolean. -/
def readBoolean : TextReader Bool := fun c =>
  let c0 := c.skipBlank
  match c0.rest with
  | [] => .error (c0.failAhead .eofValue)
  | 't' :: _ => (c0.bump.expectWord "rue".toList).map (true, ·)
  | 'f' :: _ => (c0.bump.expectWord "alse".toList).map (false, ·)
  | _ => .error (wrongTypeAt "a boolean" c0)

/-- Read a string; `expected` names what the string stands for. -/
def readText (expected : String) : TextReader String := fun c =>
  let c0 := c.skipBlank
  match c0.rest with
  | [] => .error (c0.failAhead .eofValue)
  | '"' :: _ => readString c0.bump
  | _ => .error (wrongTypeAt expected c0)

/-- The message for a string that is no socket address. -/
def badAddressSyntax : String := "invalid socket address syntax"

/-- Read a socket address written as a string. -/
def readAddress : TextReader SocketAddress := fun c => do
  let (s, c') ← readText "socket address" c
  match SocketAddress.parse? s with
  | some a => pure (a, c')
  | none => throw ((Failure.loose badAddressSyntax).placeAt c'.index)

/-- Read `null` as nothing, anything else with the given reader. -/
def readOptional (inner : TextReader α) : TextReader (Option α) := fun c =>
  let c0 := c.skipBlank
  match c0.rest with
  | 'n' :: _ => (c0.bump.expectWord "ull".toList).map (none, ·)
  | _ => (inner c0).map fun (v, c') => (some v, c')

/-- One field of a record read from text: its name, whether it must be given, and a reader of
its value giving the change it makes to the record. -/
structure TextField (σ : Type) where
  name : String
  required : Bool
  read : TextReader (σ → σ)

/-- Where the next member of an object starts: `none` at the closing brace (not consumed), or
the cursor on the key's opening quote. -/
def nextKey (first : Bool) (c : Cursor) : Except Failure (Option Cursor) :=
  let c0 := c.skipBlank
  let atKey (k : Cursor) : Except Failure (Option Cursor) :=
    match k.peek? with
    | some '"' => .ok (some k)
    | some '}' => .error (k.failAhead .trailingComma)
    | some _ => .error (k.failAhead .keyNotString)
    | none => .error (k.failAhead .eofValue)
  match c0.peek? with
  | some '}' => .ok none
  | some ',' => if first then atKey c0 else atKey c0.bump.skipBlank
  | some _ => if first then atKey c0 else .error (c0.failAhead .expectedObjectCommaOrEnd)
  | none => .error (c0.failAhead .eofObject)

/-- Where the next element of an array starts: `none` at the closing bracket (not consumed). -/
def nextElement (first : Bool) (c : Cursor) : Except Failure (Option Cursor) :=
  let c0 := c.skipBlank
  let atElement (e : Cursor) : Except Failure (Option Cursor) :=
    match e.peek? with
    | some ']' => .error (e.failAhead .trailingComma)
    | some _ => .ok (some e)
    | none => .error (e.failAhead .eofValue)
  match c0.peek? with
  | some ']' => .ok none
  | some ',' => if first then atElement c0 else atElement c0.bump.skipBlank
  | some _ => if first then atElement c0 else .error (c0.failAhead .expectedListCommaOrEnd)
  | none => .error (c0.failAhead .eofList)

/-- Consume the colon after a key. -/
def objectColon (c : Cursor) : Except Failure Cursor :=
  let c0 := c.skipBlank
  match c0.peek? with
  | some ':' => .ok c0.bump
  | some _ => .error (c0.failAhead .expectedColon)
  | none => .error (c0.failAhead .eofObject)

/-- The end of an object after its members: the closing brace, consumed; the cursor is also
given when the end is wrong, for placing an earlier loose failure. -/
def closeObject (c : Cursor) : Cursor × Option Failure :=
  let c0 := c.skipBlank
  match c0.peek? with
  | some '}' => (c0.bump, none)
  | some ',' => (c0, some (c0.failAhead .trailingComma))
  | some _ => (c0, some (c0.failAhead .trailingCharacters))
  | none => (c0, some (c0.failAhead .eofObject))

/-- The end of an array after its elements: the closing bracket, consumed. -/
def closeArray (c : Cursor) : Cursor × Option Failure :=
  let c0 := c.skipBlank
  match c0.peek? with
  | some ']' => (c0.bump, none)
  | some ',' =>
    let c1 := c0.bump.skipBlank
    match c1.peek? with
    | some ']' => (c1, some (c1.failAhead .trailingComma))
    | _ => (c1, some (c1.failAhead .trailingCharacters))
  | some _ => (c0, some (c0.failAhead .trailingCharacters))
  | none => (c0, some (c0.failAhead .eofList))

/-- A failure in a record body: a placed one, or a loose one with the cursor where it arose. -/
inductive BodyFailure where
  | placed (f : Failure)
  | loose (message : String) (at_ : Cursor)

/-- Members of an object, after its opening brace, up to (not through) the closing brace.
`seen` lists the names already given. -/
def readMembers (fields : List (TextField σ)) (first : Bool) (seen : List String) (acc : σ)
    (c : Cursor) : Except BodyFailure (σ × List String × Cursor) :=
  match nextKey first c with
  | .error f => .error (.placed f)
  | .ok none => .ok (acc, seen, c.skipBlank)
  | .ok (some k) =>
    match readString k.bump with
    | .error f => .error (.placed f)
    | .ok (key, c2) =>
      match fields.find? (·.name = key) with
      | some field =>
        if seen.contains key then .error (.loose (duplicateField key) c2)
        else
          match objectColon c2 >>= field.read with
          | .error f => .error (.placed f)
          | .ok (change, c3) =>
            if _h : c3.rest.length < c.rest.length then
              readMembers fields false (key :: seen) (change acc) c3
            else .error (.placed (c3.failAhead .eofObject))
      | none =>
        match objectColon c2 >>= skipValue with
        | .error f => .error (.placed f)
        | .ok c3 =>
          if _h : c3.rest.length < c.rest.length then readMembers fields false seen acc c3
          else .error (.placed (c3.failAhead .eofObject))
termination_by c.rest.length

/-- Fields of a record given as an array, in order, after the opening bracket; `count` is
how many fields the record has, for the message when a needed one is missing. -/
def readElements (what : String) (count : Nat) :
    List (TextField σ) → Nat → Bool → σ → Cursor → Except BodyFailure (σ × Cursor)
  | [], _, _, acc, c => .ok (acc, c)
  | field :: rest, i, first, acc, c =>
    match nextElement first c with
    | .error f => .error (.placed f)
    | .ok none =>
      if field.required then
        .error (.loose (invalidLength i s!"{what} with {count} elements") c.skipBlank)
      else readElements what count rest (i + 1) first acc c
    | .ok (some e) =>
      match field.read e with
      | .error f => .error (.placed f)
      | .ok (change, c') => readElements what count rest (i + 1) false (change acc) c'

/-- Read a record named `name` from an object or an array; `init` holds the defaults. -/
def readRecord (name : String) (fields : List (TextField σ)) (init : σ) : TextReader σ :=
  fun c =>
  let what := s!"struct {name}"
  let finish (body : Except BodyFailure (σ × Cursor))
      (close : Cursor → Cursor × Option Failure) : Except Failure (σ × Cursor) :=
    match body with
    | .error (.placed f) => .error f
    | .error (.loose m at_) => .error ((Failure.loose m).placeAt (close at_).1.index)
    | .ok (v, c') =>
      match close c' with
      | (c'', none) => .ok (v, c'')
      | (_, some f) => .error f
  let c0 := c.skipBlank
  match c0.rest with
  | [] => .error (c0.failAhead .eofValue)
  | '{' :: _ =>
    let body := (readMembers fields true [] init c0.bump).bind fun (v, seen, c') =>
      match fields.find? (fun f => f.required && !seen.contains f.name) with
      | some f => .error (.loose (missingField f.name) c')
      | none => .ok (v, c')
    finish body closeObject
  | '[' :: _ => finish (readElements what fields.length fields 0 true init c0.bump) closeArray
  | _ => .error (wrongTypeAt what c0)

end NetNode.Json
