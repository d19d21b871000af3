/-!
# Reading position and reading faults

A reader walks the characters of a text and counts the bytes it has consumed. A fault is
reported at a byte index: the line is one more than the number of newlines before it, and
the column is the number of bytes between the start of that line and the index. Some faults
are found only once a whole item has been read and are placed later, at the index where the
enclosing item ends (`Failure.index = none` until then). A character that is rejected is
read one byte at a time, so a fault it causes lies just after its first byte.
-/

namespace NetNode.Json

/-- The faults of reading JSON text, each with a fixed message. -/
inductive Fault where
  | eofValue
  | eofList
  | eofObject
  | eofString
  | expectedColon
  | expectedListCommaOrEnd
  | expectedObjectCommaOrEnd
  | expectedIdent
  | expectedValue
  | invalidEscape
  | invalidNumber
  | numberOutOfRange
  | controlInString
  | keyNotString
  | loneLeadingSurrogate
  | trailingComma
  | trailingCharacters
  | hexEscapeEnd
  | recursionLimit
  | custom (message : String)

/-- The message of a fault. -/
def Fault.message : Fault → String
  | .eofValue => "EOF while parsing a value"
  | .eofList => "EOF while parsing a list"
  | .eofObject => "EOF while parsing an object"
  | .eofString => "EOF while parsing a string"
  | .expectedColon => "expected `:`"
  | .expectedListCommaOrEnd => "expected `,` or `]`"
  | .expectedObjectCommaOrEnd => "expected `,` or `\x7d`"
  | .expectedIdent => "expected ident"
  | .expectedValue => "expected value"
  | .invalidEscape => "invalid escape"
  | .invalidNumber => "invalid number"
  | .numberOutOfRange => "number out of range"
  | .controlInString => "control character (\\u0000-\\u001F) found while parsing a string"
  | .keyNotString => "key must be a string"
  | .loneLeadingSurrogate => "lone leading surrogate in hex escape"
  | .trailingComma => "trailing comma"
  | .trailingCharacters => "trailing characters"
  | .hexEscapeEnd => "unexpected end of hex escape"
  | .recursionLimit => "recursion limit exceeded"
  | .custom m => m

/-- A fault together with the byte index it is reported at, once known. -/
structure Failure where
  fault : Fault
  index : Option Nat

/-- Line and column of a byte index of a text. -/
def locate (input : List Char) (index : Nat) : Nat × Nat :=
  let step := fun (acc : Nat × Nat × Nat) (c : Char) =>
    let (offset, line, lineStart) := acc
    if offset < index then
      if c = '\n' then (offset + c.utf8Size, line + 1, offset + 1)
      else (offset + c.utf8Size, line, lineStart)
    else acc
  let (_, line, lineStart) := input.foldl step (0, 1, 0)
  (line, index - lineStart)

/-- The message of a failure, with its line and column once it has a position. -/
def Failure.render (input : List Char) (f : Failure) : String :=
  match f.index with
  | none => f.fault.message
  | some i =>
      let (line, column) := locate input i
      f.fault.message ++ " at line " ++ toString line ++ " column " ++ toString column

/-- Give a failure that has no position yet the position `index`. -/
def Failure.placeAt (index : Nat) (f : Failure) : Failure :=
  match f.index with
  | none => { f with index := some index }
  | some _ => f

/-- The unread characters and the number of bytes read before them. -/
structure Cursor where
  rest : List Char
  index : Nat

namespace Cursor

/-- A cursor at the start of a text. -/
def start (text : String) : Cursor := ⟨text.toList, 0⟩

/-- The next character, if any. -/
def peek? (c : Cursor) : Option Char := c.rest.head?

/-- Consume one character. -/
def bump (c : Cursor) : Cursor :=
  match c.rest with
  | [] => c
  | ch :: tl => ⟨tl, c.index + ch.utf8Size⟩

/-- Whether a character is a blank between tokens. -/
def isBlank (ch : Char) : Bool := ch = ' ' || ch = '\n' || ch = '\t' || ch = '\r'

/-- Skip blanks at the front of a character list whose first character is at `index`. -/
def skipChars : List Char → Nat → Cursor
  | [], i => ⟨[], i⟩
  | ch :: tl, i => if isBlank ch then skipChars tl (i + ch.utf8Size) else ⟨ch :: tl, i⟩

/-- Skip blanks. -/
def skipBlank (c : Cursor) : Cursor := skipChars c.rest c.index

/-- A fault at the current index. -/
def fail (c : Cursor) (f : Fault) : Failure := ⟨f, some c.index⟩

/-- A fault at the index just after the next byte (or at the end). -/
def failAhead (c : Cursor) (f : Fault) : Failure :=
  ⟨f, some (if c.rest.isEmpty then c.index else c.index + 1)⟩

/-- Consume the letters of a keyword after its first letter. -/
def expectWord (c : Cursor) : List Char → Except Failure Cursor
  | [] => .ok c
  | w :: ws =>
    match c.rest with
    | [] => .error (c.fail .eofValue)
    | ch :: tl =>
      let c' : Cursor := ⟨tl, c.index + ch.utf8Size⟩
      if ch = w then expectWord c' ws else .error (c.failAhead .expectedIdent)

theorem bump_length_le (c : Cursor) : c.bump.rest.length ≤ c.rest.length := by
  unfold bump; split <;> simp_all

theorem skipChars_length_le (cs : List Char) (i : Nat) :
    (skipChars cs i).rest.length ≤ cs.length := by
  induction cs generalizing i with
  | nil => simp [skipChars]
  | cons ch tl ih =>
    unfold skipChars
    split
    · have := ih (i + ch.utf8Size); simp; omega
    · simp

theorem skipBlank_length_le (c : Cursor) : c.skipBlank.rest.length ≤ c.rest.length :=
  skipChars_length_le c.rest c.index

end Cursor

end NetNode.Json
