import NetNode.Json.Cursor
import NetNode.Json.Value

/-!
# Numbers and strings of JSON text

A number is read the way the program's reader reads it. Its digits are folded into a 64-bit
significand; a digit that would overflow it ends the folding, and the digits after it only
count towards the power of ten. An integer without point or exponent that fits stays an
integer (`Number.nat` or `Number.neg`; `-0` is the binary64 value `-0.0`). Every other number
becomes binary64 as `s · 10^e` computed by one rounded multiplication or division of the
rounded significand by the rounded power of ten, repeated in steps of `10^308` for far
exponents; an exponent that makes the value infinite is refused as out of range.

A string is read up to its closing quote. The escapes `\" \\ \/ \b \f \n \r \t` stand for
one character each, `\uXXXX` for a code point, and two such escapes for a surrogate pair. A
control character below U+0020 is refused, and so is a surrogate without its partner.
-/

namespace NetNode.Json

/-- Whether a character is a decimal digit. -/
def isDigit (ch : Char) : Bool := '0' ≤ ch && ch ≤ '9'

/-- The value of a decimal digit. -/
def digitVal (ch : Char) : Nat := ch.toNat - 48

/-- The largest 64-bit unsigned integer. -/
def u64Max : Nat := 18446744073709551615

/-- The largest 32-bit signed integer. -/
def i32Max : Nat := 2147483647

/-- Whether `acc * 10 + d` would exceed `limit`. -/
def overflows (acc d limit : Nat) : Bool :=
  acc ≥ limit / 10 && (acc > limit / 10 || d > limit % 10)

/-- The binary64 value nearest to `10^i`, ties to even. -/
def tenPowFloat (i : Nat) : Float :=
  let p := Nat.pow 5 i
  let bits := p.log2 + 1
  if bits ≤ 53 then p.toUInt64.toFloat.scaleB i
  else
    let shift := bits - 53
    let q := p >>> shift
    let r := p - (q <<< shift)
    let half := 1 <<< (shift - 1)
    let q := if r > half || (r == half && q % 2 == 1) then q + 1 else q
    q.toUInt64.toFloat.scaleB (i + shift)

/-- `f · 10^e` by the reader's rule, or `none` when it overflows. -/
def scaleTen (f : Float) (e : Int) : Option Float :=
  if e.natAbs ≤ 308 then
    if 0 ≤ e then
      let g := f * tenPowFloat e.toNat
      if g.isInf then none else some g
    else some (f / tenPowFloat e.natAbs)
  else if f == 0 then some f
  else if 0 ≤ e then none
  else scaleTen (f / tenPowFloat 308) (e + 308)
termination_by e.natAbs
decreasing_by omega

/-- Clamp an integer to the 32-bit signed range. -/
def clampI32 (e : Int) : Int := max (-2147483648) (min 2147483647 e)

/-- The binary64 value of `±significand · 10^exponent`, or a fault at the cursor. -/
def fromParts (negative : Bool) (significand : Nat) (exponent : Int) (c : Cursor) :
    Except Failure (Float × Cursor) :=
  match scaleTen significand.toUInt64.toFloat exponent with
  | none => .error (c.fail .numberOutOfRange)
  | some f => .ok (if negative then -f else f, c)

/-- Fold digits into a significand while it stays within 64 bits. Returns the significand,
whether a digit was left because it would overflow, and the cursor at the first digit left. -/
def scanSignificand : List Char → Nat → Nat → Nat × Bool × Cursor
  | [], i, acc => (acc, false, ⟨[], i⟩)
  | ch :: tl, i, acc =>
    if isDigit ch then
      if overflows acc (digitVal ch) u64Max then (acc, true, ⟨ch :: tl, i⟩)
      else scanSignificand tl (i + 1) (acc * 10 + digitVal ch)
    else (acc, false, ⟨ch :: tl, i⟩)

/-- Consume digits and count them. -/
def countDigits : List Char → Nat → Nat → Nat × Cursor
  | [], i, n => (n, ⟨[], i⟩)
  | ch :: tl, i, n => if isDigit ch then countDigits tl (i + 1) (n + 1) else (n, ⟨ch :: tl, i⟩)

/-- Fold fraction digits into the significand; returns the significand, how many digits were
folded, whether one was left because it would overflow, and the cursor after the scan. -/
def scanFraction : List Char → Nat → Nat → Nat → Nat × Nat × Bool × Cursor
  | [], i, acc, n => (acc, n, false, ⟨[], i⟩)
  | ch :: tl, i, acc, n =>
    if isDigit ch then
      if overflows acc (digitVal ch) u64Max then (acc, n, true, ⟨ch :: tl, i⟩)
      else scanFraction tl (i + 1) (acc * 10 + digitVal ch) (n + 1)
    else (acc, n, false, ⟨ch :: tl, i⟩)

/-- Fold exponent digits while they stay within 32 signed bits. Returns the exponent,
whether a digit overflowed (that digit is consumed), and the cursor. -/
def scanExponent : List Char → Nat → Nat → Nat × Bool × Cursor
  | [], i, acc => (acc, false, ⟨[], i⟩)
  | ch :: tl, i, acc =>
    if isDigit ch then
      if overflows acc (digitVal ch) i32Max then (acc, true, ⟨tl, i + 1⟩)
      else scanExponent tl (i + 1) (acc * 10 + digitVal ch)
    else (acc, false, ⟨ch :: tl, i⟩)

/-- Read an exponent starting at `e` or `E`, then build the value. -/
def readExponent (negative : Bool) (significand : Nat) (start : Int) (c : Cursor) :
    Except Failure (Float × Cursor) :=
  let c := c.bump
  let (positiveExp, c) : Bool × Cursor := match c.peek? with
    | some '+' => (true, c.bump)
    | some '-' => (false, c.bump)
    | _ => (true, c)
  match c.rest with
  | [] => .error (c.fail .eofValue)
  | ch :: tl =>
    let c1 : Cursor := ⟨tl, c.index + ch.utf8Size⟩
    if !isDigit ch then .error (c.failAhead .invalidNumber)
    else
      let (exp, overflowed, c2) := scanExponent tl c1.index (digitVal ch)
      if overflowed then
        if significand ≠ 0 && positiveExp then .error (c2.fail .numberOutOfRange)
        else
          let (_, c3) := countDigits c2.rest c2.index 0
          .ok (if negative then -0.0 else 0.0, c3)
      else
        let final := if positiveExp then clampI32 (start + exp) else clampI32 (start - exp)
        fromParts negative significand final c2

/-- Read a fraction starting at the point, then an optional exponent. -/
def readFraction (negative : Bool) (significand : Nat) (before : Int) (c : Cursor) :
    Except Failure (Float × Cursor) :=
  let c := c.bump
  let (sig, folded, overflowed, c1) := scanFraction c.rest c.index significand 0
  let exp := before - folded
  if overflowed then
    let (_, c2) := countDigits c1.rest c1.index 0
    match c2.peek? with
    | some 'e' | some 'E' => readExponent negative sig exp c2
    | _ => fromParts negative sig exp c2
  else if folded = 0 then
    match c1.peek? with
    | some _ => .error (c1.failAhead .invalidNumber)
    | none => .error (c1.failAhead .eofValue)
  else
    match c1.peek? with
    | some 'e' | some 'E' => readExponent negative sig exp c1
    | _ => fromParts negative sig exp c1

/-- The rest of a number after its integer digits. -/
def finishNumber (negative : Bool) (significand : Nat) (c : Cursor) :
    Except Failure (Number × Cursor) :=
  match c.peek? with
  | some '.' => (readFraction negative significand 0 c).map fun (f, c) => (.float f, c)
  | some 'e' | some 'E' => (readExponent negative significand 0 c).map fun (f, c) => (.float f, c)
  | _ =>
    if !negative then .ok (.nat significand, c)
    else if significand = 0 then .ok (.float (-0.0), c)
    else if significand ≤ Nat.pow 2 63 then .ok (.neg significand, c)
    else .ok (.float (-significand.toUInt64.toFloat), c)

/-- The rest of a number whose integer part overflowed 64 bits at the cursor. -/
def finishLong (negative : Bool) (significand : Nat) (c : Cursor) :
    Except Failure (Float × Cursor) :=
  let (extra, c1) := countDigits c.rest c.index 0
  match c1.peek? with
  | some '.' => readFraction negative significand extra c1
  | some 'e' | some 'E' => readExponent negative significand extra c1
  | _ => fromParts negative significand extra c1

/-- Read a number whose minus sign, if any, was already consumed. -/
def readNumber (negative : Bool) (c : Cursor) : Except Failure (Number × Cursor) :=
  match c.rest with
  | [] => .error (c.fail .eofValue)
  | ch :: tl =>
    let c1 : Cursor := ⟨tl, c.index + ch.utf8Size⟩
    if ch = '0' then
      match c1.peek? with
      | some d => if isDigit d then .error (c1.failAhead .invalidNumber)
        else finishNumber negative 0 c1
      | none => finishNumber negative 0 c1
    else if isDigit ch then
      let (sig, overflowed, c2) := scanSignificand tl c1.index (digitVal ch)
      if overflowed then (finishLong negative sig c2).map fun (f, c) => (.float f, c)
      else finishNumber negative sig c2
    else .error (c.failAhead .invalidNumber)

/-- Skip an exponent starting at `e` or `E`. -/
def skipExponent (c : Cursor) : Except Failure Cursor :=
  let c := c.bump
  let c := match c.peek? with
    | some '+' | some '-' => c.bump
    | _ => c
  match c.rest with
  | [] => .error (c.fail .invalidNumber)
  | ch :: tl =>
    let c1 : Cursor := ⟨tl, c.index + ch.utf8Size⟩
    if isDigit ch then .ok (countDigits tl c1.index 0).2 else .error (c.failAhead .invalidNumber)

/-- Skip a fraction starting at the point. -/
def skipFraction (c : Cursor) : Except Failure Cursor :=
  let c := c.bump
  let (n, c1) := countDigits c.rest c.index 0
  if n = 0 then .error (c1.failAhead .invalidNumber)
  else match c1.peek? with
    | some 'e' | some 'E' => skipExponent c1
    | _ => .ok c1

/-- Skip what may follow the integer digits of a number. -/
def skipNumberTail (c : Cursor) : Except Failure Cursor :=
  match c.peek? with
  | some '.' => skipFraction c
  | some 'e' | some 'E' => skipExponent c
  | _ => .ok c

/-- Skip a number whose minus sign, if any, was already consumed. -/
def skipNumber (c : Cursor) : Except Failure Cursor :=
  match c.rest with
  | [] => .error (c.fail .invalidNumber)
  | ch :: tl =>
    let c1 : Cursor := ⟨tl, c.index + ch.utf8Size⟩
    if ch = '0' then
      match c1.peek? with
      | some d => if isDigit d then .error (c1.failAhead .invalidNumber) else skipNumberTail c1
      | none => skipNumberTail c1
    else if isDigit ch then skipNumberTail (countDigits tl c1.index 0).2
    else .error (c.failAhead .invalidNumber)

/-- The value of a hexadecimal digit. -/
def hexVal? (ch : Char) : Option Nat :=
  if '0' ≤ ch ∧ ch ≤ '9' then some (ch.toNat - 48)
  else if 'a' ≤ ch ∧ ch ≤ 'f' then some (ch.toNat - 87)
  else if 'A' ≤ ch ∧ ch ≤ 'F' then some (ch.toNat - 55)
  else none

/-- The four bytes of a `\u` escape as a number. Fewer than four bytes left is the end of
the text inside a string; four bytes that are not hexadecimal digits are a bad escape,
reported after them. -/
def readHex4 (c : Cursor) : Except Failure (Nat × Cursor) :=
  match c.rest with
  | a :: b :: d :: e :: tl =>
    match hexVal? a, hexVal? b, hexVal? d, hexVal? e with
    | some w, some x, some y, some z => .ok (((w * 16 + x) * 16 + y) * 16 + z, ⟨tl, c.index + 4⟩)
    | _, _, _, _ => .error ⟨.invalidEscape, some (c.index + 4)⟩
  | short =>
    let bytes := short.foldl (fun n ch => n + ch.utf8Size) 0
    if bytes ≥ 4 then .error ⟨.invalidEscape, some (c.index + 4)⟩
    else .error ⟨.eofString, some (c.index + bytes)⟩

/-- The character of a `\u` escape, reading the second half of a surrogate pair if needed. -/
def readUnicode (c : Cursor) : Except Failure (Char × Cursor) := do
  let (n, c) ← readHex4 c
  if 0xDC00 ≤ n ∧ n ≤ 0xDFFF then throw (c.fail .loneLeadingSurrogate)
  if n < 0xD800 ∨ 0xDBFF < n then return (Char.ofNat n, c)
  match c.rest with
  | [] => throw (c.fail .eofString)
  | ch :: tl =>
    if ch ≠ '\\' then throw ⟨.hexEscapeEnd, some (c.index + 1)⟩
    let c : Cursor := ⟨tl, c.index + 1⟩
    match c.rest with
    | [] => throw (c.fail .eofString)
    | ch2 :: tl2 =>
      if ch2 ≠ 'u' then throw ⟨.hexEscapeEnd, some (c.index + 1)⟩
      let (n2, c) ← readHex4 ⟨tl2, c.index + 1⟩
      if n2 < 0xDC00 ∨ 0xDFFF < n2 then throw (c.fail .loneLeadingSurrogate)
      return (Char.ofNat ((((n - 0xD800) <<< 10) ||| (n2 - 0xDC00)) + 0x10000), c)

/-- The character of an escape whose backslash was consumed. -/
def readEscape (c : Cursor) : Except Failure (Char × Cursor) :=
  match c.rest with
  | [] => .error (c.fail .eofString)
  | ch :: tl =>
    let c1 : Cursor := ⟨tl, c.index + ch.utf8Size⟩
    match ch with
    | '"' => .ok ('"', c1)
    | '\\' => .ok ('\\', c1)
    | '/' => .ok ('/', c1)
    | 'b' => .ok ('\x08', c1)
    | 'f' => .ok ('\x0c', c1)
    | 'n' => .ok ('\n', c1)
    | 'r' => .ok ('\r', c1)
    | 't' => .ok ('\t', c1)
    | 'u' => readUnicode c1
    | _ => .error (c.failAhead .invalidEscape)

/-- Read the characters of a string up to its closing quote, which is consumed. -/
def readStringBody (acc : List Char) (c : Cursor) : Except Failure (String × Cursor) :=
  match _h : c.rest with
  | [] => .error (c.fail .eofString)
  | ch :: tl =>
    let c1 : Cursor := ⟨tl, c.index + ch.utf8Size⟩
    if ch = '"' then .ok (String.ofList acc.reverse, c1)
    else if ch = '\\' then
      match readEscape c1 with
      | .error e => .error e
      | .ok (e, c2) =>
        if _hc : c2.rest.length < c.rest.length then readStringBody (e :: acc) c2
        else .error (c2.fail .eofString)
    else if ch.toNat < 0x20 then .error (c1.fail .controlInString)
    else readStringBody (ch :: acc) c1
termination_by c.rest.length
decreasing_by all_goals simp_all

/-- Read a string whose opening quote was consumed. -/
def readString (c : Cursor) : Except Failure (String × Cursor) := readStringBody [] c

/-- Skip the rest of a string whose opening quote was consumed, checking its escapes. -/
def skipString (c : Cursor) : Except Failure Cursor :=
  match _h : c.rest with
  | [] => .error (c.fail .eofString)
  | ch :: tl =>
    let c1 : Cursor := ⟨tl, c.index + ch.utf8Size⟩
    if ch = '"' then .ok c1
    else if ch = '\\' then
      match _h2 : tl with
      | [] => .error (c1.fail .eofString)
      | e :: tl2 =>
        let c2 : Cursor := ⟨tl2, c1.index + e.utf8Size⟩
        if e = '"' ∨ e = '\\' ∨ e = '/' ∨ e = 'b' ∨ e = 'f' ∨ e = 'n' ∨ e = 'r' ∨ e = 't' then
          skipString c2
        else if e = 'u' then
          match readHex4 c2 with
          | .error f => .error f
          | .ok (_, c3) =>
            if _hc : c3.rest.length < c.rest.length then skipString c3
            else .error (c3.fail .eofString)
        else .error (c1.failAhead .invalidEscape)
    else if ch.toNat < 0x20 then .error (c.fail .controlInString)
    else skipString c1
termination_by c.rest.length
decreasing_by all_goals simp_all; try omega

end NetNode.Json
