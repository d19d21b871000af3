import NetNode.Address.Basic

/-!
# Reading socket addresses

The grammar: `a.b.c.d:port`, where each octet has one to three decimal digits, at most 255
and no leading zero; or `[ip]:port` and `[ip%scope]:port` with a version 6 address of
colon-separated groups of one to four hexadecimal digits, one `::` for a run of zero groups,
and an optional dotted version 4 tail. Ports and scopes are decimal, leading zeros allowed,
up to 65535 and 4294967295. Nothing may follow.
-/

namespace NetNode.Address

/-- The value of a digit in a radix of at most 16 (letters in either case). -/
def digitIn (radix : Nat) (ch : Char) : Option Nat :=
  let v :=
    if '0' ≤ ch ∧ ch ≤ '9' then some (ch.toNat - 48)
    else if 'a' ≤ ch ∧ ch ≤ 'f' then some (ch.toNat - 87)
    else if 'A' ≤ ch ∧ ch ≤ 'F' then some (ch.toNat - 55)
    else none
  v.filter (· < radix)

/-- Read a number: at least one digit, at most `maxDigits` if given, no leading zero unless
`zeroPrefix`, and a value of at most `limit`. -/
def readNumber (radix : Nat) (maxDigits : Option Nat) (zeroPrefix : Bool) (limit : Nat)
    (cs : List Char) : Option (Nat × List Char) :=
  let isDigit := fun ch => (digitIn radix ch).isSome
  let ds := cs.takeWhile isDigit
  let value := ds.foldl (fun acc ch => acc * radix + (digitIn radix ch).getD 0) 0
  if ds.isEmpty then none
  else if maxDigits.any (· < ds.length) then none
  else if !zeroPrefix && ds.head? = some '0' && 1 < ds.length then none
  else if limit < value then none
  else some (value, cs.dropWhile isDigit)

/-- Consume one given character. -/
def expectChar (ch : Char) : List Char → Option (List Char)
  | c :: rest => if c = ch then some rest else none
  | [] => none

/-- Read a dotted version 4 address. -/
def readV4 (cs : List Char) : Option ((Nat × Nat × Nat × Nat) × List Char) := do
  let octet := readNumber 10 (some 3) false 255
  let (a, cs) ← octet cs
  let (b, cs) ← octet (← expectChar '.' cs)
  let (c, cs) ← octet (← expectChar '.' cs)
  let (d, cs) ← octet (← expectChar '.' cs)
  return ((a, b, c, d), cs)

/-- Read up to `room` colon-separated groups; a dotted tail may stand for the last two when
at least two places are left. Returns the groups, whether a dotted tail was read, and the
rest. -/
def readGroups : Nat → Bool → List Char → List Nat × Bool × List Char
  | 0, _, cs => ([], false, cs)
  | n + 1, first, cs =>
    let afterSep := if first then some cs else expectChar ':' cs
    let dotted := if 1 ≤ n then afterSep.bind readV4 else none
    match dotted with
    | some ((a, b, c, d), rest) => ([a * 256 + b, c * 256 + d], true, rest)
    | none =>
      match afterSep.bind (readNumber 16 (some 4) true 65535) with
      | some (g, rest) =>
        let (gs, v, r) := readGroups n false rest
        (g :: gs, v, r)
      | none => ([], false, cs)

/-- Read a version 6 address. -/
def readV6 (cs : List Char) : Option (List Nat × List Char) :=
  let (head, headDotted, cs1) := readGroups 8 true cs
  if head.length = 8 then some (head, cs1)
  else if headDotted then none
  else
    match cs1 with
    | ':' :: ':' :: cs2 =>
      let (tail, _, cs3) := readGroups (8 - (head.length + 1)) true cs2
      some (head ++ List.replicate (8 - head.length - tail.length) 0 ++ tail, cs3)
    | _ => none

/-- Read `:port`. -/
def readPort (cs : List Char) : Option (Nat × List Char) :=
  (expectChar ':' cs).bind (readNumber 10 none true 65535)

/-- Read a version 4 socket address. -/
def readSocketV4 (cs : List Char) : Option (SocketAddress × List Char) := do
  let ((a, b, c, d), cs) ← readV4 cs
  let (port, cs) ← readPort cs
  return (⟨.v4 a b c d, port, 0⟩, cs)

/-- Read a bracketed version 6 socket address. -/
def readSocketV6 (cs : List Char) : Option (SocketAddress × List Char) := do
  let cs ← expectChar '[' cs
  let (gs, cs) ← readV6 cs
  let (scope, cs) := ((expectChar '%' cs).bind (readNumber 10 none true 4294967295)).getD (0, cs)
  let cs ← expectChar ']' cs
  let (port, cs) ← readPort cs
  return (⟨.v6 gs, port, scope⟩, cs)

/-- Read a socket address that is the whole text. -/
def SocketAddress.parse? (text : String) : Option SocketAddress :=
  let cs := text.toList
  match readSocketV4 cs <|> readSocketV6 cs with
  | some (s, []) => some s
  | _ => none

end NetNode.Address
