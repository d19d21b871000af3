import NetNode.Text.Classes

/-!
# Field value patterns

A filter directive can ask for a field's value. A value that reads as a boolean, an unsigned or
signed 64-bit integer or a floating point number is compared as that; any other value is a
regular expression, compiled into a deterministic automaton when the directive is read.

The automaton is built without the Unicode tables. So besides the patterns that do not parse,
it refuses, in Unicode mode (the default), case-insensitive matching of any literal or class,
the Perl classes `\d`, `\s`, `\w` and their negations, and every Unicode property class.
Outside Unicode mode a pattern must still match valid UTF-8 only, so `.`, a class with a byte
from `0x80` up, `\D`, `\S`, `\W` and `\xHH` from `\x80` up are refused. These all fail while the
states of the automaton are being built. A word boundary in Unicode mode is built, but the
deterministic automaton cannot decide it, and is refused for that.

The grammar read:

* an alternation of sequences separated by `|`; a sequence of items, each optionally repeated
  by `*`, `+`, `?` or a count `{n}`, `{n,}`, `{n,m}` (`n ≤ m`, both below `2^32`), each
  optionally lazy with a following `?`; a repetition needs something before it to repeat, and a
  flag setting does not count;
* groups `(…)`, named groups `(?P<name>…)` and `(?<name>…)` with distinct names, flag groups
  `(?flags:…)` and flag settings `(?flags)`, the flags among `i m s U u x R`, each at most once,
  with at most one `-` that must have a flag after it; look-around is not supported;
* `.`, `^`, `$`, and literal characters;
* escapes: a meta character or any other ASCII punctuation but `<` and `>`; `\a \f \t \n \r \v`;
  `\xHH`, `\uHHHH`, `\UHHHHHHHH` and their braced forms `\x{H…}` naming a Unicode scalar value;
  `\A`, `\z`, the word boundaries `\b`, `\B`, `\<`, `\>` and `\b{start}`, `\b{end}`,
  `\b{start-half}`, `\b{end-half}`; the Perl classes; `\p` and `\P`; a digit would be a back
  reference, which is not supported;
* bracketed classes `[…]`, optionally negated by `^`, where leading `-` and a first `]` are
  literal; items are literal characters, escapes other than assertions, ranges `a-z` between
  literals in increasing order, nested classes, the ASCII classes `[:name:]` and `[:^name:]`,
  and the set operations `&&`, `--` and `~~`, applied from left to right;
* in extended mode (`x`) white space and comments from `#` to the end of the line are skipped.
-/

namespace NetNode.Cli.Pattern

open NetNode.Text

/-- Why a pattern cannot become an automaton. -/
inductive Refusal where
  /-- The pattern does not parse, or needs tables the automaton is built without. -/
  | states
  /-- The pattern asks for a Unicode word boundary. -/
  | wordBoundary
  deriving DecidableEq, Inhabited, Repr

/-- The text of a refusal. -/
def Refusal.message : Refusal → String
  | .states => "error building NFA"
  | .wordBoundary =>
    "unsupported regex feature for DFAs: cannot build DFAs for regexes with Unicode word " ++
      "boundaries; switch to ASCII word boundaries, or heuristically enable Unicode word " ++
      "boundaries or use a different regex engine"

/-! ### Sets of bytes -/

/-- Every byte, as a set: bit `b` of a set stands for byte `b`. -/
def allBytes : Nat := Nat.pow 2 256 - 1

/-- The bytes from `lo` to `hi`. -/
def byteRange (lo hi : Nat) : Nat := (Nat.pow 2 (hi + 1) - 1) - (Nat.pow 2 lo - 1)

/-- The bytes not in a set. -/
def complement (s : Nat) : Nat := allBytes ^^^ (s &&& allBytes)

/-- Whether a set holds ASCII bytes only. -/
def asciiOnly (s : Nat) : Bool := s < Nat.pow 2 128

/-- The bytes of several ranges. -/
def byteRanges (rs : List (Nat × Nat)) : Nat := rs.foldl (fun s r => s ||| byteRange r.1 r.2) 0

/-- The ASCII digits. -/
def digitBytes : Nat := byteRange 0x30 0x39

/-- The ASCII white space: tab, line feed, vertical tab, form feed, carriage return, space. -/
def spaceBytes : Nat := byteRanges [(0x09, 0x0D), (0x20, 0x20)]

/-- The ASCII word characters: digits, letters and the underscore. -/
def wordBytes : Nat := byteRanges [(0x30, 0x39), (0x41, 0x5A), (0x5F, 0x5F), (0x61, 0x7A)]

/-- The bytes of an ASCII class `[:name:]`. -/
def asciiClass? (name : String) : Option Nat :=
  match name with
  | "alnum" => some (byteRanges [(0x30, 0x39), (0x41, 0x5A), (0x61, 0x7A)])
  | "alpha" => some (byteRanges [(0x41, 0x5A), (0x61, 0x7A)])
  | "ascii" => some (byteRange 0x00 0x7F)
  | "blank" => some (byteRanges [(0x09, 0x09), (0x20, 0x20)])
  | "cntrl" => some (byteRanges [(0x00, 0x1F), (0x7F, 0x7F)])
  | "digit" => some digitBytes
  | "graph" => some (byteRange 0x21 0x7E)
  | "lower" => some (byteRange 0x61 0x7A)
  | "print" => some (byteRange 0x20 0x7E)
  | "punct" => some (byteRanges [(0x21, 0x2F), (0x3A, 0x40), (0x5B, 0x60), (0x7B, 0x7E)])
  | "space" => some spaceBytes
  | "upper" => some (byteRange 0x41 0x5A)
  | "word" => some wordBytes
  | "xdigit" => some (byteRanges [(0x30, 0x39), (0x41, 0x46), (0x61, 0x66)])
  | _ => none

/-! ### Escapes -/

/-- The flags that decide whether a pattern compiles: Unicode mode, case-insensitive matching
and extended mode. -/
structure Flags where
  unicode : Bool := true
  caseless : Bool := false
  spaced : Bool := false
  deriving DecidableEq, Inhabited, Repr

/-- What an escape stands for: a literal character (`byte` when written `\xHH`, which outside
Unicode mode is a byte), a Perl class with its ASCII bytes, or an assertion (`word` for a word
boundary). -/
inductive Escape where
  | literal (c : Char) (byte : Bool)
  | perl (bytes : Nat) (negated : Bool)
  | assertion (word : Bool)
  deriving DecidableEq, Inhabited, Repr

/-- The value of a hexadecimal digit. -/
def hexDigit? (c : Char) : Option Nat :=
  if c.isDigit then some (c.toNat - 48)
  else if 'a' ≤ c && c ≤ 'f' then some (c.toNat - 87)
  else if 'A' ≤ c && c ≤ 'F' then some (c.toNat - 55)
  else none

/-- The value of hexadecimal digits, none if one is not a digit. -/
def hexValue? (ds : List Char) : Option Nat :=
  ds.foldl (fun acc c => acc.bind fun a => (hexDigit? c).map (a * 16 + ·)) (some 0)

/-- Whether a number is a Unicode scalar value. -/
def scalar (n : Nat) : Bool := n < 0xD800 || (0xDFFF < n && n < 0x110000)

/-- Read the rest of a hexadecimal escape after `x`, `u` or `U`: braced digits, or exactly 2, 4
or 8 digits. -/
def hexEscape (kind : Char) (cs : List Char) : Except Refusal (Escape × List Char) :=
  match cs with
  | '\x7b' :: rest =>
    let ds := rest.takeWhile (· ≠ '\x7d')
    match rest.dropWhile (· ≠ '\x7d') with
    | _ :: after =>
      match hexValue? ds with
      | some n => if !ds.isEmpty && scalar n then .ok (.literal (Char.ofNat n) false, after)
                  else .error .states
      | none => .error .states
    | [] => .error .states
  | _ =>
    let width := if kind = 'x' then 2 else if kind = 'u' then 4 else 8
    let ds := cs.take width
    match hexValue? ds with
    | some n =>
      if ds.length = width && scalar n then .ok (.literal (Char.ofNat n) (kind = 'x'), cs.drop width)
      else .error .states
    | none => .error .states

/-- The meta characters, which an escape makes literal. -/
def metaChar (c : Char) : Bool := "\\.+*?()|[]\x7b\x7d^$#&-~".contains c

/-- Whether an escaped character stands for itself: a meta character, or ASCII that is neither
a letter, a digit, `<` nor `>`. -/
def escapeable (c : Char) : Bool :=
  metaChar c || (c.toNat < 128 && !c.isAlphanum && c ≠ '<' && c ≠ '>')

/-- The names of the special word boundaries `\b{name}`. -/
def boundaryNames : List String := ["start", "end", "start-half", "end-half"]

/-- Read what follows `\b`: a special word boundary in braces when the brace holds a letter or
`-`, otherwise the plain word boundary, leaving a brace to be read as a count. -/
def wordBoundaryEscape (cs : List Char) : Except Refusal (Escape × List Char) :=
  let nameChar (c : Char) : Bool := c.isAlpha || c = '-'
  match cs with
  | '\x7b' :: rest =>
    match rest with
    | [] => .error .states
    | c :: _ =>
      if !nameChar c then .ok (.assertion true, cs)
      else
        match rest.dropWhile nameChar with
        | '\x7d' :: after =>
          if boundaryNames.contains (String.ofList (rest.takeWhile nameChar)) then
            .ok (.assertion true, after)
          else .error .states
        | _ => .error .states
  | _ => .ok (.assertion true, cs)

/-- Read an escape, given what follows the backslash. -/
def escape : List Char → Except Refusal (Escape × List Char)
  | [] => .error .states
  | c :: rest =>
    if c.isDigit then .error .states
    else if c = 'x' || c = 'u' || c = 'U' then hexEscape c rest
    else if c = 'p' || c = 'P' then .error .states
    else if c = 'd' then .ok (.perl digitBytes false, rest)
    else if c = 'D' then .ok (.perl digitBytes true, rest)
    else if c = 's' then .ok (.perl spaceBytes false, rest)
    else if c = 'S' then .ok (.perl spaceBytes true, rest)
    else if c = 'w' then .ok (.perl wordBytes false, rest)
    else if c = 'W' then .ok (.perl wordBytes true, rest)
    else if escapeable c then .ok (.literal c false, rest)
    else if c = 'a' then .ok (.literal '\x07' false, rest)
    else if c = 'f' then .ok (.literal '\x0c' false, rest)
    else if c = 't' then .ok (.literal '\t' false, rest)
    else if c = 'n' then .ok (.literal '\n' false, rest)
    else if c = 'r' then .ok (.literal '\r' false, rest)
    else if c = 'v' then .ok (.literal '\x0b' false, rest)
    else if c = 'A' || c = 'z' then .ok (.assertion false, rest)
    else if c = 'b' then wordBoundaryEscape rest
    else if c = 'B' || c = '<' || c = '>' then .ok (.assertion true, rest)
    else .error .states

/-- Whether a literal can be matched under the flags: in Unicode mode not case-insensitively;
outside it, a byte must be ASCII, and so must a character matched case-insensitively. -/
def literalOk (fl : Flags) (c : Char) (byte : Bool) : Bool :=
  if fl.unicode then !fl.caseless
  else if byte then c.toNat < 128
  else !fl.caseless || c.toNat < 128

/-- Skip the white space and comments of extended mode; `comment` says whether a comment is
open. -/
def skipIgnored : Bool → List Char → List Char
  | _, [] => []
  | true, c :: rest => if c = '\n' then skipIgnored false rest else skipIgnored true rest
  | false, c :: rest =>
    if whiteSpace c then skipIgnored false rest
    else if c = '#' then skipIgnored true rest
    else c :: rest

/-- What extended mode skips, when it is on. -/
def skipping (fl : Flags) (cs : List Char) : List Char :=
  if fl.spaced then skipIgnored false cs else cs

/-! ### Classes -/

/-- A set operation between the parts of a class. -/
inductive SetOp where
  | inter
  | diff
  | symm
  deriving DecidableEq, Inhabited, Repr

/-- Apply a pending operation to its right-hand side. -/
def SetOp.combine : Option (SetOp × Nat) → Nat → Nat
  | none, rhs => rhs
  | some (.inter, lhs), rhs => lhs &&& rhs
  | some (.diff, lhs), rhs => lhs &&& complement rhs
  | some (.symm, lhs), rhs => lhs ^^^ rhs

/-- Read an ASCII class after the `[` of `[:name:]`, none when the text is not one. -/
def asciiItem? (cs : List Char) : Option (Nat × List Char) :=
  match cs with
  | ':' :: rest =>
    let (negated, rest) := match rest with
      | '^' :: r => (true, r)
      | r => (false, r)
    match rest.dropWhile (· ≠ ':') with
    | ':' :: ']' :: after =>
      (asciiClass? (String.ofList (rest.takeWhile (· ≠ ':')))).map fun s =>
        (if negated then complement s else s, after)
    | _ => none
  | _ => none

/-- One item of a class that can end a range: a literal, or the bytes of a Perl class. -/
inductive Atom where
  | literal (c : Char) (byte : Bool)
  | set (bytes : Nat)
  deriving DecidableEq, Inhabited, Repr

/-- Read one item of a class: an escape other than an assertion, or a character. Perl classes
need Unicode tables in Unicode mode. -/
def classAtom (fl : Flags) : List Char → Except Refusal (Atom × List Char)
  | '\\' :: rest => do
    let (e, after) ← escape rest
    match e with
    | .literal c byte => pure (.literal c byte, after)
    | .perl bytes negated =>
      if fl.unicode then throw .states
      else pure (.set (if negated then complement bytes else bytes), after)
    | .assertion _ => throw .states
  | c :: rest => pure (.literal c false, rest)
  | [] => throw .states

/-- The byte of a literal in a class outside Unicode mode: written `\xHH`, or ASCII. -/
def literalByte (c : Char) (byte : Bool) : Except Refusal Nat :=
  if byte || c.toNat < 128 then .ok c.toNat else .error .states

/-- The bytes of an item; in Unicode mode bytes are not looked at. -/
def Atom.bytes (fl : Flags) : Atom → Except Refusal Nat
  | .literal c byte => if fl.unicode then .ok 0 else (literalByte c byte).map fun b => Nat.pow 2 b
  | .set bytes => .ok bytes

mutual

/-- Read a class after its `[`: an optional `^`, literal leading `-` and a literal first `]`,
then the body. The result: the class's bytes, whether it has any item, and the rest. -/
def classOpen : Nat → Flags → List Char → Except Refusal (Nat × Bool × List Char)
  | 0, _, _ => .error .states
  | fuel + 1, fl, cs =>
    let (negated, cs) := match cs with
      | '^' :: r => (true, r)
      | r => (false, r)
    let dashes := cs.takeWhile (· = '-')
    let cs := cs.dropWhile (· = '-')
    let (bracket, cs) := match dashes, cs with
      | [], ']' :: r => (true, r)
      | _, r => (false, r)
    let first := (if dashes.isEmpty then 0 else Nat.pow 2 0x2D) |||
      (if bracket then Nat.pow 2 0x5D else 0)
    classBody fuel fl negated none first (!dashes.isEmpty || bracket) cs

/-- Read the body of a class up to its `]`, with the pending operation, the bytes of the
current union and whether any item was read. -/
def classBody : Nat → Flags → Bool → Option (SetOp × Nat) → Nat → Bool → List Char →
    Except Refusal (Nat × Bool × List Char)
  | 0, _, _, _, _, _, _ => .error .states
  | fuel + 1, fl, negated, pending, union, items, cs =>
    match skipping fl cs with
    | [] => .error .states
    | '[' :: rest =>
      match asciiItem? rest with
      | some (bytes, after) => classBody fuel fl negated pending (union ||| bytes) true after
      | none => do
        let (bytes, inner, after) ← classOpen fuel fl rest
        classBody fuel fl negated pending (union ||| bytes) (items || inner) after
    | ']' :: rest =>
      let bytes := SetOp.combine pending union
      .ok (if negated then complement bytes else bytes, items, rest)
    | '&' :: '&' :: rest =>
      classBody fuel fl negated (some (.inter, SetOp.combine pending union)) 0 items rest
    | '-' :: '-' :: rest =>
      classBody fuel fl negated (some (.diff, SetOp.combine pending union)) 0 items rest
    | '~' :: '~' :: rest =>
      classBody fuel fl negated (some (.symm, SetOp.combine pending union)) 0 items rest
    | cs => do
      let (first, after) ← classAtom fl cs
      match skipping fl after with
      | [] => .error .states
      | '-' :: more =>
        match skipping fl more with
        | ']' :: _ | '-' :: _ => do
          let bytes ← first.bytes fl
          classBody fuel fl negated pending (union ||| bytes) true ('-' :: more)
        | more => do
          let (last, after) ← classAtom fl more
          match first, last with
          | .literal a ab, .literal b bb =>
            if b < a then .error .states
            else do
              let bytes ← if fl.unicode then pure 0 else do
                let lo ← literalByte a ab
                let hi ← literalByte b bb
                pure (byteRange lo hi)
              classBody fuel fl negated pending (union ||| bytes) true after
          | _, _ => .error .states
      | after => do
        let bytes ← first.bytes fl
        classBody fuel fl negated pending (union ||| bytes) true after

end

/-! ### Patterns -/

/-- What the current sequence of a pattern ends with: nothing yet, a flag setting, or an item
that can be repeated. -/
inductive Last where
  | empty
  | flags
  | item
  deriving DecidableEq, Inhabited, Repr

/-- Where the reading of a pattern is: the flags in force, the flags to restore when each open
group closes (innermost first), how the current sequence ends, the group names seen, and
whether a Unicode word boundary was read. -/
structure Reading where
  flags : Flags := {}
  groups : List Flags := []
  last : Last := .empty
  names : List String := []
  wordBoundary : Bool := false
  deriving Inhabited

/-- The flags after a setting: each flag character with whether it is turned on. -/
def Flags.set (fl : Flags) : List (Char × Bool) → Flags
  | [] => fl
  | (c, on) :: rest =>
    let fl := if c = 'i' then { fl with caseless := on }
      else if c = 'u' then { fl with unicode := on }
      else if c = 'x' then { fl with spaced := on }
      else fl
    Flags.set fl rest

/-- Read the flags of a group up to `:` or `)`: the flags with whether each is turned on, and
the rest from the terminator. `negating` says a `-` was read and `dangling` that it was the last
thing read. -/
def flagItems (negating dangling : Bool) (acc : List (Char × Bool)) :
    List Char → Except Refusal (List (Char × Bool) × List Char)
  | [] => .error .states
  | c :: rest =>
    if c = ':' || c = ')' then
      if dangling then .error .states else .ok (acc.reverse, c :: rest)
    else if c = '-' then
      if negating then .error .states else flagItems true true acc rest
    else if "imsUuxR".contains c && !acc.any (·.1 = c) then
      flagItems negating false ((c, !negating) :: acc) rest
    else .error .states

/-- Whether a group name is valid: it starts with an underscore or a letter (any alphanumeric
character but an ASCII digit) and goes on with underscores, dots, brackets and alphanumeric
characters. -/
def validName : List Char → Bool
  | [] => false
  | c :: rest =>
    (c = '_' || (alphanumeric c && !c.isDigit)) &&
      rest.all fun c => c = '_' || c = '.' || c = '[' || c = ']' || alphanumeric c

/-- Read a group name up to its `>`. -/
def groupName (cs : List Char) : Except Refusal (String × List Char) :=
  let name := cs.takeWhile (· ≠ '>')
  match cs.dropWhile (· ≠ '>') with
  | _ :: after => if validName name then .ok (String.ofList name, after) else .error .states
  | [] => .error .states

/-- Read what follows a `(`: a look-around (refused), a named group, a flag group or setting,
or a plain group. -/
def openGroup (r : Reading) (cs : List Char) : Except Refusal (Reading × List Char) :=
  let opened : Reading := { r with groups := r.flags :: r.groups, last := .empty }
  match skipping r.flags cs with
  | '?' :: '=' :: _ | '?' :: '!' :: _ | '?' :: '<' :: '=' :: _ | '?' :: '<' :: '!' :: _ =>
    .error .states
  | '?' :: 'P' :: '<' :: rest | '?' :: '<' :: rest => do
    let (name, after) ← groupName rest
    if r.names.contains name then throw .states
    pure ({ opened with names := name :: r.names }, after)
  | '?' :: rest => do
    let (items, after) ← flagItems false false [] rest
    match after with
    | ')' :: more =>
      if items.isEmpty then throw .states
      pure ({ r with flags := r.flags.set items, last := .flags }, more)
    | _ :: more => pure ({ opened with flags := r.flags.set items }, more)
    | [] => throw .states
  | rest => .ok (opened, rest)

/-- Read a decimal after skipping white space, and skip the white space after it: its value,
none without digits. -/
def decimal (cs : List Char) : Option Nat × List Char :=
  let cs := cs.dropWhile whiteSpace
  let ds := cs.takeWhile Char.isDigit
  let rest := (cs.dropWhile Char.isDigit).dropWhile whiteSpace
  (if ds.isEmpty then none else some (ds.foldl (fun n d => n * 10 + (d.toNat - 48)) 0), rest)

/-- Skip the `?` that makes a repetition lazy. -/
def lazy : List Char → List Char
  | '?' :: rest => rest
  | cs => cs

/-- Read a counted repetition after its `{`: `n}`, `n,}` or `n,m}` with `n ≤ m`, each count
below `2^32`. -/
def counted (cs : List Char) : Except Refusal (List Char) :=
  let (lo, cs) := decimal cs
  let small (n : Nat) : Bool := n < Nat.pow 2 32
  match lo, cs with
  | some a, '\x7d' :: after => if small a then .ok (lazy after) else .error .states
  | some a, ',' :: '\x7d' :: after => if small a then .ok (lazy after) else .error .states
  | some a, ',' :: rest =>
    match decimal rest with
    | (some b, '\x7d' :: after) =>
      if small a && small b && a ≤ b then .ok (lazy after) else .error .states
    | _ => .error .states
  | _, _ => .error .states

/-- Read a pattern, one item at a time. -/
def read : Nat → Reading → List Char → Except Refusal Reading
  | 0, _, _ => .error .states
  | _ + 1, r, [] => if r.groups.isEmpty then .ok r else .error .states
  | fuel + 1, r, c :: cs =>
    let fl := r.flags
    let item (r : Reading) : Reading := { r with last := .item }
    if fl.spaced && whiteSpace c then read fuel r cs
    else if fl.spaced && c = '#' then read fuel r (skipIgnored true cs)
    else if c = '(' then do
      let (r, rest) ← openGroup r cs
      read fuel r rest
    else if c = ')' then
      match r.groups with
      | saved :: outer => read fuel { r with flags := saved, groups := outer, last := .item } cs
      | [] => .error .states
    else if c = '|' then read fuel { r with last := .empty } cs
    else if c = '[' then do
      let (bytes, items, rest) ← classOpen (3 * cs.length + 3) fl cs
      if fl.unicode && fl.caseless && items then throw .states
      if !fl.unicode && !asciiOnly bytes then throw .states
      read fuel (item r) rest
    else if c = '*' || c = '+' || c = '?' then
      if r.last = .item then read fuel r (lazy cs) else .error .states
    else if c = '\x7b' then
      if r.last = .item then do
        let rest ← counted cs
        read fuel r rest
      else .error .states
    else if c = '\\' then do
      let (e, rest) ← escape cs
      match e with
      | .literal ch byte =>
        if literalOk fl ch byte then read fuel (item r) rest else throw .states
      | .perl _ negated =>
        if fl.unicode || negated then throw .states else read fuel (item r) rest
      | .assertion word =>
        read fuel { item r with wordBoundary := r.wordBoundary || (word && fl.unicode) } rest
    else if c = '.' then
      if fl.unicode then read fuel (item r) cs else .error .states
    else if c = '^' || c = '$' then read fuel (item r) cs
    else if literalOk fl c false then read fuel (item r) cs
    else .error .states

/-- Why a pattern cannot be compiled, if it cannot. -/
def refusal? (pattern : String) : Option Refusal :=
  let cs := pattern.toList
  match read (cs.length + 1) {} cs with
  | .error e => some e
  | .ok r => if r.wordBoundary then some .wordBoundary else none

/-! ### Values that are not patterns -/

/-- The value of decimal digits, none without digits. -/
def digitsValue? (ds : List Char) : Option Nat :=
  if !ds.isEmpty && ds.all Char.isDigit then
    some (ds.foldl (fun n d => n * 10 + (d.toNat - 48)) 0)
  else none

/-- Whether a text reads as an unsigned 64-bit integer: an optional `+` and digits. -/
def readsAsWord (s : String) : Bool :=
  match s.toList with
  | '+' :: ds => (digitsValue? ds).any (· < Nat.pow 2 64)
  | ds => (digitsValue? ds).any (· < Nat.pow 2 64)

/-- Whether a text reads as a signed 64-bit integer: an optional sign and digits. -/
def readsAsInteger (s : String) : Bool :=
  match s.toList with
  | '-' :: ds => (digitsValue? ds).any (· ≤ Nat.pow 2 63)
  | '+' :: ds => (digitsValue? ds).any (· < Nat.pow 2 63)
  | ds => (digitsValue? ds).any (· < Nat.pow 2 63)

/-- Whether characters form a decimal number: digits with an optional fraction, at least one
digit in all, and an optional exponent with at least one digit. -/
def decimalNumber (cs : List Char) : Bool :=
  let whole := cs.takeWhile Char.isDigit
  let (fraction, rest) := match cs.dropWhile Char.isDigit with
    | '.' :: r => (r.takeWhile Char.isDigit, r.dropWhile Char.isDigit)
    | r => ([], r)
  let exponent (ds : List Char) : Bool :=
    let ds := match ds with
      | '+' :: r | '-' :: r => r
      | r => r
    !ds.isEmpty && ds.all Char.isDigit
  (!whole.isEmpty || !fraction.isEmpty) &&
    match rest with
    | [] => true
    | e :: r => (e = 'e' || e = 'E') && exponent r

/-- Whether a text reads as a floating point number: an optional sign, then a decimal number or
one of `inf`, `infinity` and `nan` in any case. -/
def readsAsFloat (s : String) : Bool :=
  let body := match s.toList with
    | '+' :: r | '-' :: r => r
    | r => r
  ["inf", "infinity", "nan"].contains (String.ofList body).toLower || decimalNumber body

/-- Why a field value cannot be matched, if it cannot: a value that reads as a boolean or a
number is compared as one, and any other is compiled as a pattern. -/
def valueRefusal? (value : String) : Option Refusal :=
  if value = "true" || value = "false" || readsAsWord value || readsAsInteger value ||
      readsAsFloat value then none
  else refusal? value

end NetNode.Cli.Pattern
