/-!
# Shortest decimal text of a binary64 value

A finite binary64 value `m · 2^e` stands for every real number that rounds to it: the interval
halfway to its two neighbours, ends included when `m` is even. `Binary.shortest` picks, for
the fewest significant digits `k` for which one exists, the `k`-digit decimal inside that
interval; of two such decimals it takes the nearer one. All arithmetic is on natural numbers.

`Style` says how the digits are laid out; `Style.float` is the layout of the program's
messages and counters: positional notation for values from `1e-4` up to below `1e16` with a
trailing `.0` on whole numbers, otherwise a mantissa, `e`, a sign and two or more exponent
digits.
-/

namespace NetNode.Decimal

/-- A nonnegative rational number as numerator and denominator. -/
structure Ratio where
  num : Nat
  den : Nat

/-- `a ≤ b` by cross multiplication. -/
def Ratio.le (a b : Ratio) : Bool := a.num * b.den ≤ b.num * a.den

/-- `a < b` by cross multiplication. -/
def Ratio.lt (a b : Ratio) : Bool := a.num * b.den < b.num * a.den

/-- The rational `c · 2^e`. -/
def Ratio.twoPow (c : Nat) (e : Int) : Ratio :=
  if 0 ≤ e then ⟨c * Nat.pow 2 e.toNat, 1⟩ else ⟨c, Nat.pow 2 (-e).toNat⟩

/-- The rational `c · 10^e`. -/
def Ratio.tenPow (c : Nat) (e : Int) : Ratio :=
  if 0 ≤ e then ⟨c * Nat.pow 10 e.toNat, 1⟩ else ⟨c, Nat.pow 10 (-e).toNat⟩

/-- The distance between two rationals. -/
def Ratio.dist (a b : Ratio) : Ratio :=
  let x := a.num * b.den
  let y := b.num * a.den
  ⟨if x ≤ y then y - x else x - y, a.den * b.den⟩

/-- A finite binary64 value: a sign, an integer significand and a power of two. The field
`minNormal` records that the significand is the smallest of a normal binade above the first,
where the gap below is half the gap above. -/
structure Binary where
  negative : Bool
  significand : Nat
  exponent : Int
  minNormal : Bool

/-- What a 64-bit pattern encodes. -/
inductive Decoded where
  | finite (b : Binary)
  | infinite (negative : Bool)
  | nan

/-- Split the bit pattern of a binary64 value into sign, significand and exponent. -/
def decode (bits : UInt64) : Decoded :=
  let negative := bits >>> 63 == 1
  let biased := ((bits >>> 52) &&& 0x7FF).toNat
  let fraction := (bits &&& 0xFFFFFFFFFFFFF).toNat
  if biased = 0x7FF then
    if fraction = 0 then .infinite negative else .nan
  else if biased = 0 then
    .finite ⟨negative, fraction, -1074, false⟩
  else
    .finite ⟨negative, fraction + Nat.pow 2 52, (biased : Int) - 1075, fraction = 0 ∧ biased > 1⟩

/-- A decimal in scientific form: the digits `d₁ d₂ … dₖ`, the first one worth `10^point`. -/
structure Scientific where
  negative : Bool
  digits : List Nat
  point : Int

/-- The number of decimal digits of a natural number (one for zero). -/
def digitCount (n : Nat) : Nat := (Nat.toDigits 10 n).length

/-- The decimal digits of a natural number, most significant first. -/
def digitsOf (n : Nat) : List Nat := (Nat.toDigits 10 n).map fun c => c.toNat - 48

/-- Drop the zeros at the end of a digit list, keeping at least one digit. -/
def trimZeros (ds : List Nat) : List Nat :=
  match (ds.reverse.dropWhile (· = 0)).reverse with
  | [] => [0]
  | r => r

namespace Binary

/-- The value itself, without its sign. -/
def magnitude (b : Binary) : Ratio := Ratio.twoPow b.significand b.exponent

/-- The lower end of the rounding interval. -/
def lowerEnd (b : Binary) : Ratio :=
  if b.minNormal then Ratio.twoPow (4 * b.significand - 1) (b.exponent - 2)
  else Ratio.twoPow (2 * b.significand - 1) (b.exponent - 1)

/-- The upper end of the rounding interval. -/
def upperEnd (b : Binary) : Ratio := Ratio.twoPow (2 * b.significand + 1) (b.exponent - 1)

/-- Whether a rational reads back as this value. -/
def readsBack (b : Binary) (r : Ratio) : Bool :=
  if b.significand % 2 = 0 then b.lowerEnd.le r && r.le b.upperEnd
  else b.lowerEnd.lt r && r.lt b.upperEnd

/-- The power of ten of the leading digit: `10^d ≤ v < 10^(d+1)`. -/
def leadingPower (b : Binary) : Int :=
  let v := b.magnitude
  let d : Int := (digitCount v.num : Int) - digitCount v.den
  if v.lt (Ratio.tenPow 1 d) then d - 1 else d

/-- The `k`-digit decimal that reads back as this value, if there is one. -/
def candidate (b : Binary) (d : Int) (k : Nat) : Option (Nat × Int) :=
  let s : Int := d - k + 1
  let v := b.magnitude
  let scaled : Ratio := if 0 ≤ s then ⟨v.num, v.den * Nat.pow 10 s.toNat⟩
    else ⟨v.num * Nat.pow 10 (-s).toNat, v.den⟩
  let below := scaled.num / scaled.den
  let above := below + 1
  let okBelow := below ≠ 0 && b.readsBack (Ratio.tenPow below s)
  let okAbove := b.readsBack (Ratio.tenPow above s)
  if okBelow && okAbove then
    let gapBelow := Ratio.dist v (Ratio.tenPow below s)
    let gapAbove := Ratio.dist (Ratio.tenPow above s) v
    if gapBelow.lt gapAbove then some (below, s)
    else if gapAbove.lt gapBelow then some (above, s)
    else if below % 2 = 0 then some (below, s) else some (above, s)
  else if okBelow then some (below, s)
  else if okAbove then some (above, s)
  else none

/-- The shortest decimal that reads back as this value, nearest of those of its length. -/
def shortest (b : Binary) : Scientific :=
  if b.significand = 0 then ⟨b.negative, [0], 0⟩
  else
    let d := b.leadingPower
    let found := (List.range 17).findSome? fun i => b.candidate d (i + 1)
    match found with
    | some (c, s) =>
        let ds := digitsOf c
        ⟨b.negative, trimZeros ds, s + ds.length - 1⟩
    | none =>
        -- seventeen digits always suffice; this keeps the function total
        let ds := digitsOf (b.magnitude.num / b.magnitude.den)
        ⟨b.negative, trimZeros ds, (ds.length : Int) - 1⟩

end Binary

/-- How a decimal is laid out as text. Values whose leading power lies in
`[positionalFrom, positionalBelow)` are written positionally. -/
structure Style where
  positionalFrom : Int
  positionalBelow : Int
  wholeSuffix : String
  exponentMark : String
  plusSign : Bool
  exponentWidth : Nat
  infinity : String
  notANumber : String

/-- The layout of floating point values in the program's messages and counters: positional
from `0.00001` up to sixteen whole digits, otherwise one leading digit and an exponent that
carries its sign and no padding (`1e-6`, `1.8e+19`). -/
def Style.float : Style :=
  ⟨-5, 16, ".0", "e", true, 1, "inf", "NaN"⟩

/-- Characters of a digit list. -/
def digitChars (ds : List Nat) : String :=
  String.ofList (ds.map fun d => Char.ofNat (48 + d))

/-- Lay out a decimal in a style. -/
def Scientific.render (style : Style) (x : Scientific) : String :=
  let sign := if x.negative then "-" else ""
  let p := x.point
  let ds := x.digits
  if style.positionalFrom ≤ p ∧ p < style.positionalBelow then
    if 0 ≤ p then
      let whole := ds.take (p.toNat + 1)
      let whole := whole ++ List.replicate (p.toNat + 1 - whole.length) 0
      let frac := ds.drop (p.toNat + 1)
      if frac.isEmpty then sign ++ digitChars whole ++ style.wholeSuffix
      else sign ++ digitChars whole ++ "." ++ digitChars frac
    else
      sign ++ "0." ++ digitChars (List.replicate ((-p).toNat - 1) 0 ++ ds)
  else
    let mantissa := match ds with
      | [] => "0"
      | [d] => digitChars [d]
      | d :: rest => digitChars [d] ++ "." ++ digitChars rest
    let expSign := if p < 0 then "-" else if style.plusSign then "+" else ""
    let expDigits := digitChars (digitsOf p.natAbs)
    let padded := String.ofList (List.replicate (style.exponentWidth - expDigits.length) '0')
      ++ expDigits
    sign ++ mantissa ++ style.exponentMark ++ expSign ++ padded

/-- The text of a binary64 value in a style. -/
def render (style : Style) (x : Float) : String :=
  match decode x.toBits with
  | .finite b => b.shortest.render style
  | .infinite neg => (if neg then "-" else "") ++ style.infinity
  | .nan => style.notANumber

end NetNode.Decimal
