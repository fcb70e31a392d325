import Brokerage.Number.Binary64

/-!
# Numerals

Numbers as they are written, and the numbers they stand for.

* `Numeral`: sign, digits before the point, digits after it, exponent.
* `Number`: a whole number of at most 64 bits, or a binary floating point number.
* `Numeral.number?`: a numeral without point and exponent stands for its whole number where that
  lies in the range; any other stands for a floating point number, built from at most 64 bits of
  digits.
* `Binary64.render`: the fewest digits that read back as the number.
-/

namespace Brokerage

/-- A number as it is written. Digits stand as their values, most significant first. -/
structure Numeral where
  negative : Bool
  whole : List Nat
  fraction : Option (List Nat)
  /-- The sign of the exponent (true for minus) and its digits. -/
  exponent : Option (Bool × List Nat)
deriving DecidableEq, Repr

/-- A number of a document. -/
inductive Number where
  | int (n : Int)
  | float (x : Binary64)
deriving DecidableEq, Repr

/-- The least and the greatest whole number that stays exact. -/
def Number.minInt : Int := -9223372036854775808

@[inherit_doc Number.minInt]
def Number.maxInt : Int := 18446744073709551615

namespace Numeral

/-- The number the digits write. -/
def natOf (digits : List Nat) : Nat := digits.foldl (fun n d => n * 10 + d) 0

/-- Appends digits to a significand while it fits in 64 bits; also the number of digits left over,
counted from the first that does not fit. -/
def extend (significand : Nat) : List Nat → Nat × Nat
  | [] => (significand, 0)
  | d :: rest =>
    if significand * 10 + d < Nat.pow 2 64 then extend (significand * 10 + d) rest
    else (significand, rest.length + 1)

/-- The floating point number of a numeral: its significand, cut to 64 bits, times a power of
ten. -/
def float? (n : Numeral) : Option Binary64 :=
  let (whole, dropped) := extend 0 n.whole
  let digits := n.fraction.getD []
  let (significand, lost) := extend whole digits
  let shift : Int := match n.exponent with
    | none => 0
    | some (true, ds) => -(natOf ds : Int)
    | some (false, ds) => natOf ds
  (Binary64.ofRatio? n.negative significand 1).bind
    (·.scale? (dropped - (digits.length - lost : Nat) + shift))

/-- **The number of a numeral**, if it is in range. A whole number is exact from `Number.minInt` to
`Number.maxInt`; minus zero is a floating point number. -/
def number? (n : Numeral) : Option Number :=
  match n.fraction, n.exponent with
  | none, none =>
    let m : Int := natOf n.whole
    if n.negative then
      if 0 < m ∧ Number.minInt ≤ -m then some (.int (-m)) else n.float?.map .float
    else if m ≤ Number.maxInt then some (.int m)
    else n.float?.map .float
  | _, _ => n.float?.map .float

end Numeral

namespace Binary64

/-- The number of decimal places before the point of `num / den`: `10 ^ (k - 1) ≤ num / den <
10 ^ k`. -/
def decimalPoint (num den : Nat) : Int :=
  if den ≤ num then (Nat.toDigits 10 (num / den)).length
  else 1 - ((Nat.toDigits 10 ((den - 1) / num)).length : Int)

/-- Both ends of the numbers that round to `± m * 2 ^ e`, and the number itself, in quarters of
`2 ^ e`: the gap below a power of two is half as wide. -/
def interval (m : Nat) (e : Int) : Nat × Nat × Nat :=
  (if m = Nat.pow 2 52 ∧ -1074 < e then 4 * m - 1 else 4 * m - 2, 4 * m, 4 * m + 2)

/-- The multiple of the grid `10 ^ k` that reads back as the number and lies nearest to it. -/
def onGrid (m : Nat) (e k : Int) : Option Nat :=
  let (low, mid, high) := interval m e
  -- a grid point `d` is `d * unit`, the number and the ends are multiples of `quarter`
  let quarter := Nat.pow 2 (e - 2 - min (e - 2) 0).toNat * Nat.pow 10 (-min k 0).toNat
  let unit := Nat.pow 10 (k - min k 0).toNat * Nat.pow 2 (-min (e - 2) 0).toNat
  let within (d : Nat) : Bool :=
    if m % 2 = 0 then low * quarter ≤ d * unit && d * unit ≤ high * quarter
    else low * quarter < d * unit && d * unit < high * quarter
  let below := mid * quarter / unit
  let gap := mid * quarter - below * unit
  match within below, within (below + 1) with
  | true, true =>
    if 2 * gap < unit then some below
    else if unit < 2 * gap then some (below + 1)
    else some (below + below % 2)
  | true, false => some below
  | false, true => some (below + 1)
  | false, false => none

/-- The digits of the number on the coarsest grid that holds a point reading back as it, and the
exponent of that grid. Seventeen digits always suffice. -/
def shortest (m : Nat) (e : Int) : List Char × Int :=
  let point := decimalPoint (ratio ⟨false, m, e⟩).1 (ratio ⟨false, m, e⟩).2
  let grids := (List.range 17).map fun n => point - (n + 1 : Nat)
  match grids.findSome? fun k => (onGrid m e k).map (·, k) with
  | some (d, k) => (Nat.toDigits 10 d, k)
  | none => (Nat.toDigits 10 m, e)

/-- Takes zeros off the end of a digit text, raising its exponent. -/
def stripZeros (digits : List Char) (k : Int) : List Char × Int :=
  let kept := (digits.reverse.dropWhile (· == '0')).reverse
  (kept, k + (digits.length - kept.length : Nat))

/-- The text of an exponent, its sign in front. -/
def exponentText (e : Int) : List Char := (if 0 ≤ e then ['+'] else []) ++ (toString e).toList

/-- **The text of a floating point number**: the fewest digits that read back; positional, with at
least one digit on either side of the point, from `1e-5` to below `1e+16`, with an exponent
elsewhere. -/
def render (x : Binary64) : String :=
  let sign := if x.negative then ['-'] else []
  if x.mantissa = 0 then String.ofList (sign ++ ['0', '.', '0'])
  else
    let (ds, k) := stripZeros (shortest x.mantissa x.exponent).1 (shortest x.mantissa x.exponent).2
    let point := ds.length + k
    let body :=
      if 0 ≤ k ∧ point ≤ 16 then ds ++ List.replicate k.toNat '0' ++ ['.', '0']
      else if 0 < point ∧ point ≤ 16 then ds.take point.toNat ++ ['.'] ++ ds.drop point.toNat
      else if -5 < point ∧ point ≤ 0 then
        ['0', '.'] ++ List.replicate (-point).toNat '0' ++ ds
      else
        ds.take 1 ++ (if ds.length = 1 then [] else '.' :: ds.drop 1) ++ 'e' ::
          exponentText (point - 1)
    String.ofList (sign ++ body)

end Binary64

/-- The text of a number. -/
def Number.render : Number → String
  | .int n => toString n
  | .float x => x.render

end Brokerage
