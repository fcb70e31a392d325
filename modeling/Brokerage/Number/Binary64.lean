/-!
# Binary floating point numbers

Finite numbers with 53 significant bits and exponents down to -1074, over exact arithmetic.

* `Binary64`: sign, mantissa and exponent.
* `Binary64.ofRatio?`: the number nearest to a quotient of natural numbers, a tie to the even
  mantissa.
* `Binary64.scale?`: the number times a power of ten, rounded.
-/

namespace Brokerage

/-- The number `± mantissa * 2 ^ exponent`. `Binary64.ofRatio?` gives each value one form: zero has
exponent 0, and any other mantissa has 53 bits unless the exponent is -1074. -/
structure Binary64 where
  negative : Bool
  mantissa : Nat
  exponent : Int
deriving DecidableEq, Repr

namespace Binary64

/-- Zero, of either sign. -/
def zero (negative : Bool) : Binary64 := ⟨negative, 0, 0⟩

/-- The value without its sign, as a quotient. -/
def ratio (x : Binary64) : Nat × Nat :=
  if 0 ≤ x.exponent then (x.mantissa * Nat.pow 2 x.exponent.toNat, 1)
  else (x.mantissa, Nat.pow 2 (-x.exponent).toNat)

/-- The quotient `num / den` rounded to a whole number, a half to the even one. -/
def roundDiv (num den : Nat) : Nat :=
  let q := num / den
  let r := num % den
  if 2 * r < den then q
  else if den < 2 * r then q + 1
  else q + q % 2

/-- The exponent at which the quotient has 53 bits before the point, but at least -1074. -/
def fitExponent (num den : Nat) : Int :=
  let guess : Int := num.log2 - den.log2 - 52
  let fits :=
    if 0 ≤ guess then den * Nat.pow 2 (guess.toNat + 52) ≤ num
    else den * Nat.pow 2 52 ≤ num * Nat.pow 2 (-guess).toNat
  max (if fits then guess else guess - 1) (-1074)

/-- The number nearest to `± num / den`, if there is one below `2 ^ 1024`. -/
def ofRatio? (negative : Bool) (num den : Nat) : Option Binary64 :=
  if num = 0 then some (zero negative)
  else
    let e := fitExponent num den
    let m :=
      if 0 ≤ e then roundDiv num (den * Nat.pow 2 e.toNat)
      else roundDiv (num * Nat.pow 2 (-e).toNat) den
    let (m, e) := if m = Nat.pow 2 53 then (Nat.pow 2 52, e + 1) else (m, e)
    if m = 0 then some (zero negative)
    else if e > 971 then none
    else some ⟨negative, m, e⟩

/-- The product, rounded. -/
def mul? (x y : Binary64) : Option Binary64 :=
  ofRatio? (x.negative != y.negative) (x.ratio.1 * y.ratio.1) (x.ratio.2 * y.ratio.2)

/-- The quotient, rounded; none for a divisor of zero. -/
def div? (x y : Binary64) : Option Binary64 :=
  if y.mantissa = 0 then none
  else ofRatio? (x.negative != y.negative) (x.ratio.1 * y.ratio.2) (x.ratio.2 * y.ratio.1)

/-- A power of ten, rounded. -/
def tenPow? (n : Nat) : Option Binary64 := ofRatio? false (Nat.pow 10 n) 1

/-- The greatest power of ten in one scaling step. -/
def maxTenPow : Nat := 308

/-- Divides by the greatest scaling step `n` times; a zero on the way stays. -/
def shrink? : Nat → Binary64 → Option Binary64
  | 0, x => some x
  | n + 1, x =>
    if x.mantissa = 0 then some x
    else ((tenPow? maxTenPow).bind x.div?).bind (shrink? n)

/-- **Scaling by a power of ten**, rounded at each step of at most `maxTenPow` places. None where
the result is too large; zero stays zero under any power. -/
def scale? (x : Binary64) (e : Int) : Option Binary64 :=
  if x.mantissa = 0 then some x
  else if 0 ≤ e then
    if e ≤ maxTenPow then (tenPow? e.toNat).bind x.mul? else none
  else
    let steps := ((-e).toNat - 1) / maxTenPow
    (shrink? steps x).bind fun y => (tenPow? ((-e).toNat - steps * maxTenPow)).bind y.div?

end Binary64

end Brokerage
