/-!
# Binary64 numbers

A finite binary64 number as a sign, a mantissa and a power of two, with the
arithmetic that a decimal reader needs.  Every operation forms its exact value
as a quotient of naturals and rounds that once, to the nearest number and on a
tie to the even mantissa.
-/

namespace Invocation

/-- The number `± mantissa * 2 ^ exponent`.  The operations below give a
mantissa below `2 ^ 53` and an exponent from `-1074` to `971`. -/
structure Binary64 where
  negative : Bool
  mantissa : Nat
  exponent : Int
  deriving DecidableEq, Repr

namespace Binary64

/-- Zero, with either sign. -/
def zero (negative : Bool) : Binary64 := ⟨negative, 0, -1074⟩

/-- The value is zero. -/
def isZero (x : Binary64) : Bool := x.mantissa == 0

/-- `n / d` rounded to an integer, a half going to the even neighbour. -/
def roundDiv (n d : Nat) : Nat :=
  let q := n / d
  let r := n % d
  if 2 * r < d then q
  else if 2 * r > d then q + 1
  else if q % 2 = 0 then q else q + 1

/-- `n / d / 2 ^ e` as a quotient of naturals. -/
def scaled (n d : Nat) (e : Int) : Nat × Nat :=
  match e with
  | .ofNat k => (n, d * Nat.pow 2 k)
  | .negSucc k => (n * Nat.pow 2 (k + 1), d)

/-- The least mantissa of 53 bits. -/
def leastFull : Nat := 0x10000000000000

/-- The first mantissa that needs more than 53 bits. -/
def overfull : Nat := 0x20000000000000

/-- The number nearest to `n / d`, or none when that lies beyond the largest
finite number.  The power of two is the one that leaves 53 bits, or the least
one for a number too small to have them. -/
def ofQuotient? (negative : Bool) (n d : Nat) : Option Binary64 :=
  if n = 0 then some (zero negative)
  else
    let guess : Int := (n.log2 : Int) - d.log2 - 53
    let (a, b) := scaled n d guess
    let fit := if a / b < overfull then guess else guess + 1
    let e := max (-1074) fit
    let (a, b) := scaled n d e
    let m := roundDiv a b
    let (m, e) := if m = overfull then (leastFull, e + 1) else (m, e)
    if e > 971 then none else some ⟨negative, m, e⟩

/-- The number nearest to a natural. -/
def ofNat? (n : Nat) : Option Binary64 := ofQuotient? false n 1

/-- The number with the other sign. -/
def neg (x : Binary64) : Binary64 := { x with negative := !x.negative }

/-- `2 ^ e` as a quotient of naturals. -/
def powerOfTwo (e : Int) : Nat × Nat := scaled 1 1 (-e)

/-- The product, or none when it is too large. -/
def mul? (x y : Binary64) : Option Binary64 :=
  let (a, b) := powerOfTwo (x.exponent + y.exponent)
  ofQuotient? (x.negative != y.negative) (x.mantissa * y.mantissa * a) b

/-- The quotient by a number other than zero, or none when it is too large. -/
def div? (x y : Binary64) : Option Binary64 :=
  let (a, b) := powerOfTwo (x.exponent - y.exponent)
  ofQuotient? (x.negative != y.negative) (x.mantissa * a) (y.mantissa * b)

/-- The greatest power of ten that is a finite number. -/
def maxTen : Nat := 308

/-- The number nearest to `10 ^ k`, for `k` up to `maxTen`. -/
def ten (k : Nat) : Binary64 := (ofNat? (Nat.pow 10 k)).getD (zero false)

/-- `f * 10 ^ e` in steps of one rounding each: a power of ten beyond the
greatest is divided out first, as often as it takes. -/
def shiftTen? (f : Binary64) (e : Int) : Option Binary64 :=
  if e.natAbs ≤ maxTen then
    if 0 ≤ e then f.mul? (ten e.natAbs) else f.div? (ten e.natAbs)
  else if f.isZero then some f
  else if 0 ≤ e then none
  else
    match f.div? (ten maxTen) with
    | none => none
    | some f => shiftTen? f (e + maxTen)
termination_by e.natAbs
decreasing_by
  simp only [maxTen] at *
  omega

/-- The number that `significand * 10 ^ e` reads as: the significand is rounded
first and then shifted.  The result may differ from the nearest number in its
last digits. -/
def ofDecimal? (negative : Bool) (significand : Nat) (e : Int) :
    Option Binary64 :=
  match ofNat? significand with
  | none => none
  | some f => (shiftTen? f e).map fun x => { x with negative }

/-- The number nearest to `significand * 10 ^ e`, or none when it is too large.
Exponents that decide the answer by their size alone are not expanded. -/
def nearest? (negative : Bool) (significand : Nat) (e : Int) :
    Option Binary64 :=
  if significand = 0 then some (zero negative)
  else
    let magnitude : Int := e + (Nat.log2 significand : Int) * 3 / 10
    if magnitude > 400 then none
    else if magnitude < -800 then some (zero negative)
    else
      match e with
      | .ofNat k => ofQuotient? negative (significand * Nat.pow 10 k) 1
      | .negSucc k => ofQuotient? negative significand (Nat.pow 10 (k + 1))

/-- The number nearest to an integer of 64 bits. -/
def ofInt (n : Int) : Binary64 :=
  (ofQuotient? (decide (n < 0)) n.natAbs 1).getD (zero false)

end Binary64
end Invocation
