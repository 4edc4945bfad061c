import Invocation.Binary64.Basic

/-!
# Shortest decimal text

The digits of a binary64 number are the fewest that read back as that number,
and among those the ones nearest to it.  They are found on decimal grids, from
coarse to fine: on each grid only the two points next to the number can be
tried, and the first grid that has one among the reals that round to the number
gives the digits.  How the digits are laid out is a `Layout`.
-/

namespace Invocation.Binary64

/-- The decimal number `digits * 10 ^ exponent`. -/
structure Decimal where
  digits : Nat
  exponent : Int
  deriving DecidableEq, Repr

/-- The point of the grid `10 ^ g` that reads back as `m * 2 ^ q`, if there is
one.  In units of a quarter of the last place the number is `4 * m`, the reals
that round to it reach `2` up and `2` down (`1` down at a power of two), and the
ends belong to them exactly for an even mantissa. -/
def onGrid? (m : Nat) (q g : Int) : Option Nat :=
  let down := if m = leastFull ∧ q > -1074 then 1 else 2
  let u := (q - 2).toNat
  let v := (2 - q).toNat
  let a := Nat.pow 2 u * Nat.pow 10 (-g).toNat
  let b := Nat.pow 2 v * Nat.pow 10 g.toNat
  let n := 4 * m * a
  let least := (4 * m - down) * a
  let most := (4 * m + 2) * a
  let reads (c : Nat) : Bool :=
    if m % 2 = 0 then least ≤ c * b ∧ c * b ≤ most
    else least < c * b ∧ c * b < most
  let c := n / b
  match reads c, reads (c + 1) with
  | false, false => none
  | true, false => some c
  | false, true => some (c + 1)
  | true, true =>
    let below := n - c * b
    let above := (c + 1) * b - n
    if below < above then some c
    else if above < below then some (c + 1)
    else if c % 2 = 0 then some c else some (c + 1)

/-- Tries the grids from `g` down. -/
def shortestFrom (m : Nat) (q : Int) : Nat → Int → Decimal
  | 0, _ => ⟨m, 0⟩
  | fuel + 1, g =>
    match onGrid? m q g with
    | some c => ⟨c, g⟩
    | none => shortestFrom m q fuel (g - 1)

/-- The shortest decimal that reads back, for a number other than zero.  The
first grid is coarser than the number, and 17 digits always suffice. -/
def shortest (x : Binary64) : Decimal :=
  let top : Int := ((x.mantissa.log2 : Int) + x.exponent) * 30103 / 100000 + 2
  shortestFrom x.mantissa x.exponent 24 top

/-- How a decimal is laid out. -/
structure Layout where
  /-- The least exponent of the first digit that is written positionally. -/
  least : Option Int
  /-- The first exponent above those written positionally. -/
  bound : Option Int

/-- The digits of a natural. -/
def digitChars (n : Nat) : List Char := Nat.toDigits 10 n

/-- Zeros. -/
def zeros (k : Nat) : List Char := List.replicate k '0'

/-- Positional notation, with at least one digit on each side of the point;
`first` is the exponent of the first digit. -/
def positional (digits : List Char) (first : Int) : List Char :=
  if first < 0 then
    '0' :: '.' :: zeros (-first - 1).toNat ++ digits
  else
    let whole := first.toNat + 1
    if digits.length ≤ whole then
      digits ++ zeros (whole - digits.length) ++ ['.', '0']
    else
      digits.take whole ++ '.' :: digits.drop whole

/-- Scientific notation: one digit, the others after a point, and an exponent
that always has its sign. -/
def scientific (digits : List Char) (first : Int) : List Char :=
  let exponent :=
    (if first < 0 then '-' else '+') :: digitChars first.natAbs
  match digits with
  | [] => 'e' :: exponent
  | [d] => d :: 'e' :: exponent
  | d :: rest => d :: '.' :: rest ++ 'e' :: exponent

/-- The text of a number. -/
def toChars (layout : Layout) (x : Binary64) : List Char :=
  let sign := if x.negative then ['-'] else []
  if x.isZero then sign ++ ['0', '.', '0']
  else
    let d := x.shortest
    let digits := digitChars d.digits
    let first : Int := d.exponent + digits.length - 1
    let plain :=
      layout.least.all (· ≤ first) && layout.bound.all (first < ·)
    sign ++ if plain then positional digits first else scientific digits first

end Invocation.Binary64
