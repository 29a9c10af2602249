/-!
# 64-bit floating point numbers

A finite number is a sign, a whole significand below `2 ^ 53` and a power of two that is at least
`2 ^ -1074`; the significand is below `2 ^ 52` only under the least power. `ofDecimal` rounds a decimal
to the nearest number, a half to the even one. `text` writes the fewest digits that read back, of
those the nearest, without an exponent.
-/

namespace PooledTcp

/-- A number of 64 bits. -/
inductive Binary64 where
  /-- `significand * 2 ^ exponent`, with a sign. -/
  | finite (negative : Bool) (significand : Nat) (exponent : Int)
  | infinite (negative : Bool)
  | nan
  deriving DecidableEq, Repr

namespace Binary64

/-- The least power of two. -/
def leastExponent : Int := -1074

/-- The greatest power of two. -/
def greatestExponent : Int := 971

/-- Every significand is below `2 ^ 53`. -/
def significandBound : Nat := 9007199254740992

/-- Over a power greater than the least one a significand is at least `2 ^ 52`. -/
def leastNormal : Nat := 4503599627370496

def zero (negative : Bool) : Binary64 := .finite negative 0 leastExponent

/-- `num / den` rounded to a whole number, a half to the even neighbour. -/
def roundQuotient (num den : Nat) : Nat :=
  let q := num / den
  let twice := 2 * (num % den)
  if den < twice || (den == twice && q % 2 == 1) then q + 1 else q

/-- The fraction `num / den` divided by `2 ^ e`. -/
def scaled (num den : Nat) (e : Int) : Nat × Nat :=
  if 0 ≤ e then (num, den * Nat.pow 2 e.toNat) else (num * Nat.pow 2 (-e).toNat, den)

/-- The number nearest to the positive fraction `num / den`. -/
def nearest (negative : Bool) (num den : Nat) : Binary64 :=
  let low := max ((num.log2 : Int) - den.log2 - 53) leastExponent
  let (n, d) := scaled num den low
  let e := if significandBound ≤ n / d then low + 1 else low
  let (n, d) := scaled num den e
  let q := roundQuotient n d
  let (q, e) := if q = significandBound then (leastNormal, e + 1) else (q, e)
  if greatestExponent < e then .infinite negative else .finite negative q e

/-- The number nearest to `digits * 10 ^ exponent`. -/
def ofDecimal (negative : Bool) (digits : Nat) (exponent : Int) : Binary64 :=
  let size := (Nat.toDigits 10 digits).length + exponent
  if digits = 0 || size < -330 then zero negative
  else if 330 < size then .infinite negative
  else if 0 ≤ exponent then nearest negative (digits * Nat.pow 10 exponent.toNat) 1
  else nearest negative digits (Nat.pow 10 (-exponent).toNat)

/-- The least `j` below the bound with `den ≤ num * 10 ^ j`. -/
def leastShift (num den : Nat) : Nat → Nat
  | 0 => 0
  | bound + 1 => if den ≤ num then 0 else leastShift (num * 10) den bound + 1

/-- The power of ten just above the positive fraction `num / den`, as an exponent. -/
def magnitude (num den : Nat) : Int :=
  if den ≤ num then (Nat.toDigits 10 (num / den)).length
  else 1 - (leastShift num den 400 : Int)

/-- `10 ^ k` as a fraction. -/
def tenPower (k : Int) : Nat × Nat :=
  if 0 ≤ k then (Nat.pow 10 k.toNat, 1) else (1, Nat.pow 10 (-k).toNat)

/-- The multiple of `10 ^ k` that is nearest to `num / den` among its neighbours between `low / den`
and `high / den`, the greater one at a tie; the bounds count only if `closed`. -/
def onGrid (low num high den : Nat) (closed : Bool) (k : Int) : Option Nat :=
  let (up, down) := tenPower k
  let inside (c : Nat) : Bool :=
    let x := c * up * den
    if closed then low * down ≤ x && x ≤ high * down else low * down < x && x < high * down
  let c := num * down / (up * den)
  let twice := 2 * (num * down % (up * den))
  match inside c, inside (c + 1) with
  | true, true => some (if up * den ≤ twice then c + 1 else c)
  | true, false => some c
  | false, true => some (c + 1)
  | false, false => none

/-- A decimal with the fewest digits that reads back as the positive number `m * 2 ^ e`: the first of
the grids of 1, 2, … digits that has one. -/
def shortest (m : Nat) (e : Int) : Nat × Int :=
  let low := if m = leastNormal && leastExponent < e then 4 * m - 1 else 4 * m - 2
  let (unit, den) := if 2 ≤ e then (Nat.pow 2 (e - 2).toNat, 1) else (1, Nat.pow 2 (2 - e).toNat)
  let top := magnitude (4 * m * unit) den
  let grid (digits : Nat) : Option (Nat × Int) :=
    let k := top - digits
    (onGrid (low * unit) (4 * m * unit) ((4 * m + 2) * unit) den (m % 2 == 0) k).map (·, k)
  ((List.range 17).findSome? fun i => grid (i + 1)).getD (m, e)

/-- A decimal without its last zeros, `bound` of them at most. -/
def stripZeros (c : Nat) (k : Int) : Nat → Nat × Int
  | 0 => (c, k)
  | bound + 1 => if c % 10 = 0 then stripZeros (c / 10) (k + 1) bound else (c, k)

/-- `c * 10 ^ k` written out, with at least one digit on each side of the point. -/
def positional (c : Nat) (k : Int) : String :=
  let digits := Nat.toDigits 10 c
  if 0 ≤ k then String.ofList (digits ++ List.replicate k.toNat '0') ++ ".0"
  else
    let places := (-k).toNat
    let padded := List.replicate (places + 1 - digits.length) '0' ++ digits
    let whole := padded.take (padded.length - places)
    String.ofList whole ++ "." ++ String.ofList (padded.drop whole.length)

/-- The number in decimal. -/
def text : Binary64 → String
  | nan => "NaN"
  | infinite negative => (if negative then "-" else "") ++ "inf"
  | finite negative m e =>
    (if negative then "-" else "") ++
      if m = 0 then "0.0"
      else
        let (c, k) := shortest m e
        let (c, k) := stripZeros c k 20
        positional c k

end Binary64
end PooledTcp
