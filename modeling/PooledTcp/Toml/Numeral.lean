import PooledTcp.Bytes
import PooledTcp.Toml.Value

/-!
# Numbers in a document

Underscores may stand between two digits. A whole number is decimal, without zeros in front, or
hexadecimal, octal or binary after `0x`, `0o` or `0b`, and fits in 64 bits. A number with a fraction or
an exponent is the nearest one of 64 bits and must not exceed the greatest.
-/

namespace PooledTcp.Toml

/-- A decimal digit. -/
def isDigit (c : Char) : Bool := '0' ≤ c && c ≤ '9'

/-- The value of a digit of that base. -/
def digitOf? (base : Nat) (c : Char) : Option Nat :=
  (Bytes.hexDigit? c).filter (· < base)

/-- The digits at the front, as `digit?` reads them, and what follows them. Underscores stand between
two digits; `inside` tells whether a digit has come before. -/
def digits? (digit? : Char → Option Nat) (inside : Bool) :
    List Char → Option (List Nat × List Char)
  | [] => if inside then some ([], []) else none
  | c :: rest =>
    match digit? c with
    | some d => (digits? digit? true rest).map fun (ds, rest) => (d :: ds, rest)
    | none =>
      if !inside then none
      else if c = '_' then digits? digit? false rest
      else some ([], c :: rest)

/-- The number that digits write. -/
def ofDigits (base : Nat) (ds : List Nat) : Nat := ds.foldl (fun n d => base * n + d) 0

/-- The least whole number that is too great for 64 bits with a sign. -/
def integerBound : Int := 9223372036854775808

/-- A whole number of 64 bits. -/
def integer? (n : Int) : Option Value :=
  if -integerBound ≤ n && n < integerBound then some (.integer n) else none

/-- A number of another base, after its mark. -/
def based? (base : Nat) (s : List Char) : Option (Value × List Char) := do
  let (ds, rest) ← digits? (digitOf? base) false s
  let v ← integer? (ofDigits base ds)
  return (v, rest)

/-- The sign at the front. -/
def sign : List Char → Bool × List Char
  | '-' :: rest => (true, rest)
  | '+' :: rest => (false, rest)
  | s => (false, s)

/-- The digits of a decimal before its fraction: a single zero, or none in front. -/
def wholeDigits? : List Char → Option (List Nat × List Char)
  | '0' :: rest => some ([0], rest)
  | s => digits? (digitOf? 10) false s

/-- A decimal that need not be whole. Only the greatest positive numbers have none near them. -/
def float? (negative : Bool) (ds : List Nat) (exponent : Int) : Option Value :=
  match Binary64.ofDecimal negative (ofDigits 10 ds) exponent with
  | .infinite false => none
  | x => some (.float x)

/-- The exponent, after its mark. -/
def exponent? (s : List Char) : Option (Int × List Char) := do
  let (negative, s) := sign s
  let (ds, rest) ← digits? (digitOf? 10) false s
  let n : Int := ofDigits 10 ds
  return (if negative then -n else n, rest)

/-- A decimal after its sign. -/
def decimal? (negative : Bool) (s : List Char) : Option (Value × List Char) := do
  let (whole, s) ← wholeDigits? s
  match s with
  | '.' :: s =>
    let (fraction, s) ← digits? (digitOf? 10) false s
    let (e, s) ← match s with
      | 'e' :: s | 'E' :: s => exponent? s
      | s => some (0, s)
    let v ← float? negative (whole ++ fraction) (e - fraction.length)
    return (v, s)
  | 'e' :: s | 'E' :: s =>
    let (e, s) ← exponent? s
    let v ← float? negative whole e
    return (v, s)
  | s =>
    let n : Int := ofDigits 10 whole
    let v ← integer? (if negative then -n else n)
    return (v, s)

/-- A number. -/
def number? : List Char → Option (Value × List Char)
  | '0' :: 'x' :: s => based? 16 s
  | '0' :: 'o' :: s => based? 8 s
  | '0' :: 'b' :: s => based? 2 s
  | s =>
    match sign s with
    | (negative, 'i' :: 'n' :: 'f' :: rest) => some (.float (.infinite negative), rest)
    | (_, 'n' :: 'a' :: 'n' :: rest) => some (.float .nan, rest)
    | (negative, s) => decimal? negative s

end PooledTcp.Toml
