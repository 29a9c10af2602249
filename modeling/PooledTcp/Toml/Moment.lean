import PooledTcp.Toml.Numeral

/-!
# Dates and times in a document

A date is `2024-02-29` and exists; a time of day is `23:59:60`, perhaps with decimals of a second. A
date may be followed by a time, after `T` or a space, and that by `Z` or an offset.
-/

namespace PooledTcp.Toml

/-- Two digits whose number is in the range. -/
def pair? (low high : Nat) : List Char → Option (Nat × List Char)
  | a :: b :: rest =>
    if isDigit a && isDigit b then
      let n := ofDigits 10 ((digitOf? 10 a).toList ++ (digitOf? 10 b).toList)
      if low ≤ n && n ≤ high then some (n, rest) else none
    else none
  | _ => none

/-- What follows the character at the front. -/
def expect? (c : Char) : List Char → Option (List Char)
  | [] => none
  | d :: rest => if d = c then some rest else none

/-- A year in which February has 29 days. -/
def isLeap (year : Nat) : Bool := year % 4 == 0 && (year % 100 != 0 || year % 400 == 0)

def daysIn (year month : Nat) : Nat :=
  match month with
  | 2 => if isLeap year then 29 else 28
  | 4 | 6 | 9 | 11 => 30
  | _ => 31

/-- What follows a date. -/
def date? (s : List Char) : Option (List Char) := do
  let (century, s) ← pair? 0 99 s
  let (year, s) ← pair? 0 99 s
  let s ← expect? '-' s
  let (month, s) ← pair? 1 12 s
  let s ← expect? '-' s
  let (_, s) ← pair? 1 (daysIn (100 * century + year) month) s
  return s

/-- What follows the decimals of a second, if there are any. -/
def skipFraction : List Char → List Char
  | '.' :: d :: rest => if isDigit d then rest.dropWhile isDigit else '.' :: d :: rest
  | s => s

/-- What follows a time of day. -/
def time? (s : List Char) : Option (List Char) := do
  let (_, s) ← pair? 0 23 s
  let s ← expect? ':' s
  let (_, s) ← pair? 0 59 s
  let s ← expect? ':' s
  let (_, s) ← pair? 0 60 s
  return skipFraction s

/-- What follows an offset, if there is one. -/
def skipOffset (s : List Char) : List Char :=
  match s with
  | 'Z' :: rest | 'z' :: rest => rest
  | c :: rest =>
    if c = '+' || c = '-' then
      (do
        let (_, s) ← pair? 0 23 rest
        let s ← expect? ':' s
        let (_, s) ← pair? 0 59 s
        return s).getD s
    else s
  | [] => []

/-- What follows a time and an offset after a date, if they are there. -/
def skipTime (s : List Char) : List Char :=
  match s with
  | c :: rest =>
    if c = 'T' || c = 't' || c = ' ' then ((time? rest).map skipOffset).getD s else s
  | [] => []

/-- What follows a date, a time of day, or both. -/
def moment? (s : List Char) : Option (List Char) :=
  match date? s with
  | some rest => some (skipTime rest)
  | none => time? s

end PooledTcp.Toml
