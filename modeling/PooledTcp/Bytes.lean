/-!
# Bytes

Payloads are lists of bytes. A short one is shown in hexadecimal; a long one by its length and its
64-bit FNV-1a hash, `digest`.
-/

namespace PooledTcp

abbrev Bytes := List UInt8

namespace Bytes

/-- One hash step: mix the byte in, then multiply by the prime. -/
def mix (h : UInt64) (b : UInt8) : UInt64 := (h ^^^ b.toUInt64) * 1099511628211

/-- The 64-bit FNV-1a hash. -/
def digest (bytes : Bytes) : UInt64 := bytes.foldl mix 14695981039346656037

/-- A number in at least `width` hexadecimal digits. -/
def hexNumber (width n : Nat) : String :=
  let digits := Nat.toDigits 16 n
  String.ofList (List.replicate (width - digits.length) '0' ++ digits)

/-- Two digits for each byte. -/
def hex (bytes : Bytes) : String := String.join (bytes.map fun b => hexNumber 2 b.toNat)

/-- The value of a hexadecimal digit. -/
def hexDigit? (c : Char) : Option Nat :=
  let n := c.toNat
  if 48 ≤ n && n ≤ 57 then some (n - 48)
  else if 97 ≤ n && n ≤ 102 then some (n - 87)
  else if 65 ≤ n && n ≤ 70 then some (n - 55)
  else none

/-- The bytes that a hexadecimal text shows. -/
def ofHex? : List Char → Option Bytes
  | [] => some []
  | a :: b :: rest => do
    let high ← hexDigit? a
    let low ← hexDigit? b
    let bytes ← ofHex? rest
    return UInt8.ofNat (16 * high + low) :: bytes
  | [_] => none

/-- `count` bytes that count up from `first` and wrap. -/
def counting (first count : Nat) : Bytes :=
  (List.range count).map fun i => UInt8.ofNat (first + i)

/-- The bytes of a text. -/
def ofText (s : String) : Bytes := s.toUTF8.toList

/-- The text that bytes hold, if they are valid UTF-8. -/
def toText? (bytes : Bytes) : Option String := String.fromUTF8? ⟨bytes.toArray⟩

end Bytes
end PooledTcp
