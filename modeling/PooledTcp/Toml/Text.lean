import PooledTcp.Bytes
import PooledTcp.Toml.Line

/-!
# Strings in a document

A string stands between double quotes, where a backslash begins an escape, or between single quotes,
where every character stands for itself. Three quotes open a string that may span lines; a line break
right after them does not count, and up to two quotes may stand right before the closing ones. A
backslash at the end of such a line joins it to the next text.

`quotedText` reads what is between double quotes and `escapedText` writes it.
-/

namespace PooledTcp.Toml

/-- Where a reader of double quotes stands. -/
inductive Mode where
  | plain
  /-- After a backslash. -/
  | escaped
  /-- In the number of a character, with `left` digits to come. -/
  | number (left value : Nat)
  /-- Joining lines; `broken` once the line break has come. -/
  | joining (broken : Bool)

/-- What a backslash and a letter begin. -/
inductive Escape where
  | char (c : Char)
  | digits (count : Nat)

def escape? (c : Char) : Option Escape :=
  match c with
  | 'b' => some (.char '\x08')
  | 't' => some (.char '\t')
  | 'n' => some (.char '\n')
  | 'f' => some (.char '\x0c')
  | 'r' => some (.char '\r')
  | '"' => some (.char '"')
  | '\\' => some (.char '\\')
  | 'u' => some (.digits 4)
  | 'U' => some (.digits 8)
  | _ => none

/-- The character with that number, if there is one. -/
def scalar? (n : Nat) : Option Char := if n.isValidChar then some (Char.ofNat n) else none

/-- A character read before the rest of the text. -/
def push (c : Char) : Option (List Char × List Char) → Option (List Char × List Char)
  | some (text, rest) => some (c :: text, rest)
  | none => none

/-- The text up to the closing double quote, and what follows it. -/
def quotedText : Mode → List Char → Option (List Char × List Char)
  | _, [] => none
  | .escaped, c :: rest =>
    match escape? c with
    | some (.char d) => push d (quotedText .plain rest)
    | some (.digits n) => quotedText (.number n 0) rest
    | none => none
  | .number left value, c :: rest =>
    match Bytes.hexDigit? c with
    | none => none
    | some d =>
      if left ≤ 1 then
        match scalar? (16 * value + d) with
        | some x => push x (quotedText .plain rest)
        | none => none
      else quotedText (.number (left - 1) (16 * value + d)) rest
  | _, c :: rest =>
    if c = '"' then some ([], rest)
    else if c = '\\' then quotedText .escaped rest
    else if isTextual c then push c (quotedText .plain rest)
    else none

/-- The quotes, two at most, that stand before the closing three: those were read already. -/
def lastQuotes (quote : Char) : List Char → List Char × List Char
  | a :: b :: rest =>
    if a = quote then
      if b = quote then ([quote, quote], rest) else ([quote], b :: rest)
    else ([], a :: b :: rest)
  | [a] => if a = quote then ([quote], []) else ([], [a])
  | [] => ([], [])

/-- What follows three of these quotes. -/
def threeQuotes? (quote : Char) : List Char → Option (List Char)
  | a :: b :: c :: rest => if a = quote ∧ b = quote ∧ c = quote then some rest else none
  | _ => none

/-- The text of several lines up to the closing double quotes, and what follows them. -/
def quotedLines : Mode → List Char → Option (List Char × List Char)
  | _, [] => none
  | .number left value, c :: rest =>
    match Bytes.hexDigit? c with
    | none => none
    | some d =>
      if left ≤ 1 then
        match scalar? (16 * value + d) with
        | some x => push x (quotedLines .plain rest)
        | none => none
      else quotedLines (.number (left - 1) (16 * value + d)) rest
  | .escaped, c :: rest =>
    match escape? c with
    | some (.char d) => push d (quotedLines .plain rest)
    | some (.digits n) => quotedLines (.number n 0) rest
    | none =>
      if isSpace c then quotedLines (.joining false) rest
      else if c = '\n' then quotedLines (.joining true) rest
      else if c = '\r' && rest.head? == some '\n' then quotedLines (.joining false) rest
      else none
  | .joining false, c :: rest =>
    if isSpace c then quotedLines (.joining false) rest
    else if c = '\n' then quotedLines (.joining true) rest
    else if c = '\r' && rest.head? == some '\n' then quotedLines (.joining false) rest
    else none
  | mode, c :: rest =>
    let joining := match mode with | .joining _ => true | _ => false
    if joining && isSpace c then quotedLines (.joining true) rest
    else if c = '\n' then
      if joining then quotedLines (.joining true) rest else push c (quotedLines .plain rest)
    else if c = '\r' then
      if rest.head? = some '\n' then
        quotedLines (if joining then .joining true else .plain) rest
      else none
    else if c = '"' then
      match threeQuotes? '"' (c :: rest) with
      | some rest => some (lastQuotes '"' rest)
      | none => push c (quotedLines .plain rest)
    else if c = '\\' then quotedLines .escaped rest
    else if isTextual c then push c (quotedLines .plain rest)
    else none

/-- The text up to the closing single quote, and what follows it. -/
def literalText : List Char → Option (List Char × List Char)
  | [] => none
  | c :: rest =>
    if c = '\'' then some ([], rest)
    else if isTextual c then push c (literalText rest)
    else none

/-- The text of several lines up to the closing single quotes, and what follows them. -/
def literalLines : List Char → Option (List Char × List Char)
  | [] => none
  | c :: rest =>
    if c = '\'' then
      match threeQuotes? '\'' (c :: rest) with
      | some rest => some (lastQuotes '\'' rest)
      | none => push c (literalLines rest)
    else if c = '\r' then if rest.head? = some '\n' then literalLines rest else none
    else if c = '\n' || isTextual c then push c (literalLines rest)
    else none

/-- What follows a line break, if there is one. -/
def skipLineBreak (s : List Char) : List Char := (lineBreak? s).getD s

/-- A string on one line, from its opening quote. -/
def lineString? : List Char → Option (String × List Char)
  | '"' :: rest => (quotedText .plain rest).map fun (text, rest) => (String.ofList text, rest)
  | '\'' :: rest => (literalText rest).map fun (text, rest) => (String.ofList text, rest)
  | _ => none

/-- A string of any kind, from its opening quotes. -/
def string? (s : List Char) : Option (String × List Char) :=
  match threeQuotes? '"' s, threeQuotes? '\'' s with
  | some rest, _ =>
    (quotedLines .plain (skipLineBreak rest)).map fun (text, rest) => (String.ofList text, rest)
  | none, some rest =>
    (literalLines (skipLineBreak rest)).map fun (text, rest) => (String.ofList text, rest)
  | none, none => lineString? s

/-- How a character is written between double quotes. -/
def escapedChar (c : Char) : List Char :=
  if c = '"' then ['\\', '"']
  else if c = '\\' then ['\\', '\\']
  else if isTextual c then [c]
  else '\\' :: 'u' :: (List.replicate (4 - (Nat.toDigits 16 c.toNat).length) '0' ++
    Nat.toDigits 16 c.toNat)

/-- A text as it stands between double quotes. -/
def escapedText (s : List Char) : List Char := s.flatMap escapedChar

end PooledTcp.Toml
