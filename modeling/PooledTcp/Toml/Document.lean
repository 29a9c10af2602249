import PooledTcp.Toml.Draft
import PooledTcp.Toml.Moment
import PooledTcp.Toml.Text

/-!
# TOML documents

`document? text` is the table that a document holds, or `none` where the text is no document. Values
are nested to a depth of `depthLimit` at most, and a dotted key has at most so many parts.
-/

namespace PooledTcp.Toml

/-- How deep arrays and inline tables may be nested, and how many parts a key may have. -/
def depthLimit : Nat := 79

/-- A character of a key without quotes. -/
def isBare (c : Char) : Bool :=
  isDigit c || ('A' ≤ c && c ≤ 'Z') || ('a' ≤ c && c ≤ 'z') || c == '_' || c == '-'

/-- One part of a key. -/
def keyPart? (s : List Char) : Option (String × List Char) :=
  match s with
  | '"' :: _ => lineString? s
  | '\'' :: _ => lineString? s
  | _ =>
    match s.takeWhile isBare with
    | [] => none
    | cs => some (String.ofList cs, s.dropWhile isBare)

/-- A key of at most `limit` parts with dots between them: the parts before the last one, and the
last one. Spaces may stand around each part. -/
def key? : Nat → List Char → Option ((List String × String) × List Char)
  | 0, _ => none
  | limit + 1, s =>
    match keyPart? (skipSpace s) with
    | none => none
    | some (part, s) =>
      match skipSpace s with
      | '.' :: s => (key? limit s).map fun ((path, last), s) => ((part :: path, last), s)
      | s => some (([], part), s)

/-- A key, an equals sign and a value. -/
def assignment? (value? : List Char → Option (Value × List Char)) (s : List Char) :
    Option (Assignment × List Char) := do
  let ((path, key), s) ← key? depthLimit s
  let s ← expect? '=' s
  let (value, s) ← value? (skipSpace s)
  return ({ path, key, value }, s)

/-- The items of an array up to its end, from an item or the end. At most `bound` items. -/
def items? (value? : List Char → Option (Value × List Char)) :
    Nat → List Char → Option (List Value × List Char)
  | _, ']' :: rest => some ([], rest)
  | 0, _ => none
  | bound + 1, s => do
    let (v, s) ← value? s
    let s ← skipBlank? false s
    match s with
    | ',' :: s =>
      let s ← skipBlank? false s
      let (vs, s) ← items? value? bound s
      return (v :: vs, s)
    | ']' :: s => return ([v], s)
    | _ => none

/-- The assignments of an inline table up to its end. At most `bound` of them. -/
def inlineLines? (value? : List Char → Option (Value × List Char)) :
    Nat → List Char → Option (List Assignment × List Char)
  | 0, _ => none
  | bound + 1, s => do
    let (a, s) ← assignment? value? s
    match skipSpace s with
    | ',' :: s =>
      let (as, s) ← inlineLines? value? bound s
      return (a :: as, s)
    | '\x7d' :: s => return ([a], s)
    | _ => none

/-- A value with at most `depth` arrays and inline tables around each other. -/
def value? : Nat → List Char → Option (Value × List Char)
  | _, [] => none
  | depth, c :: rest =>
    if c = '"' || c = '\'' then (string? (c :: rest)).map fun (text, s) => (.string text, s)
    else if c = '[' then
      match depth with
      | 0 => none
      | depth + 1 => do
        let s ← skipBlank? false rest
        let (vs, s) ← items? (value? depth) s.length s
        return (.array vs, s)
    else if c = '\x7b' then
      match depth with
      | 0 => none
      | depth + 1 =>
        match skipSpace rest with
        | '\x7d' :: s => some (.table [], s)
        | s => do
          let (as, s) ← inlineLines? (value? depth) s.length s
          let es ← assignAll as []
          return (.table (entriesToTable es), s)
    else
      match c, rest with
      | 't', 'r' :: 'u' :: 'e' :: s => some (.boolean true, s)
      | 'f', 'a' :: 'l' :: 's' :: 'e' :: s => some (.boolean false, s)
      | _, _ =>
        match moment? (c :: rest) with
        | some s => some (.moment, s)
        | none => number? (c :: rest)

/-- A line that says something. -/
inductive Line where
  | assign (a : Assignment)
  /-- A header; `isRow` when its brackets are doubled. -/
  | header (isRow : Bool) (path : List String) (key : String)

/-- One such line, its end included. -/
def line? (s : List Char) : Option (Line × List Char) :=
  match s with
  | '[' :: '[' :: s => do
    let ((path, key), s) ← key? depthLimit s
    let s ← expect? ']' s
    let s ← expect? ']' s
    let s ← lineEnd? false s
    return (.header true path key, s)
  | '[' :: s => do
    let ((path, key), s) ← key? depthLimit s
    let s ← expect? ']' s
    let s ← lineEnd? false s
    return (.header false path key, s)
  | s => do
    let (a, s) ← assignment? (value? depthLimit) s
    let s ← lineEnd? false s
    return (.assign a, s)

/-- All lines. At most `bound` of them. -/
def lines? : Nat → List Char → Option (List Line)
  | bound, s =>
    match skipBlank? false s with
    | none => none
    | some [] => some []
    | some s =>
      match bound with
      | 0 => none
      | bound + 1 => do
        let (l, s) ← line? s
        let ls ← lines? bound s
        return l :: ls

/-- The lines before the first header, and the sections. -/
def sections : List Line → List Assignment × List Section
  | [] => ([], [])
  | .assign a :: ls => let (as, ss) := sections ls; (a :: as, ss)
  | .header isRow path key :: ls =>
    let (as, ss) := sections ls
    ([], { isRow, path, key, lines := as } :: ss)

/-- The table that lines make. -/
def assemble? (ls : List Line) : Option Table :=
  let (first, rest) := sections ls
  ((assignAll first []).bind (sectionAll rest)).map entriesToTable

/-- A text without the mark of byte order at its front. -/
def withoutMark : List Char → List Char
  | c :: s => if c = '\uFEFF' then s else c :: s
  | [] => []

/-- The table that a document holds. -/
def document? (text : String) : Option Table :=
  let s := withoutMark text.toList
  (lines? s.length s).bind assemble?

/-- The document that characters make. -/
theorem document?_ofList (cs : List Char) :
    document? (String.ofList cs) =
      (lines? (withoutMark cs).length (withoutMark cs)).bind assemble? := by
  rw [document?, String.toList_ofList]

end PooledTcp.Toml
