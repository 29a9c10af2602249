import PooledTcp.Toml.Value

/-!
# Tables under construction

The tables of a document come about in three ways: under a header of their own, because a header names
something inside of them, or because a dotted key does. A `Draft` remembers which, because that decides
what later lines may add: a header may give a table that was only passed through its own lines, once;
a dotted key may reach only what dotted keys made. A key is never set twice.
-/

namespace PooledTcp.Toml

/-- How a table came about. -/
inductive Origin where
  /-- By its own header, or as a whole. -/
  | header
  /-- A header names something inside of it. -/
  | passed
  /-- A dotted key names something inside of it. -/
  | dotted
  deriving DecidableEq, Repr

/-- What stands under a key while the document is being read. -/
inductive Draft where
  | value (v : Value)
  | table (origin : Origin) (entries : List (String × Draft))
  /-- Tables under one repeated header: the finished ones, and the entries of the last one. -/
  | rows (earlier : List Value) (last : List (String × Draft))

/-- The entries of a table under construction, in order. -/
abbrev Entries := List (String × Draft)

mutual

/-- What a draft holds. -/
def Draft.toValue : Draft → Value
  | .value v => v
  | .table _ es => .table (entriesToTable es)
  | .rows earlier last => .array (earlier ++ [.table (entriesToTable last)])

/-- What the entries hold. -/
def entriesToTable : List (String × Draft) → List (String × Value)
  | [] => []
  | (k, d) :: es => (k, d.toValue) :: entriesToTable es

end

/-- Key `k` gets a new draft and keeps its place. -/
def replace (k : String) (d : Draft) : Entries → Entries
  | [] => []
  | (l, e) :: es => if l = k then (l, d) :: es else (l, e) :: replace k d es

/-- The entries without key `k`. -/
def without (k : String) (es : Entries) : Entries := es.filter (·.1 != k)

/-- Change the table at the end of a path. Tables that are missing on the way are made, by a dotted key
or by a header; a dotted key passes through no table that has a header of its own. -/
def within (byDots : Bool) (change : Origin → Entries → Option Entries) :
    List String → Origin → Entries → Option Entries
  | [], origin, es => change origin es
  | k :: path, _, es =>
    match es.lookup k with
    | none =>
      let made : Origin := if byDots then .dotted else .passed
      (within byDots change path made []).map fun inner => es ++ [(k, .table made inner)]
    | some (.value _) => none
    | some (.rows earlier last) =>
      (within byDots change path .header last).map fun last => replace k (.rows earlier last) es
    | some (.table origin inner) =>
      if byDots && origin = .header then none
      else (within byDots change path origin inner).map fun inner =>
        replace k (.table origin inner) es

/-- A value under a key, which may be dotted: the tables that it names on the way, and the last
part. -/
structure Assignment where
  path : List String
  key : String
  value : Value

/-- Set a key of a table. A dotted key sets it in a table that dotted keys made. -/
def Assignment.apply (a : Assignment) (es : Entries) : Option Entries :=
  within true (fun origin es =>
    if (origin == .dotted) == !a.path.isEmpty && (es.lookup a.key).isNone then
      some (es ++ [(a.key, .value a.value)])
    else none) a.path .header es

/-- Set several keys of a table. -/
def assignAll : List Assignment → Entries → Option Entries
  | [], es => some es
  | a :: as, es => (a.apply es).bind (assignAll as)

/-- A header and the lines under it. -/
structure Section where
  /-- One more row under that name, and not the one table of it. -/
  isRow : Bool
  path : List String
  key : String
  lines : List Assignment

/-- Add a section to the document. A table that was only passed through so far keeps its entries and
moves behind its neighbours. -/
def Section.apply (s : Section) (root : Entries) : Option Entries :=
  within false (fun _ es =>
    match s.isRow, es.lookup s.key with
    | true, none => (assignAll s.lines []).map fun last => es ++ [(s.key, .rows [] last)]
    | true, some (.rows earlier last) =>
      (assignAll s.lines []).map fun next =>
        replace s.key (.rows (earlier ++ [.table (entriesToTable last)]) next) es
    | false, none => (assignAll s.lines []).map fun inner => es ++ [(s.key, .table .header inner)]
    | false, some (.table .passed inner) =>
      (assignAll s.lines inner).map fun inner => without s.key es ++ [(s.key, .table .header inner)]
    | _, _ => none) s.path .header root

/-- Add sections to the document, one after the other. -/
def sectionAll : List Section → Entries → Option Entries
  | [], root => some root
  | s :: ss, root => (s.apply root).bind (sectionAll ss)

end PooledTcp.Toml
