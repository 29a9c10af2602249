import PooledTcp.Number.Binary64

/-!
# Values of a TOML document

A document is a table. The entries of a table are in the order in which the document comes to them
and their keys are distinct.
-/

namespace PooledTcp.Toml

/-- A TOML value. -/
inductive Value where
  | string (text : String)
  /-- A whole number; a document holds only those of 64 bits. -/
  | integer (n : Int)
  | float (x : Binary64)
  | boolean (b : Bool)
  /-- A date, a time of day, or both; which one does not matter here. -/
  | moment
  | array (items : List Value)
  | table (entries : List (String × Value))
  deriving Repr, Inhabited

/-- The entries of a table, in order. -/
abbrev Table := List (String × Value)

end PooledTcp.Toml
