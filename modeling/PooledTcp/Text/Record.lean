/-!
# Written records

Values are shown by name, with their fields in braces or in parentheses: `Empty`, `Config("x")`,
`Stats { idle: 0, open: 1 }`. A record that keeps some fields to itself ends in two dots.
-/

namespace PooledTcp.Text

/-- The fields of a record, each as `name: value`. -/
def fieldTexts (fields : List (String × String)) : List String :=
  fields.map fun (name, value) => name ++ ": " ++ value

/-- A record with all of its fields. -/
def record (name : String) (fields : List (String × String)) : String :=
  name ++ " \x7b " ++ ", ".intercalate (fieldTexts fields) ++ " \x7d"

/-- A record that shows only some of its fields. -/
def partialRecord (name : String) (fields : List (String × String)) : String :=
  name ++ " \x7b " ++ ", ".intercalate (fieldTexts fields ++ [".."]) ++ " \x7d"

/-- A value that wraps another one. -/
def wrapped (name value : String) : String := name ++ "(" ++ value ++ ")"

/-- Several values in brackets. -/
def bracketed (values : List String) : String := "[" ++ ", ".intercalate values ++ "]"

end PooledTcp.Text
