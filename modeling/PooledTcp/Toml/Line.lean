/-!
# Spaces, comments and ends of lines

A line ends in a line feed, with or without a carriage return before it; a carriage return by itself
stands nowhere. A comment runs from `#` to the end of its line.
-/

namespace PooledTcp.Toml

/-- A space or a tab. -/
def isSpace (c : Char) : Bool := c == ' ' || c == '\t'

/-- A character that may stand in a comment or a text: no control character but the tab. -/
def isTextual (c : Char) : Bool := c == '\t' || (0x20 ≤ c.toNat && c.toNat != 0x7F)

/-- What follows the spaces. -/
def skipSpace (s : List Char) : List Char := s.dropWhile isSpace

/-- What follows the line break at the front. -/
def lineBreak? : List Char → Option (List Char)
  | '\n' :: rest => some rest
  | '\r' :: '\n' :: rest => some rest
  | _ => none

/-- What follows the rest of a line that holds nothing more, but perhaps a comment. `comment` tells
whether one has begun. -/
def lineEnd? (comment : Bool) : List Char → Option (List Char)
  | [] => some []
  | '\n' :: rest => some rest
  | c :: rest =>
    if c = '\r' then lineBreak? (c :: rest)
    else if comment then if isTextual c then lineEnd? true rest else none
    else if isSpace c then lineEnd? false rest
    else if c = '#' then lineEnd? true rest
    else none

/-- What follows the spaces, line breaks and comments. `comment` tells whether one has begun. -/
def skipBlank? (comment : Bool) : List Char → Option (List Char)
  | [] => some []
  | '\n' :: rest => skipBlank? false rest
  | c :: rest =>
    if c = '\r' then if rest.head? = some '\n' then skipBlank? false rest else none
    else if comment then if isTextual c then skipBlank? true rest else none
    else if isSpace c then skipBlank? false rest
    else if c = '#' then skipBlank? true rest
    else some (c :: rest)

end PooledTcp.Toml
