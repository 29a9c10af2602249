import PooledTcp.Log

/-!
# Which log entries are written

A filter is a list of directives with commas between them. A directive is a level, a target, or both with
an equals sign between them; a target without a level lets everything through. Directives that cannot be
read are passed over, and a filter without any lets errors through.
-/

namespace PooledTcp

/-- The most verbose level let through, or nothing at all. -/
inductive Threshold where
  | off
  | upTo (level : LogLevel)
  deriving DecidableEq, Repr

namespace Threshold

def rank : Threshold → Nat
  | off => 0
  | upTo level => level.rank

def name : Threshold → String
  | off => "off"
  | upTo level => level.name.map Char.toLower

/-- Every threshold, in the order of the numbers that stand for them. -/
def all : List Threshold := [off, upTo .error, upTo .warn, upTo .info, upTo .debug, upTo .trace]

/-- A threshold by its name, in letters of any case, or by its number. -/
def ofText? (s : String) : Option Threshold :=
  all.find? fun t => t.name == s.map Char.toLower || toString t.rank == s

end Threshold

namespace LogFilter

/-- A character of a target. -/
def isTargetChar (c : Char) : Bool := c.isAlphanum || c == '_' || c == ':' || c == '-'

def isTarget (s : String) : Bool := !s.isEmpty && s.all isTargetChar

/-- How much a directive lets through. -/
def directive? (s : String) : Option Threshold :=
  match s.splitOn "=" with
  | [one] =>
    match Threshold.ofText? one with
    | some t => some t
    | none => if isTarget one then some (.upTo .trace) else none
  | [target, level] =>
    if isTarget target then
      if level.isEmpty then some (.upTo .trace) else Threshold.ofText? level
    else none
  | _ => none

/-- How much a filter lets through. -/
def threshold (filter : String) : Threshold :=
  let ts := (filter.splitOn ",").filterMap directive?
  match ts with
  | [] => .upTo .error
  | t :: ts => ts.foldl (fun a b => if a.rank < b.rank then b else a) t

/-- The filter for a configured level. -/
def ofLevel (level : String) : String := "netpool=" ++ level ++ ",pool_client=" ++ level

end LogFilter
end PooledTcp
