/-!
# Command lines

A command line is read from left to right. An option has a long name after two dashes and may have a short one
after a single dash; its value stands in the same word, perhaps after an equals sign, or is the next word, which then
may not begin with a dash. A word of short names may end in an option with its value. Nothing may be given twice, and
there are no other words. Asking for help or for the version ends the reading at once.
-/

namespace PooledTcp.Cli

/-- What an option is for. -/
inductive OptionKind where
  /-- It has a value, which must be acceptable. -/
  | value (accepts : String → Bool)
  | flag
  | help
  | version

/-- An option of a program. -/
structure OptionSpec where
  long : String
  short : Option Char := none
  kind : OptionKind

/-- Why a command line does not lead to a run. -/
inductive Halt where
  /-- It cannot be understood. -/
  | misused
  | help
  | version
  deriving DecidableEq, Repr

/-- The values given, by the long name of the option. -/
abbrev Given := List (String × String)

/-- The options that every program has. -/
def commonOptions : List OptionSpec :=
  [{ long := "help", short := some 'h', kind := .help },
   { long := "version", short := some 'V', kind := .version }]

/-- A word that can be the value of the option before it. -/
def isValue (word : List Char) : Bool :=
  match word with
  | ['-'] => true
  | '-' :: _ => false
  | _ => true

/-- Take down a value. -/
def give (spec : OptionSpec) (accepts : String → Bool) (value : List Char) (given : Given) :
    Except Halt Given :=
  let value := String.ofList value
  if (given.lookup spec.long).isSome || !accepts value then .error .misused
  else .ok (given ++ [(spec.long, value)])

/-- An option without a value. -/
def giveFlag (spec : OptionSpec) (given : Given) : Except Halt Given :=
  match spec.kind with
  | .help => .error .help
  | .version => .error .version
  | _ => give spec (fun _ => true) [] given

/-- What is left to read after a word. -/
inductive Next where
  /-- The next word is the value of an option. -/
  | valueOf (spec : OptionSpec) (accepts : String → Bool)
  | anything

/-- The name and the attached value of a word with two dashes. -/
def splitEquals : List Char → List Char × Option (List Char)
  | [] => ([], none)
  | '=' :: value => ([], some value)
  | c :: rest =>
    let (name, value) := splitEquals rest
    (c :: name, value)

/-- Read a word with two dashes, less the dashes. -/
def longWord (specs : List OptionSpec) (word : List Char) (given : Given) :
    Except Halt (Given × Next) :=
  let (name, attached) := splitEquals word
  match specs.find? (·.long == String.ofList name) with
  | none => .error .misused
  | some spec =>
    match spec.kind, attached with
    | .value accepts, some value => (give spec accepts value given).map (·, .anything)
    | .value accepts, none => .ok (given, .valueOf spec accepts)
    | _, some _ => .error .misused
    | _, none => (giveFlag spec given).map (·, .anything)

/-- Read a word of short names, less the dash. -/
def shortWord (specs : List OptionSpec) : List Char → Given → Except Halt (Given × Next)
  | [], given => .ok (given, .anything)
  | c :: rest, given =>
    match specs.find? (·.short == some c) with
    | none => .error .misused
    | some spec =>
      match spec.kind with
      | .value accepts =>
        match rest with
        | [] => .ok (given, .valueOf spec accepts)
        | '=' :: value => (give spec accepts value given).map (·, .anything)
        | value => (give spec accepts value given).map (·, .anything)
      | _ => giveFlag spec given >>= shortWord specs rest

/-- Read words. -/
def readWords (specs : List OptionSpec) : Next → List (List Char) → Given → Except Halt Given
  | .anything, [], given => .ok given
  | .valueOf _ _, [], _ => .error .misused
  | .valueOf spec accepts, word :: words, given =>
    if isValue word then give spec accepts word given >>= readWords specs .anything words
    else .error .misused
  | .anything, word :: words, given =>
    match word with
    | ['-', '-'] => if words.isEmpty then .ok given else .error .misused
    | '-' :: '-' :: word => do
      let (given, next) ← longWord specs word given
      readWords specs next words given
    | '-' :: c :: word => do
      let (given, next) ← shortWord specs (c :: word) given
      readWords specs next words given
    | _ => .error .misused

/-- Read a command line. -/
def readArguments (specs : List OptionSpec) (args : List String) : Except Halt Given :=
  readWords (specs ++ commonOptions) .anything (args.map (·.toList)) []

/-- The 64-bit number that a value writes, perhaps after a plus sign. -/
def number? (s : String) : Option UInt64 :=
  let digits := match s.toList with
    | '+' :: ds => ds
    | ds => ds
  if digits.isEmpty || !digits.all Char.isDigit then none
  else
    let n := digits.foldl (fun n c => 10 * n + (c.toNat - 48)) 0
    if n < UInt64.size then some (UInt64.ofNat n) else none

/-- The value given for an option, or its default. -/
def valueOr (given : Given) (long fallback : String) : String := (given.lookup long).getD fallback

/-- The number given for an option, or its default. -/
def numberOr (given : Given) (long : String) (fallback : UInt64) : UInt64 :=
  ((given.lookup long).bind number?).getD fallback

end PooledTcp.Cli
