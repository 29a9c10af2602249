import PooledTcp.Bytes
import PooledTcp.IoError

/-!
# Written addresses

Two grammars. `isHostPort` is the shape `host:port` that opens a socket: all up to the last colon is the
host and may not be empty, and the rest is a port, which may have a plus sign and zeros in front.
`isNumeric` is the shape that needs no resolution: four decimal bytes or a bracketed address of eight
groups, and a port without a sign. `lookUp` says what becomes of an address when a socket is opened for
it.
-/

namespace PooledTcp.Address

/-- The greatest port. -/
def greatestPort : Nat := 65535

/-- The text before and the text after the last colon. -/
def splitLastColon : List Char → Option (List Char × List Char)
  | [] => none
  | c :: s =>
    match splitLastColon s with
    | some (before, after) => some (c :: before, after)
    | none => if c = ':' then some ([], s) else none

/-- The value of a decimal digit. -/
def digit? (c : Char) : Option Nat := if c.isDigit then some (c.toNat - 48) else none

/-- The number that decimal digits write; there must be one at least. -/
def decimal? : List Char → Option Nat
  | [] => none
  | s => s.foldlM (fun n c => (digit? c).map (10 * n + ·)) 0

/-- A port: digits, perhaps after a plus sign, of a number that is not too great. -/
def port? (s : List Char) : Option Nat :=
  let digits := match s with
    | '+' :: s => s
    | s => s
  (decimal? digits).filter (· ≤ greatestPort)

theorem splitLastColon_eq_none_iff {s : List Char} : splitLastColon s = none ↔ ':' ∉ s := by
  induction s with
  | nil => simp [splitLastColon]
  | cons c s ih =>
    cases hs : splitLastColon s with
    | some parts =>
      have hmem : ':' ∈ s := Classical.not_not.1 fun hnot => by cases hs.symm.trans (ih.2 hnot)
      simp [splitLastColon, hs, hmem]
    | none => simp [splitLastColon, hs, ih.1 hs, eq_comm]

/-- A text is split at the colon behind which there is no other. -/
theorem splitLastColon_eq_some_iff {s before after : List Char} :
    splitLastColon s = some (before, after) ↔ s = before ++ ':' :: after ∧ ':' ∉ after := by
  constructor
  · intro h
    induction s generalizing before with
    | nil => cases h
    | cons c s ih =>
      cases hs : splitLastColon s with
      | some parts =>
        obtain ⟨start, rest⟩ := parts
        simp only [splitLastColon, hs, Option.some.injEq, Prod.mk.injEq] at h
        obtain ⟨rfl, rfl⟩ := h
        obtain ⟨rfl, hnot⟩ := ih hs
        exact ⟨rfl, hnot⟩
      | none =>
        simp only [splitLastColon, hs, Option.ite_none_right_eq_some, Option.some.injEq,
          Prod.mk.injEq] at h
        obtain ⟨rfl, rfl, rfl⟩ := h
        exact ⟨rfl, splitLastColon_eq_none_iff.1 hs⟩
  · rintro ⟨rfl, hnot⟩
    induction before with
    | nil => simp [splitLastColon, splitLastColon_eq_none_iff.2 hnot]
    | cons c before ih => simp [splitLastColon, ih]

/-- A number is written with digits alone. -/
theorem isDigit_of_decimal? {s : List Char} (h : (decimal? s).isSome) : ∀ c ∈ s, c.isDigit = true := by
  suffices hfold : ∀ n, (s.foldlM (fun n c => (digit? c).map (10 * n + ·)) n).isSome →
      ∀ c ∈ s, c.isDigit = true by
    cases s with
    | nil => exact List.forall_mem_nil _
    | cons c s => exact hfold 0 h
  clear h
  induction s with
  | nil => exact fun _ _ => List.forall_mem_nil _
  | cons c s ih =>
    intro n hn
    cases hc : c.isDigit with
    | false => simp [digit?, hc] at hn
    | true =>
      simp only [List.foldlM_cons, digit?, hc, if_true, Option.map_some, Option.bind_eq_bind,
        Option.bind_some] at hn
      exact List.forall_mem_cons.2 ⟨hc, ih _ hn⟩

/-- A port is written with digits and a plus sign. -/
theorem eq_plus_or_isDigit_of_port? {s : List Char} (h : (port? s).isSome) :
    ∀ c ∈ s, c = '+' ∨ c.isDigit = true := by
  obtain ⟨n, hn⟩ := Option.isSome_iff_exists.1 h
  have hdigits := isDigit_of_decimal? (Option.isSome_of_mem (Option.filter_eq_some_iff.1 hn).1)
  intro c hc
  split at hdigits
  · rcases List.mem_cons.1 hc with rfl | hc
    · exact .inl rfl
    · exact .inr (hdigits c hc)
  · exact .inr (hdigits c hc)

/-- Whether a text has the shape `host:port`. -/
def isHostPort (s : List Char) : Bool :=
  match splitLastColon s with
  | some (host, port) => !host.isEmpty && (port? port).isSome
  | none => false

/-! Numeric addresses. Each reader returns what follows. -/

/-- A number of at most `most` digits of that base, which is at most `bound`. -/
def number? (digit? : Char → Option Nat) (base most bound : Nat) (zeros : Bool) (s : List Char) :
    Option (List Char) :=
  let ds := s.takeWhile fun c => (digit? c).isSome
  let n := ds.foldl (fun n c => base * n + (digit? c).getD 0) 0
  if ds.isEmpty || most < ds.length || bound < n || (!zeros && ds.head? == some '0' && 1 < ds.length)
  then none
  else some (s.drop ds.length)

/-- One of the four bytes, without zeros in front. -/
def octet? : List Char → Option (List Char) := number? digit? 10 3 255 false

/-- What follows the given character. -/
def char? (c : Char) : List Char → Option (List Char)
  | [] => none
  | d :: s => if d = c then some s else none

/-- Four bytes with dots between them. -/
def four? (s : List Char) : Option (List Char) := do
  let s ← octet? s
  let s ← octet? (← char? '.' s)
  let s ← octet? (← char? '.' s)
  octet? (← char? '.' s)

/-- One of the eight groups. -/
def group? : List Char → Option (List Char) := number? Bytes.hexDigit? 16 4 greatestPort true

/-- As many groups as there are, `most` at most: their number, whether the last two are written as four
bytes, and what follows. `first` tells whether no colon stands before the first. -/
def groups (first : Bool) : Nat → List Char → Nat × Bool × List Char
  | 0, s => (0, false, s)
  | most + 1, s =>
    let start := if first then some s else char? ':' s
    match (if most = 0 then none else start.bind four?) with
    | some rest => (2, true, rest)
    | none =>
      match start.bind group? with
      | none => (0, false, s)
      | some rest =>
        let (n, four, rest) := groups false most rest
        (n + 1, four, rest)

/-- Eight groups, of which two colons may stand for a run of zeros. -/
def eight? (s : List Char) : Option (List Char) :=
  let (n, four, rest) := groups true 8 s
  if n = 8 then some rest
  else if four then none
  else do
    let rest ← char? ':' (← char? ':' rest)
    return (groups true (7 - n) rest).2.2

/-- A colon and a port without a sign. -/
def numericPort? (s : List Char) : Option (List Char) := do
  let s ← char? ':' s
  number? digit? 10 s.length greatestPort true s

/-- A bracketed address, perhaps with the number of a scope. -/
def bracketed? (s : List Char) : Option (List Char) := do
  let s ← eight? (← char? '[' s)
  let s := match s with
    | '%' :: scope => (number? digit? 10 scope.length (UInt32.size - 1) true scope).getD s
    | s => s
  char? ']' s

/-- Whether a text is an address that needs no resolution, with a port. -/
def isNumeric (s : List Char) : Bool :=
  ((four? s).bind numericPort? == some []) || ((bracketed? s).bind numericPort? == some [])

/-- What an address is good for when a socket is opened. -/
inductive Lookup where
  /-- It is numeric. -/
  | numeric
  /-- Its host has to be resolved. -/
  | host
  | failed (error : IoError)

/-- What becomes of an address when a socket is opened. -/
def lookUp (s : List Char) : Lookup :=
  if isNumeric s then .numeric
  else
    match splitLastColon s with
    | none => .failed (.standard .invalidInput "invalid socket address")
    | some (_, port) =>
      if (port? port).isSome then .host
      else .failed (.standard .invalidInput "invalid port value")

end PooledTcp.Address
