import Mathlib.Data.Nat.Digits.Defs
import PooledTcp.Net.Address

/-!
# The shape of an address

What is taken for `host:port` is exactly what a grammar says (`isHostPort_iff`): a host that is not empty, whatever
its characters, and behind the last colon a port, which is a decimal number with as many zeros in front as one likes,
perhaps after a plus sign. The value of a number is that of its digits (`Nat.ofDigits`), the last one first.
-/

namespace PooledTcp.Address

/-- The number that digits write, the first one being the most significant. -/
def valueOf (base : Nat) (digit? : Char → Option Nat) (digits : List Char) : Nat :=
  Nat.ofDigits base (digits.reverse.map fun c => (digit? c).getD 0)

/-- A port: decimal digits of a number of 16 bits, perhaps after a plus sign. -/
def IsPort (port : List Char) : Prop :=
  ∃ digits, (port = digits ∨ port = '+' :: digits) ∧ digits ≠ [] ∧ (∀ c ∈ digits, c.isDigit = true) ∧
    valueOf 10 digit? digits ≤ 65535

/-- A host, a colon and a port. -/
def HostPort (s : List Char) : Prop :=
  ∃ host port, s = host ++ ':' :: port ∧ host ≠ [] ∧ ':' ∉ port ∧ IsPort port

variable {s digits : List Char} {base n : Nat} {digit? : Char → Option Nat}

/-- Reading digits one after the other sums them up by their places. -/
theorem foldl_valueOf (digits : List Char) (n : Nat) :
    digits.foldl (fun n c => base * n + (digit? c).getD 0) n =
      valueOf base digit? digits + base ^ digits.length * n := by
  induction digits generalizing n with
  | nil => simp [valueOf]
  | cons c digits ih =>
    have hvalue : valueOf base digit? (c :: digits) =
        valueOf base digit? digits + base ^ digits.length * (digit? c).getD 0 := by
      simp [valueOf, Nat.ofDigits_append]
    rw [List.foldl_cons, ih, hvalue, List.length_cons]
    ring

theorem decimal?_digits (hne : digits ≠ []) (h : ∀ c ∈ digits, c.isDigit = true) :
    decimal? digits = some (valueOf 10 Address.digit? digits) := by
  -- where every character is a digit the reader does not fail
  have hfold : ∀ (ds : List Char) (n : Nat), (∀ c ∈ ds, c.isDigit = true) →
      ds.foldlM (fun n c => (Address.digit? c).map (10 * n + ·)) n =
        some (ds.foldl (fun n c => 10 * n + (Address.digit? c).getD 0) n) := by
    intro ds
    induction ds with
    | nil => exact fun _ _ => rfl
    | cons c ds ih =>
      intro n hds
      obtain ⟨hc, hds⟩ := List.forall_mem_cons.1 hds
      have hdigit : Address.digit? c = some (c.toNat - 48) := if_pos hc
      simp only [List.foldlM_cons, List.foldl_cons, hdigit, Option.map_some, Option.getD_some,
        Option.bind_eq_bind, Option.bind_some]
      exact ih _ hds
  have hread : decimal? digits = digits.foldlM (fun n c => (Address.digit? c).map (10 * n + ·)) 0 := by
    cases digits with
    | nil => exact absurd rfl hne
    | cons c ds => rfl
  rw [hread, hfold _ _ h, foldl_valueOf, Nat.mul_zero, Nat.add_zero]

theorem decimal?_eq_some_iff : decimal? s = some n ↔
    s ≠ [] ∧ (∀ c ∈ s, c.isDigit = true) ∧ valueOf 10 Address.digit? s = n := by
  constructor
  · intro h
    have hne : s ≠ [] := by
      rintro rfl
      cases h
    have hdigits := isDigit_of_decimal? (Option.isSome_of_mem h)
    rw [decimal?_digits hne hdigits] at h
    exact ⟨hne, hdigits, Option.some.inj h⟩
  · rintro ⟨hne, hdigits, rfl⟩
    exact decimal?_digits hne hdigits

/-- A port without a sign is a number. -/
theorem port?_of_unsigned {port : List Char} (h : ∀ digits, port ≠ '+' :: digits) :
    port? port = (decimal? port).filter (· ≤ greatestPort) := by
  rw [port?]
  exact h

theorem isSome_port?_iff {port : List Char} : (port? port).isSome ↔ IsPort port := by
  have hread (digits : List Char) : ((decimal? digits).filter (· ≤ greatestPort)).isSome ↔
      digits ≠ [] ∧ (∀ c ∈ digits, c.isDigit = true) ∧ valueOf 10 Address.digit? digits ≤ 65535 := by
    rw [Option.isSome_iff_exists]
    constructor
    · rintro ⟨n, hn⟩
      obtain ⟨hsome, hle⟩ := Option.filter_eq_some_iff.1 hn
      obtain ⟨hne, hdigits, rfl⟩ := decimal?_eq_some_iff.1 hsome
      exact ⟨hne, hdigits, of_decide_eq_true hle⟩
    · rintro ⟨hne, hdigits, hle⟩
      exact ⟨_, Option.filter_eq_some_iff.2 ⟨decimal?_digits hne hdigits, decide_eq_true hle⟩⟩
  by_cases hsign : ∃ digits, port = '+' :: digits
  · obtain ⟨digits, rfl⟩ := hsign
    constructor
    · intro h
      exact ⟨digits, .inr rfl, (hread digits).1 h⟩
    · rintro ⟨digits', heq | heq, hdigits⟩
      · -- a sign is no digit
        exact absurd (hdigits.2.1 '+' (heq ▸ List.mem_cons_self)) (by decide)
      · obtain rfl : digits = digits' := List.tail_eq_of_cons_eq heq
        exact (hread digits).2 hdigits
  · have hunsigned : ∀ digits, port ≠ '+' :: digits := fun digits heq => hsign ⟨digits, heq⟩
    rw [port?_of_unsigned hunsigned, hread]
    constructor
    · intro h
      exact ⟨port, .inl rfl, h⟩
    · rintro ⟨digits, rfl | heq, hdigits⟩
      · exact hdigits
      · exact absurd heq (hunsigned digits)

/-- What has the shape of an address is what the grammar says. -/
theorem isHostPort_iff : isHostPort s = true ↔ HostPort s := by
  constructor
  · intro h
    rw [isHostPort] at h
    split at h
    · rename_i host port hsplit
      obtain ⟨hs, hcolon⟩ := splitLastColon_eq_some_iff.1 hsplit
      simp only [Bool.and_eq_true, Bool.not_eq_true', List.isEmpty_eq_false_iff] at h
      exact ⟨host, port, hs, h.1, hcolon, isSome_port?_iff.1 h.2⟩
    · cases h
  · rintro ⟨host, port, hs, hhost, hcolon, hport⟩
    rw [isHostPort, splitLastColon_eq_some_iff.2 ⟨hs, hcolon⟩]
    simpa [hhost] using isSome_port?_iff.2 hport

end PooledTcp.Address
