/-!
# White space at the ends of a text

The 25 blank characters are those of the Unicode property `White_Space`. `trim` drops them from both
ends of a text and keeps what is between (`trimChars_between`).
-/

namespace PooledTcp.Text

/-- A white space character. -/
def isBlank (c : Char) : Bool :=
  let n := c.toNat
  (9 ≤ n && n ≤ 13) || n == 0x20 || n == 0x85 || n == 0xA0 || n == 0x1680 ||
    (0x2000 ≤ n && n ≤ 0x200A) || n == 0x2028 || n == 0x2029 || n == 0x202F || n == 0x205F ||
    n == 0x3000

/-- `cs` without its last blanks. -/
def trimRight (cs : List Char) : List Char := (cs.reverse.dropWhile isBlank).reverse

/-- `cs` without its first and its last blanks. -/
def trimChars (cs : List Char) : List Char := trimRight (cs.dropWhile isBlank)

/-- A text without the blanks at its ends. -/
def trim (s : String) : String := String.ofList (trimChars s.toList)

theorem trimRight_append (cs : List Char) :
    ∃ tail, cs = trimRight cs ++ tail ∧ ∀ c ∈ tail, isBlank c = true := by
  refine ⟨(cs.reverse.takeWhile isBlank).reverse, ?_, fun c hc => ?_⟩
  · rw [trimRight, ← List.reverse_append, List.takeWhile_append_dropWhile, List.reverse_reverse]
  · exact List.all_eq_true.1 List.all_takeWhile c (List.mem_reverse.1 hc)

/-- A text is what `trim` keeps of it, between blanks. -/
theorem trimChars_between (cs : List Char) : ∃ lead tail, cs = lead ++ trimChars cs ++ tail ∧
    (∀ c ∈ lead, isBlank c = true) ∧ ∀ c ∈ tail, isBlank c = true := by
  obtain ⟨tail, htail, hblank⟩ := trimRight_append (cs.dropWhile isBlank)
  refine ⟨cs.takeWhile isBlank, tail, ?_, List.all_eq_true.1 List.all_takeWhile, hblank⟩
  rw [List.append_assoc, trimChars, ← htail, List.takeWhile_append_dropWhile]

/-- A text without blanks is kept as it is. -/
theorem trimChars_of_not_blank {cs : List Char} (h : ∀ c ∈ cs, isBlank c = false) :
    trimChars cs = cs := by
  have hkeeps : ∀ ds : List Char, (∀ c ∈ ds, isBlank c = false) → ds.dropWhile isBlank = ds := by
    rintro (_ | ⟨d, ds⟩) hds
    · rfl
    · simp [hds d (.head _)]
  rw [trimChars, trimRight, hkeeps cs h, hkeeps, List.reverse_reverse]
  exact fun c hc => h c (List.mem_reverse.1 hc)

/-- What `trim` keeps does not end in a blank. -/
theorem trimChars_ne_concat {cs : List Char} {c : Char} (h : isBlank c = true) (ds : List Char) :
    trimChars cs ≠ ds ++ [c] := by
  intro heq
  have hdrop : (cs.dropWhile isBlank).reverse.dropWhile isBlank = c :: ds.reverse := by
    rw [← List.reverse_inj, List.reverse_cons, List.reverse_reverse, ← heq]
    rfl
  have hnot := List.head_dropWhile_not isBlank (by rw [hdrop]; exact List.cons_ne_nil _ _)
  simp only [hdrop, List.head_cons] at hnot
  cases h.symm.trans hnot

end PooledTcp.Text
