import PooledTcp.Toml.Document

/-!
# Values that are written read back

A text between double quotes, with its escapes, reads back as the text (`string?_written`), the decimal
digits of a number as the number, unless it is too great for 64 bits with a sign, and a boolean as itself.
So `Reads` holds of all three: the value, at the end of a line, is what was written.
-/

namespace PooledTcp.Toml

variable {c : Char} {cs rest : List Char} {n : Nat}

section Strings

theorem hexDigit?_digitChar {d : Nat} (h : d < 16) : Bytes.hexDigit? d.digitChar = some d := by
  have hall : ∀ d < 16, Bytes.hexDigit? (Nat.digitChar d) = some d := by decide
  exact hall d h

theorem scalar?_toNat (c : Char) : scalar? c.toNat = some c := by
  have hvalid : c.toNat.isValidChar := c.valid
  rw [scalar?, if_pos hvalid, Char.ofNat_toNat]

/-- A number below 256 has two digits after the zeros. -/
theorem fourDigits (h : n < 256) :
    List.replicate (4 - (Nat.toDigits 16 n).length) '0' ++ Nat.toDigits 16 n =
      ['0', '0', (n / 16).digitChar, (n % 16).digitChar] := by
  rcases Nat.lt_or_ge n 16 with hn | hn
  · rw [Nat.toDigits_of_lt_base hn, Nat.div_eq_of_lt hn, Nat.mod_eq_of_lt hn]
    rfl
  · rw [Nat.toDigits_of_base_le (by decide) hn, Nat.toDigits_of_lt_base (by omega)]
    rfl

/-- What has to be written as a number is a control character. -/
theorem toNat_lt_of_not_textual (h : isTextual c = false) : c.toNat < 256 := by
  simp only [isTextual, Bool.or_eq_false_iff, Bool.and_eq_false_iff, decide_eq_false_iff_not,
    bne_eq_false_iff_eq] at h
  omega

theorem quotedText_number (h : c.toNat < 256) (s : List Char) :
    quotedText (.number 4 0)
      ('0' :: '0' :: (c.toNat / 16).digitChar :: (c.toNat % 16).digitChar :: s) =
      push c (quotedText .plain s) := by
  have hzero : Bytes.hexDigit? '0' = some 0 := by decide
  have hhigh := hexDigit?_digitChar (d := c.toNat / 16) (by omega)
  have hlow := hexDigit?_digitChar (d := c.toNat % 16) (by omega)
  have hvalue : 16 * (16 * (16 * (16 * 0 + 0) + 0) + c.toNat / 16) + c.toNat % 16 = c.toNat := by
    omega
  simp only [quotedText, hzero, hhigh, hlow, Nat.reduceLeDiff, Nat.reduceSub, if_false, if_true,
    hvalue, scalar?_toNat]

/-- A character is read from its escape. -/
theorem quotedText_escapedChar (c : Char) (s : List Char) :
    quotedText .plain (escapedChar c ++ s) = push c (quotedText .plain s) := by
  unfold escapedChar
  split
  · subst c
    rfl
  split
  · subst c
    rfl
  rename_i hquote hslash
  cases htextual : isTextual c with
  | true => simp [quotedText, hquote, hslash, htextual]
  | false =>
    have hlt := toNat_lt_of_not_textual htextual
    rw [if_neg nofun, fourDigits hlt]
    exact quotedText_number hlt s

theorem quotedText_escapedText (cs rest : List Char) :
    quotedText .plain (escapedText cs ++ '"' :: rest) = some (cs, rest) := by
  induction cs with
  | nil => rfl
  | cons c cs ih =>
    rw [escapedText, List.flatMap_cons, List.append_assoc, quotedText_escapedChar]
    exact congrArg (push c) ih

/-- No escape begins with a quote. -/
theorem escapedChar_eq_cons (c : Char) : ∃ d ds, escapedChar c = d :: ds ∧ d ≠ '"' := by
  unfold escapedChar
  split
  · exact ⟨_, _, rfl, by decide⟩
  rename_i hquote
  split
  · exact ⟨_, _, rfl, by decide⟩
  split
  · exact ⟨_, _, rfl, hquote⟩
  · exact ⟨_, _, rfl, by decide⟩

/-- A text on one line is never taken for one of several lines. -/
theorem threeQuotes?_written (cs : List Char) (hc : c ≠ '"') :
    threeQuotes? '"' ('"' :: (escapedText cs ++ '"' :: c :: rest)) = none := by
  cases cs with
  | nil => simp [threeQuotes?, escapedText, hc]
  | cons a as =>
    obtain ⟨d, ds, hd, hquote⟩ := escapedChar_eq_cons a
    rw [escapedText, List.flatMap_cons, hd, List.cons_append, List.cons_append]
    unfold threeQuotes?
    split
    · rename_i heq
      simp only [List.cons.injEq] at heq
      exact if_neg fun h => hquote (heq.2.1.trans h.2.1)
    · rfl

theorem string?_written (cs : List Char) (hc : c ≠ '"') :
    string? ('"' :: (escapedText cs ++ '"' :: c :: rest)) =
      some (String.ofList cs, c :: rest) := by
  have hliteral : threeQuotes? '\'' ('"' :: (escapedText cs ++ '"' :: c :: rest)) = none := by
    unfold threeQuotes?
    split
    · rename_i heq
      exact if_neg fun h => absurd ((List.cons.inj heq).1.trans h.1) (by decide)
    · rfl
  rw [string?, threeQuotes?_written cs hc, hliteral]
  simp only [lineString?, quotedText_escapedText, Option.map_some]

end Strings

section Numbers

/-- Every character is a decimal digit. -/
def AllDigits (cs : List Char) : Prop := ∀ c ∈ cs, isDigit c = true

theorem isDigit_iff : isDigit c = true ↔ 48 ≤ c.toNat ∧ c.toNat ≤ 57 := by
  simp only [isDigit, Bool.and_eq_true, decide_eq_true_eq, Char.le_def]
  exact Iff.rfl

theorem ne_of_isDigit {d : Char} (hc : isDigit c = true) (hd : isDigit d = false) : c ≠ d :=
  fun heq => Bool.false_ne_true (hd.symm.trans (heq ▸ hc))

theorem allDigits_toDigits (n : Nat) : AllDigits (Nat.toDigits 10 n) := fun c hc => by
  have h := Nat.isDigit_of_mem_toDigits (by decide) (by decide) hc
  simp only [Char.isDigit, Bool.and_eq_true, decide_eq_true_eq, UInt32.le_iff_toNat_le] at h
  exact isDigit_iff.2 h

theorem digitOf?_of_isDigit (h : isDigit c = true) : digitOf? 10 c = some (c.toNat - 48) := by
  have hrange := isDigit_iff.1 h
  have hlt : c.toNat - 48 < 10 := by omega
  simp [digitOf?, Bytes.hexDigit?, hrange, hlt]

/-- All digits up to the end of the line are read. -/
theorem digits?_allDigits (h : AllDigits cs) (rest : List Char) :
    digits? (digitOf? 10) true (cs ++ '\n' :: rest) =
      some (cs.map (·.toNat - 48), '\n' :: rest) := by
  induction cs with
  | nil => rfl
  | cons c cs ih =>
    obtain ⟨hc, hcs⟩ := List.forall_mem_cons.1 h
    rw [List.cons_append, digits?, digitOf?_of_isDigit hc, ih hcs]
    rfl

/-- Zero is written as one digit, and no other number begins with a zero. -/
theorem toDigits_eq_cons (hn : 0 < n) : ∃ c cs, Nat.toDigits 10 n = c :: cs ∧ c ≠ '0' := by
  induction n using Nat.strongRecOn with
  | ind n ih =>
    rcases Nat.lt_or_ge n 10 with hlt | hge
    · have hall : ∀ n < 10, 0 < n → Nat.digitChar n ≠ '0' := by decide
      exact ⟨_, _, Nat.toDigits_of_lt_base hlt, hall n hlt hn⟩
    · obtain ⟨c, cs, hcs, hc⟩ := ih (n / 10) (by omega) (by omega)
      exact ⟨c, _, by rw [Nat.toDigits_of_base_le (by decide) hge, hcs, List.cons_append], hc⟩

theorem wholeDigits?_toDigits (n : Nat) (rest : List Char) :
    wholeDigits? (Nat.toDigits 10 n ++ '\n' :: rest) =
      some ((Nat.toDigits 10 n).map (·.toNat - 48), '\n' :: rest) := by
  rcases Nat.eq_zero_or_pos n with rfl | hn
  · rfl
  · obtain ⟨c, cs, hcs, hc⟩ := toDigits_eq_cons hn
    obtain ⟨hdigit, hdigits⟩ := List.forall_mem_cons.1 (hcs ▸ allDigits_toDigits n)
    rw [hcs, List.cons_append]
    unfold wholeDigits?
    split
    · rename_i heq
      exact absurd (List.cons.inj heq).1 hc
    · rw [digits?, digitOf?_of_isDigit hdigit, digits?_allDigits hdigits]
      rfl

theorem ofDigits_toDigits (n : Nat) :
    ofDigits 10 ((Nat.toDigits 10 n).map (·.toNat - 48)) = n := by
  rw [ofDigits, List.foldl_map]
  exact Nat.ofDigitChars_toDigits (by decide) (by decide)

theorem integer?_of_lt (hn : (n : Int) < integerBound) : integer? n = some (.integer n) := by
  refine if_pos ?_
  have hlow : -integerBound ≤ (n : Int) := by
    unfold integerBound
    omega
  rw [decide_eq_true hlow, decide_eq_true hn]
  rfl

/-- A number without fraction and exponent is whole. -/
theorem decimal?_whole {s : List Char} {ds : List Nat}
    (h : wholeDigits? s = some (ds, '\n' :: rest)) :
    decimal? false s = (integer? (ofDigits 10 ds)).map (·, '\n' :: rest) := by
  rw [decimal?, h, Option.bind_eq_bind, Option.bind_some]
  dsimp only
  split
  · rename_i heq
    exact absurd (List.cons.inj heq).1 (by decide)
  · rename_i heq
    exact absurd (List.cons.inj heq).1 (by decide)
  · rename_i heq
    exact absurd (List.cons.inj heq).1 (by decide)
  · rw [if_neg Bool.false_ne_true]
    cases integer? (ofDigits 10 ds) with
    | none => rfl
    | some v => rfl

/-- A digit is no sign. -/
theorem sign_of_isDigit (h : isDigit c = true) : sign (c :: rest) = (false, c :: rest) := by
  unfold sign
  split
  · rename_i heq
    exact absurd (List.cons.inj heq).1 (ne_of_isDigit h (by decide))
  · rename_i heq
    exact absurd (List.cons.inj heq).1 (ne_of_isDigit h (by decide))
  · rfl

/-- A number that begins with a digit other than zero is decimal. -/
theorem number?_of_isDigit (h : isDigit c = true) (hc : c ≠ '0') :
    number? (c :: rest) = decimal? false (c :: rest) := by
  unfold number?
  split
  · rename_i heq
    exact absurd (List.cons.inj heq).1 hc
  · rename_i heq
    exact absurd (List.cons.inj heq).1 hc
  · rename_i heq
    exact absurd (List.cons.inj heq).1 hc
  · rw [sign_of_isDigit h]
    split
    · rename_i heq
      exact absurd (List.cons.inj (Prod.mk.inj heq).2).1 (ne_of_isDigit h (by decide))
    · rename_i heq
      exact absurd (List.cons.inj (Prod.mk.inj heq).2).1 (ne_of_isDigit h (by decide))
    · rename_i heq
      obtain ⟨rfl, rfl⟩ := Prod.mk.inj heq
      rfl

theorem number?_toDigits (hn : (n : Int) < integerBound) (rest : List Char) :
    number? (Nat.toDigits 10 n ++ '\n' :: rest) = some (.integer n, '\n' :: rest) := by
  have hdecimal : decimal? false (Nat.toDigits 10 n ++ '\n' :: rest) =
      some (.integer n, '\n' :: rest) := by
    rw [decimal?_whole (wholeDigits?_toDigits n rest), ofDigits_toDigits, integer?_of_lt hn]
    rfl
  rw [← hdecimal]
  rcases Nat.eq_zero_or_pos n with rfl | hpos
  · rfl
  · obtain ⟨c, cs, hcs, hc⟩ := toDigits_eq_cons hpos
    rw [hcs, List.cons_append]
    exact number?_of_isDigit (allDigits_toDigits n c (hcs ▸ List.mem_cons_self)) hc

/-- Two digits are followed by more digits and the end of the line. -/
theorem allDigits_of_pair? {low high : Nat} {s : List Char} (hcs : AllDigits cs)
    (h : pair? low high (cs ++ '\n' :: rest) = some (n, s)) :
    ∃ ds, AllDigits ds ∧ s = ds ++ '\n' :: rest := by
  have hline : isDigit '\n' = false := by decide
  match cs with
  | [] =>
    cases rest with
    | nil => cases h
    | cons b rest => simp [pair?, hline] at h
  | [a] => simp [pair?, hline] at h
  | a :: b :: cs =>
    simp only [List.cons_append, pair?, Option.ite_none_right_eq_some, Option.some.injEq,
      Prod.mk.injEq] at h
    exact ⟨cs, fun c hc => hcs c (List.mem_cons_of_mem _ (List.mem_cons_of_mem _ hc)),
      h.2.2.2.symm⟩

/-- Neither a dash nor a colon comes before the end of the line. -/
theorem expect?_allDigits (hcs : AllDigits cs) (hc : isDigit c = false) (hline : c ≠ '\n') :
    expect? c (cs ++ '\n' :: rest) = none := by
  cases cs with
  | nil => exact if_neg hline.symm
  | cons d ds =>
    refine if_neg fun heq => ?_
    rw [← heq, hcs d List.mem_cons_self] at hc
    cases hc

/-- Digits alone are no date, and no time of day either. -/
theorem date?_allDigits (hcs : AllDigits cs) : date? (cs ++ '\n' :: rest) = none := by
  refine Option.eq_none_iff_forall_ne_some.2 fun s h => ?_
  simp only [date?, Option.bind_eq_bind, Option.bind_eq_some_iff] at h
  obtain ⟨⟨_, _⟩, hcentury, ⟨_, _⟩, hyear, _, hdash, _⟩ := h
  obtain ⟨ds, hds, rfl⟩ := allDigits_of_pair? hcs hcentury
  obtain ⟨es, hes, rfl⟩ := allDigits_of_pair? hds hyear
  rw [expect?_allDigits hes (by decide) (by decide)] at hdash
  cases hdash

theorem time?_allDigits (hcs : AllDigits cs) : time? (cs ++ '\n' :: rest) = none := by
  refine Option.eq_none_iff_forall_ne_some.2 fun s h => ?_
  simp only [time?, Option.bind_eq_bind, Option.bind_eq_some_iff] at h
  obtain ⟨⟨_, _⟩, hhour, _, hcolon, _⟩ := h
  obtain ⟨ds, hds, rfl⟩ := allDigits_of_pair? hcs hhour
  rw [expect?_allDigits hds (by decide) (by decide)] at hcolon
  cases hcolon

theorem moment?_allDigits (hcs : AllDigits cs) : moment? (cs ++ '\n' :: rest) = none := by
  rw [moment?, date?_allDigits hcs]
  exact time?_allDigits hcs

end Numbers

section Values

theorem skipSpace_cons (h : isSpace c = false) : skipSpace (c :: rest) = c :: rest := by
  rw [skipSpace, List.dropWhile_cons, h, if_neg Bool.false_ne_true]

/-- What begins with a quote is a text. -/
theorem value?_quote (depth : Nat) (s : List Char) :
    value? depth ('"' :: s) = (string? ('"' :: s)).map fun x => (.string x.1, x.2) := by
  unfold value?
  rfl

/-- What begins with a digit is a date, a time of day or a number. -/
theorem value?_of_isDigit {depth : Nat} (h : isDigit c = true) :
    value? depth (c :: rest) = (match moment? (c :: rest) with
      | some s => some (.moment, s)
      | none => number? (c :: rest)) := by
  have hquotes : ¬(decide (c = '"') || decide (c = '\'')) = true := by
    simp [ne_of_isDigit h (d := '"') (by decide), ne_of_isDigit h (d := '\'') (by decide)]
  unfold value?
  rw [if_neg hquotes, if_neg (ne_of_isDigit h (by decide)), if_neg (ne_of_isDigit h (by decide))]
  split
  · exact absurd h (by decide)
  · exact absurd h (by decide)
  · rfl

/-- Whatever comes on the next lines, the text is read as the value up to the end of its line. -/
def Reads (text : List Char) (v : Value) : Prop :=
  ∀ rest, value? depthLimit (skipSpace (text ++ '\n' :: rest)) = some (v, '\n' :: rest)

theorem reads_string (text : String) :
    Reads ('"' :: (escapedText text.toList ++ ['"'])) (.string text) := by
  intro rest
  have happend : '"' :: (escapedText text.toList ++ ['"']) ++ '\n' :: rest =
      '"' :: (escapedText text.toList ++ '"' :: '\n' :: rest) := by simp
  rw [happend, skipSpace_cons (by decide), value?_quote, string?_written _ (by decide),
    Option.map_some, String.ofList_toList]

theorem reads_integer (hn : (n : Int) < integerBound) : Reads (toString n).toList (.integer n) := by
  intro rest
  rw [Nat.toString_eq_ofList_toDigits, String.toList_ofList]
  have hdigits := allDigits_toDigits n
  have hmoment : moment? (Nat.toDigits 10 n ++ '\n' :: rest) = none := moment?_allDigits hdigits
  have hnumber := number?_toDigits hn rest
  cases hcs : Nat.toDigits 10 n with
  | nil => exact absurd hcs Nat.toDigits_ne_nil
  | cons c cs =>
    rw [hcs] at hdigits
    rw [hcs, List.cons_append] at hmoment hnumber
    have hc := hdigits c List.mem_cons_self
    have hspace : isSpace c = false := by
      simp [isSpace, ne_of_isDigit hc (d := ' ') (by decide), ne_of_isDigit hc (d := '\t') (by decide)]
    rw [List.cons_append, skipSpace_cons hspace, value?_of_isDigit hc, hmoment]
    exact hnumber

theorem reads_boolean (b : Bool) :
    Reads (if b then "true" else "false").toList (.boolean b) := by
  intro rest
  cases b <;> rfl

end Values

end PooledTcp.Toml
