import PooledTcp.Proofs.Net.HostPort

/-!
# Addresses that need no resolution

The readers of numeric addresses take as much as they can and never go back. What they accept is nevertheless what a
grammar says (`isNumeric_iff`): four bytes in decimal, or in brackets eight groups of hexadecimal digits, of which two
colons may stand for one run of zeros and the last two may be written as four bytes, then perhaps the number of a
scope; and behind a colon a port without a sign. A reader takes exactly what the grammar has there because nothing that
may follow it goes on with a digit or a dot (`Stops`, `Apart`).
-/

namespace PooledTcp.Address

/-! ## The grammar -/

/-- Digits of a base, at least one, of a number that is at most `bound`. -/
structure IsNumeral (base : Nat) (digit? : Char → Option Nat) (bound : Nat) (text : List Char) : Prop where
  nonempty : text ≠ []
  digits : ∀ c ∈ text, (digit? c).isSome
  bounded : valueOf base digit? text ≤ bound

/-- A byte in decimal, without zeros in front. -/
structure IsOctet (text : List Char) : Prop extends IsNumeral 10 digit? 255 text where
  short : text.length ≤ 3
  plain : text.head? = some '0' → text = ['0']

/-- Four bytes with dots between them. -/
def IsFour (text : List Char) : Prop :=
  ∃ a b c d, text = a ++ '.' :: (b ++ '.' :: (c ++ '.' :: d)) ∧ IsOctet a ∧ IsOctet b ∧ IsOctet c ∧ IsOctet d

/-- One to four hexadecimal digits. -/
structure IsGroup (text : List Char) : Prop where
  nonempty : text ≠ []
  digits : ∀ c ∈ text, (Bytes.hexDigit? c).isSome
  short : text.length ≤ 4

/-- Groups with colons between them: how many they are, and whether the last two are written as four bytes. -/
inductive Groups : Nat → Bool → List Char → Prop where
  | group {g : List Char} : IsGroup g → Groups 1 false g
  | four {q : List Char} : IsFour q → Groups 2 true q
  | cons {n : Nat} {four : Bool} {g text : List Char} :
    IsGroup g → Groups n four text → Groups (n + 1) four (g ++ ':' :: text)

/-- Eight groups, or fewer around two colons. -/
inductive IsEight : List Char → Prop where
  | full {four : Bool} {text : List Char} : Groups 8 four text → IsEight text
  | short {i j : Nat} {four : Bool} {front back : List Char} :
    (i = 0 ∧ front = [] ∨ Groups i false front) → (j = 0 ∧ back = [] ∨ Groups j four back) →
    i + j ≤ 7 → IsEight (front ++ ':' :: ':' :: back)

/-- A port without a sign. -/
def IsNumericPort (text : List Char) : Prop := IsNumeral 10 digit? 65535 text

/-- The number of a scope, or nothing. -/
def IsScope (text : List Char) : Prop :=
  text = [] ∨ ∃ number, text = '%' :: number ∧ IsNumeral 10 digit? 4294967295 number

/-- An address that needs no resolution, with a port. -/
inductive IsSocketAddress : List Char → Prop where
  | four {host port : List Char} : IsFour host → IsNumericPort port → IsSocketAddress (host ++ ':' :: port)
  | eight {host scope port : List Char} : IsEight host → IsScope scope → IsNumericPort port →
    IsSocketAddress ('[' :: (host ++ (scope ++ ']' :: ':' :: port)))

/-! ## Numbers -/

section Numbers

variable {digit? : Char → Option Nat} {base most bound : Nat} {zeros : Bool} {s text rest : List Char} {c : Char}

/-- What follows does not go on with a digit. -/
def Stops (digit? : Char → Option Nat) (rest : List Char) : Prop :=
  ∀ c t, rest = c :: t → digit? c = none

theorem stops_nil : Stops digit? [] := fun _ _ h => by cases h

theorem stops_cons (h : digit? c = none) : Stops digit? (c :: rest) := by
  rintro d t heq
  cases heq
  exact h

/-- The digits in front of what is none are all that is taken. -/
theorem takeWhile_digits (htext : ∀ c ∈ text, (digit? c).isSome) (hrest : Stops digit? rest) :
    (text ++ rest).takeWhile (fun c => (digit? c).isSome) = text := by
  rw [List.takeWhile_append_of_pos htext]
  cases rest with
  | nil => simp
  | cons c t => simp [hrest c t rfl]

/-- Where digits end is where they end, however the text is put together. -/
theorem digits_unique {other rest' : List Char} (htext : ∀ c ∈ text, (digit? c).isSome)
    (hrest : Stops digit? rest) (hother : ∀ c ∈ other, (digit? c).isSome) (hrest' : Stops digit? rest')
    (h : text ++ rest = other ++ rest') : text = other ∧ rest = rest' := by
  have heq : text = other := by
    rw [← takeWhile_digits htext hrest, h, takeWhile_digits hother hrest']
  subst heq
  exact ⟨rfl, List.append_cancel_left h⟩

/-- What a reader of numbers takes. -/
structure Numeral (digit? : Char → Option Nat) (base most bound : Nat) (zeros : Bool) (text : List Char) : Prop
    extends IsNumeral base digit? bound text where
  short : text.length ≤ most
  plain : zeros = false → text.head? = some '0' → text.length ≤ 1

theorem number?_eq_some_iff : number? digit? base most bound zeros s = some rest ↔
    ∃ text, s = text ++ rest ∧ Numeral digit? base most bound zeros text ∧ Stops digit? rest := by
  have hvalue (text : List Char) :
      text.foldl (fun n c => base * n + (digit? c).getD 0) 0 = valueOf base digit? text := by
    rw [foldl_valueOf, Nat.mul_zero, Nat.add_zero]
  constructor
  · intro h
    rw [number?, hvalue] at h
    generalize htake : s.takeWhile (fun c => (digit? c).isSome) = text at h
    obtain ⟨rest', rfl⟩ : ∃ rest', s = text ++ rest' := ⟨_, htake ▸ List.takeWhile_append_dropWhile.symm⟩
    have hdigits : ∀ c ∈ text, (digit? c).isSome :=
      fun c hc => List.all_eq_true.1 (htake ▸ List.all_takeWhile) c hc
    rw [List.drop_left] at h
    split at h
    · cases h
    · rename_i hgood
      cases h
      simp only [Bool.or_eq_true, Bool.and_eq_true, List.isEmpty_iff, decide_eq_true_eq, not_or, not_and,
        Nat.not_lt, Bool.not_eq_true', beq_iff_eq] at hgood
      obtain ⟨⟨⟨hne, hshort⟩, hbound⟩, hplain⟩ := hgood
      refine ⟨text, rfl, ⟨⟨hne, hdigits, hbound⟩, hshort, fun hz hhead => hplain ⟨hz, hhead⟩⟩, ?_⟩
      rintro c t rfl
      rw [List.takeWhile_append_of_pos hdigits] at htake
      cases hc : digit? c with
      | none => rfl
      | some d => simp [hc] at htake
  · rintro ⟨text, rfl, ⟨⟨hne, hdigits, hbound⟩, hshort, hplain⟩, hrest⟩
    rw [number?, takeWhile_digits hdigits hrest, hvalue, List.drop_left, if_neg]
    simp only [Bool.or_eq_true, Bool.and_eq_true, List.isEmpty_iff, decide_eq_true_eq, not_or, not_and,
      Nat.not_lt, Bool.not_eq_true', beq_iff_eq]
    exact ⟨⟨⟨hne, hshort⟩, hbound⟩, fun h => hplain h.1 h.2⟩

theorem char?_eq_some_iff : char? c s = some rest ↔ s = c :: rest := by
  cases s with
  | nil => simp [char?]
  | cons d s => by_cases h : d = c <;> simp [char?, h]

end Numbers

/-! ## Bytes and groups -/

section Parts

variable {s text rest : List Char} {c : Char}

/-- Decimal digits are hexadecimal ones. -/
theorem isSome_hexDigit? (h : (digit? c).isSome) : (Bytes.hexDigit? c).isSome := by
  have hrange : 48 ≤ c.toNat ∧ c.toNat ≤ 57 := by
    by_cases hc : c.isDigit
    · simpa [Char.isDigit, UInt32.le_iff_toNat_le] using hc
    · simp [digit?, hc] at h
  simp [Bytes.hexDigit?, hrange]

theorem Stops.decimal (h : Stops Bytes.hexDigit? rest) : Stops digit? rest := by
  intro c t hrest
  cases hc : digit? c with
  | none => rfl
  | some d =>
    have hsome := isSome_hexDigit? (c := c) (by rw [hc]; rfl)
    rw [h c t hrest] at hsome
    cases hsome

theorem octet?_eq_some_iff : octet? s = some rest ↔
    ∃ text, s = text ++ rest ∧ IsOctet text ∧ Stops digit? rest := by
  rw [octet?, number?_eq_some_iff]
  refine exists_congr fun text => and_congr_right fun _ => and_congr_left fun _ => ?_
  constructor
  · rintro ⟨hnumeral, hshort, hplain⟩
    refine ⟨hnumeral, hshort, fun hhead => ?_⟩
    obtain ⟨c, t, rfl⟩ := List.exists_cons_of_ne_nil hnumeral.nonempty
    have hlength := hplain rfl hhead
    obtain rfl : t = [] := List.length_eq_zero_iff.1 (by simpa using hlength)
    cases hhead
    rfl
  · rintro ⟨hnumeral, hshort, hplain⟩
    exact ⟨hnumeral, hshort, fun _ hhead => by rw [hplain hhead]; exact Nat.le_refl 1⟩

theorem IsOctet.digits_hex (h : IsOctet text) : ∀ c ∈ text, (Bytes.hexDigit? c).isSome :=
  fun c hc => isSome_hexDigit? (h.digits c hc)

theorem hexDigit?_lt (c : Char) : (Bytes.hexDigit? c).getD 0 < 16 := by
  simp only [Bytes.hexDigit?, Bool.and_eq_true, decide_eq_true_eq]
  split
  · rw [Option.getD_some]
    omega
  · split
    · rw [Option.getD_some]
      omega
    · split
      · rw [Option.getD_some]
        omega
      · exact Nat.zero_lt_succ _

/-- Four hexadecimal digits are a number of 16 bits. -/
theorem IsGroup.bounded (h : IsGroup text) : valueOf 16 Bytes.hexDigit? text ≤ greatestPort := by
  have hdigit : ∀ d ∈ text.reverse.map fun c => (Bytes.hexDigit? c).getD 0, d < 16 := by
    intro d hd
    obtain ⟨c, -, rfl⟩ := List.mem_map.1 hd
    exact hexDigit?_lt c
  have hlt := Nat.ofDigits_lt_base_pow_length (b := 16) (by decide) hdigit
  rw [List.length_map, List.length_reverse] at hlt
  have hpow : 16 ^ text.length ≤ 16 ^ 4 := Nat.pow_le_pow_right (by decide) h.short
  exact Nat.le_of_lt_succ (Nat.lt_of_lt_of_le hlt hpow)

theorem group?_eq_some_iff : group? s = some rest ↔
    ∃ text, s = text ++ rest ∧ IsGroup text ∧ Stops Bytes.hexDigit? rest := by
  rw [group?, number?_eq_some_iff]
  refine exists_congr fun text => and_congr_right fun _ => and_congr_left fun _ => ?_
  constructor
  · rintro ⟨⟨hne, hdigits, -⟩, hshort, -⟩
    exact ⟨hne, hdigits, hshort⟩
  · intro h
    exact ⟨⟨h.nonempty, h.digits, h.bounded⟩, h.short, fun hzeros => by cases hzeros⟩

theorem four?_eq_some_iff : four? s = some rest ↔
    ∃ text, s = text ++ rest ∧ IsFour text ∧ Stops digit? rest := by
  have hdot {t : List Char} : Stops digit? ('.' :: t) := stops_cons rfl
  simp only [four?, Option.bind_eq_bind, Option.bind_eq_some_iff, octet?_eq_some_iff, char?_eq_some_iff]
  constructor
  · rintro ⟨_, ⟨a, rfl, ha, -⟩, _, rfl, _, ⟨b, rfl, hb, -⟩, _, rfl, _, ⟨c, rfl, hc, -⟩, _, rfl, d, rfl, hd,
      hrest⟩
    exact ⟨a ++ '.' :: (b ++ '.' :: (c ++ '.' :: d)), by simp, ⟨a, b, c, d, rfl, ha, hb, hc, hd⟩, hrest⟩
  · rintro ⟨_, rfl, ⟨a, b, c, d, rfl, ha, hb, hc, hd⟩, hrest⟩
    refine ⟨'.' :: (b ++ '.' :: (c ++ '.' :: (d ++ rest))), ⟨a, by simp, ha, hdot⟩, _, rfl,
      '.' :: (c ++ '.' :: (d ++ rest)), ⟨b, rfl, hb, hdot⟩, _, rfl, ?_⟩
    exact ⟨'.' :: (d ++ rest), ⟨c, rfl, hc, hdot⟩, _, rfl, d, rfl, hd, hrest⟩

end Parts

/-! ## Groups between colons -/

section Runs

variable {s text rest g t : List Char} {first four : Bool} {n most : Nat}

/-- Where a group may begin: in front of the first one, and behind the colon in front of any other. -/
def opening (first : Bool) (s : List Char) : Option (List Char) := if first then some s else char? ':' s

theorem opening_true (s : List Char) : opening true s = some s := rfl

theorem opening_false_iff : opening false s = some t ↔ s = ':' :: t := char?_eq_some_iff

/-- Nothing is read where no digit is. -/
theorem four?_of_stops (h : Stops Bytes.hexDigit? t) : four? t = none := by
  refine Option.eq_none_iff_forall_ne_some.2 fun rest hsome => ?_
  obtain ⟨_, rfl, ⟨a, b, c, d, rfl, ha, -⟩, -⟩ := four?_eq_some_iff.1 hsome
  obtain ⟨x, a, rfl⟩ := List.exists_cons_of_ne_nil ha.nonempty
  have hdigit := ha.digits x List.mem_cons_self
  rw [h.decimal x _ rfl] at hdigit
  cases hdigit

theorem group?_of_stops (h : Stops Bytes.hexDigit? t) : group? t = none := by
  refine Option.eq_none_iff_forall_ne_some.2 fun rest hsome => ?_
  obtain ⟨g, rfl, hg, -⟩ := group?_eq_some_iff.1 hsome
  obtain ⟨x, g, rfl⟩ := List.exists_cons_of_ne_nil hg.nonempty
  have hdigit := hg.digits x List.mem_cons_self
  rw [h x _ rfl] at hdigit
  cases hdigit

/-- A group that no dot follows is not the first of four bytes. -/
theorem four?_of_group (hg : IsGroup g) (hstop : Stops Bytes.hexDigit? rest) (hdot : ∀ t, rest ≠ '.' :: t) :
    four? (g ++ rest) = none := by
  refine Option.eq_none_iff_forall_ne_some.2 fun rest' hsome => ?_
  obtain ⟨_, heq, ⟨a, b, c, d, rfl, ha, -⟩, -⟩ := four?_eq_some_iff.1 hsome
  rw [List.append_assoc] at heq
  exact hdot _ (digits_unique hg.digits hstop ha.digits_hex (stops_cons rfl) heq).2

theorem groups_succ (first : Bool) (most : Nat) (s : List Char) : groups first (most + 1) s =
    match (if most = 0 then none else (opening first s).bind four?) with
    | some rest => (2, true, rest)
    | none =>
      match (opening first s).bind group? with
      | none => (0, false, s)
      | some rest => ((groups false most rest).1 + 1, (groups false most rest).2) := rfl

/-- Nothing is read where no group begins. -/
theorem groups_of_stops (h : ∀ t, opening first s = some t → Stops Bytes.hexDigit? t) (most : Nat) :
    groups first most s = (0, false, s) := by
  cases most with
  | zero => rfl
  | succ most =>
    have hfour : (opening first s).bind four? = none :=
      Option.bind_eq_none_iff.2 fun t ht => four?_of_stops (h t ht)
    have hgroup : (opening first s).bind group? = none :=
      Option.bind_eq_none_iff.2 fun t ht => group?_of_stops (h t ht)
    rw [groups_succ, hfour, hgroup, ite_self]

/-- What is read is nothing, or groups as the grammar has them. -/
theorem groups_sound (h : groups first most s = (n, four, rest)) : n = 0 ∧ four = false ∧ rest = s ∨
    ∃ text, opening first s = some (text ++ rest) ∧ Groups n four text ∧ n ≤ most := by
  induction most generalizing first s n with
  | zero =>
    cases h
    exact .inl ⟨rfl, rfl, rfl⟩
  | succ most ih =>
    rw [groups_succ] at h
    split at h
    · rename_i rest' hfour
      cases h
      split at hfour
      · cases hfour
      · rename_i hmost
        obtain ⟨t, hopen, hfour⟩ := Option.bind_eq_some_iff.1 hfour
        obtain ⟨q, rfl, hq, -⟩ := four?_eq_some_iff.1 hfour
        exact .inr ⟨q, hopen, .four hq, by omega⟩
    · split at h
      · cases h
        exact .inl ⟨rfl, rfl, rfl⟩
      · rename_i rest' hgroup
        obtain ⟨t, hopen, hgroup⟩ := Option.bind_eq_some_iff.1 hgroup
        obtain ⟨g, rfl, hg, -⟩ := group?_eq_some_iff.1 hgroup
        generalize hmore : groups false most rest' = more at h
        obtain ⟨k, four', rest''⟩ := more
        cases h
        rcases ih hmore with ⟨rfl, rfl, rfl⟩ | ⟨text, hcolon, htext, hk⟩
        · exact .inr ⟨g, hopen, .group hg, by omega⟩
        · obtain rfl : rest' = ':' :: (text ++ rest) := opening_false_iff.1 hcolon
          exact .inr ⟨g ++ ':' :: text, by simpa using hopen, .cons hg htext, by omega⟩

/-- What may follow groups: no digit goes on with them, no dot, and no colon with a group behind it. -/
structure Apart (rest : List Char) : Prop where
  digit : Stops Bytes.hexDigit? rest
  dot : ∀ t, rest ≠ '.' :: t
  colon : ∀ t, rest = ':' :: t → Stops Bytes.hexDigit? t

theorem Apart.groups_eq (h : Apart rest) (most : Nat) : groups false most rest = (0, false, rest) :=
  groups_of_stops (fun t ht => h.colon t (opening_false_iff.1 ht)) most

theorem Groups.pos (h : Groups n four text) : 0 < n := by
  cases h <;> omega

/-- Behind a colon the same groups are read as at the beginning, if there are any. -/
theorem groups_colon (h : groups true most t = (n, four, rest)) (hn : 0 < n) :
    groups false most (':' :: t) = (n, four, rest) := by
  cases most with
  | zero =>
    cases h
    cases hn
  | succ most =>
    rw [groups_succ, opening_true] at h
    rw [groups_succ, opening_false_iff.2 rfl]
    split at h
    · exact h
    · split at h
      · cases h
        cases hn
      · exact h

/-- Groups as the grammar has them are read, if what follows is apart from them. -/
theorem groups_complete (h : Groups n four text) (hn : n ≤ most) (hrest : Apart rest) :
    groups true most (text ++ rest) = (n, four, rest) := by
  induction h generalizing most with
  | @group g hg =>
    obtain ⟨most, rfl⟩ := Nat.exists_eq_add_of_le' hn
    have hgroup : group? (g ++ rest) = some rest := group?_eq_some_iff.2 ⟨g, rfl, hg, hrest.digit⟩
    rw [groups_succ, opening_true, Option.bind_some, Option.bind_some, hgroup,
      four?_of_group hg hrest.digit hrest.dot, ite_self]
    dsimp only
    rw [hrest.groups_eq]
  | @four q hq =>
    obtain ⟨most, rfl⟩ := Nat.exists_eq_add_of_le' hn
    have hfour : four? (q ++ rest) = some rest := four?_eq_some_iff.2 ⟨q, rfl, hq, hrest.digit.decimal⟩
    rw [groups_succ, opening_true, Option.bind_some, hfour, if_neg (Nat.succ_ne_zero most)]
  | @cons k four g text hg htext ih =>
    obtain ⟨most, rfl⟩ := Nat.exists_eq_add_of_le' (Nat.le_trans (Nat.le_add_left 1 k) hn)
    have hcolon : Stops Bytes.hexDigit? (':' :: (text ++ rest)) := stops_cons rfl
    have hgroup : group? (g ++ ':' :: (text ++ rest)) = some (':' :: (text ++ rest)) :=
      group?_eq_some_iff.2 ⟨g, rfl, hg, hcolon⟩
    have hmore := groups_colon (ih (Nat.le_of_succ_le_succ hn)) htext.pos
    rw [List.append_assoc, List.cons_append, groups_succ, opening_true, Option.bind_some, Option.bind_some,
      hgroup, four?_of_group hg hcolon (fun t heq => by cases heq), ite_self]
    dsimp only
    rw [hmore]

end Runs

/-! ## Whole addresses -/

section Whole

variable {s text rest : List Char} {c : Char}

theorem apart_cons (hdigit : Bytes.hexDigit? c = none) (hdot : c ≠ '.') (hcolon : c ≠ ':') :
    Apart (c :: rest) where
  digit := stops_cons hdigit
  dot _ h := hdot (List.cons.inj h).1
  colon _ h := absurd (List.cons.inj h).1 hcolon

theorem apart_colons (rest : List Char) : Apart (':' :: ':' :: rest) where
  digit := stops_cons rfl
  dot _ h := by cases h
  colon _ h := by
    cases h
    exact stops_cons rfl

theorem eight?_sound (h : eight? s = some rest) : ∃ text, s = text ++ rest ∧ IsEight text := by
  rw [eight?] at h
  generalize hfront : groups true 8 s = front at h
  obtain ⟨n, four, rest'⟩ := front
  dsimp only at h
  split at h
  · rename_i height
    cases h
    subst height
    rcases groups_sound hfront with ⟨hzero, -, -⟩ | ⟨text, hopen, htext, -⟩
    · cases hzero
    · exact ⟨text, Option.some.inj hopen, .full htext⟩
  · rename_i hless
    split at h
    · cases h
    · rename_i hfour
      simp only [Option.bind_eq_bind, Option.bind_eq_some_iff, char?_eq_some_iff, Option.pure_def,
        Option.some.injEq] at h
      obtain ⟨_, rfl, back, rfl, hback⟩ := h
      -- the front part: nothing, or groups of which none is written as bytes
      obtain ⟨front, rfl, hgroups, hn⟩ : ∃ front, s = front ++ ':' :: ':' :: back ∧
          (n = 0 ∧ front = [] ∨ Groups n false front) ∧ n ≤ 8 := by
        rcases groups_sound hfront with ⟨rfl, -, rfl⟩ | ⟨front, hopen, hgroups, hn⟩
        · exact ⟨[], rfl, .inl ⟨rfl, rfl⟩, Nat.zero_le _⟩
        · obtain rfl : four = false := Bool.eq_false_iff.2 hfour
          exact ⟨front, Option.some.inj hopen, .inr hgroups, hn⟩
      generalize hmore : groups true (7 - n) back = more at hback
      obtain ⟨j, four', rest''⟩ := more
      subst hback
      rcases groups_sound hmore with ⟨rfl, -, rfl⟩ | ⟨tail, hopen, htail, hj⟩
      · have hnone : 0 = 0 ∧ ([] : List Char) = [] ∨ Groups 0 false [] := .inl ⟨rfl, rfl⟩
        exact ⟨front ++ [':', ':'], by simp, .short hgroups hnone (by omega)⟩
      · obtain rfl : back = tail ++ rest'' := Option.some.inj hopen
        exact ⟨front ++ ':' :: ':' :: tail, by simp, .short hgroups (.inr htail) (by omega)⟩

/-- Groups, or nothing, are read if what follows is apart from them. -/
theorem groups_of_some {n most : Nat} {four : Bool} (h : n = 0 ∧ text = [] ∨ Groups n four text)
    (hn : n ≤ most) (hrest : Apart rest) :
    ∃ four', groups true most (text ++ rest) = (n, four', rest) ∧ (four = false → four' = false) := by
  rcases h with ⟨rfl, rfl⟩ | h
  · refine ⟨false, groups_of_stops (fun t ht => ?_) most, fun _ => rfl⟩
    obtain rfl : rest = t := Option.some.inj ht
    exact hrest.digit
  · exact ⟨four, groups_complete h hn hrest, fun h => h⟩

theorem eight?_complete (h : IsEight text) (hrest : Apart rest) : eight? (text ++ rest) = some rest := by
  cases h with
  | full hgroups =>
    rw [eight?, groups_complete hgroups (Nat.le_refl 8) hrest]
    rfl
  | @short i j four front back hfront hback hij =>
    have hi : i ≤ 8 := by omega
    have hj : j ≤ 7 - i := by omega
    obtain ⟨four', hread, hplain⟩ := groups_of_some hfront hi (apart_colons (back ++ rest))
    obtain ⟨_, hmore, -⟩ := groups_of_some hback hj hrest
    rw [eight?, List.append_assoc, List.cons_append, List.cons_append, hread, hplain rfl]
    dsimp only
    rw [if_neg (by omega), if_neg Bool.false_ne_true]
    calc ((char? ':' (':' :: ':' :: (back ++ rest))).bind fun t =>
          (char? ':' t).bind fun t => some (groups true (7 - i) t).2.2)
        = some (groups true (7 - i) (back ++ rest)).2.2 := rfl
      _ = some rest := by rw [hmore]

theorem numericPort?_eq_some_iff : numericPort? s = some [] ↔
    ∃ port, s = ':' :: port ∧ IsNumericPort port := by
  simp only [numericPort?, Option.bind_eq_bind, Option.bind_eq_some_iff, char?_eq_some_iff,
    number?_eq_some_iff, List.append_nil]
  constructor
  · rintro ⟨_, rfl, port, rfl, hport, -⟩
    exact ⟨_, rfl, hport.toIsNumeral⟩
  · rintro ⟨port, rfl, hport⟩
    exact ⟨port, rfl, port, rfl, ⟨hport, Nat.le_refl _, fun h => by cases h⟩, stops_nil⟩

/-- Passing over the number of a scope leads to the bracket exactly if there is a scope, or nothing, in front of it. -/
theorem scope_iff : char? ']' (match s with
      | '%' :: scope => (number? digit? 10 scope.length (UInt32.size - 1) true scope).getD s
      | s => s) = some rest ↔ ∃ scope, s = scope ++ ']' :: rest ∧ IsScope scope := by
  constructor
  · intro h
    split at h
    · rename_i t
      cases hnumber : number? digit? 10 t.length (UInt32.size - 1) true t with
      | none =>
        rw [hnumber, Option.getD_none] at h
        cases char?_eq_some_iff.1 h
      | some r =>
        rw [hnumber, Option.getD_some] at h
        obtain rfl := char?_eq_some_iff.1 h
        obtain ⟨number, rfl, hnumeral, -⟩ := number?_eq_some_iff.1 hnumber
        exact ⟨'%' :: number, rfl, .inr ⟨number, rfl, hnumeral.toIsNumeral⟩⟩
    · exact ⟨[], char?_eq_some_iff.1 h, .inl rfl⟩
  · rintro ⟨_, rfl, rfl | ⟨number, rfl, hnumeral⟩⟩
    · rfl
    · have hnumber : number? digit? 10 (number ++ ']' :: rest).length (UInt32.size - 1) true
          (number ++ ']' :: rest) = some (']' :: rest) :=
        number?_eq_some_iff.2 ⟨number, rfl, ⟨hnumeral, by simp, fun h => by cases h⟩, stops_cons rfl⟩
      have hread : char? ']' ((number? digit? 10 (number ++ ']' :: rest).length (UInt32.size - 1) true
          (number ++ ']' :: rest)).getD ('%' :: (number ++ ']' :: rest))) = some rest := by
        rw [hnumber]
        rfl
      exact hread

theorem bracketed?_eq_some_iff : bracketed? s = some rest ↔
    ∃ host scope, s = '[' :: (host ++ (scope ++ ']' :: rest)) ∧ IsEight host ∧ IsScope scope := by
  simp only [bracketed?, Option.bind_eq_bind, Option.bind_eq_some_iff, char?_eq_some_iff (c := '[')]
  constructor
  · rintro ⟨_, rfl, t, height, hclose⟩
    obtain ⟨host, rfl, hhost⟩ := eight?_sound height
    obtain ⟨scope, rfl, hscope⟩ := scope_iff.1 hclose
    exact ⟨host, scope, rfl, hhost, hscope⟩
  · rintro ⟨host, scope, rfl, hhost, hscope⟩
    have hapart : Apart (scope ++ ']' :: rest) := by
      rcases hscope with rfl | ⟨number, rfl, -⟩
      · exact apart_cons rfl (by decide) (by decide)
      · exact apart_cons rfl (by decide) (by decide)
    exact ⟨_, rfl, _, eight?_complete hhost hapart, scope_iff.2 ⟨scope, rfl, hscope⟩⟩

/-- An address needs no resolution exactly if the grammar has it. -/
theorem isNumeric_iff : isNumeric s = true ↔ IsSocketAddress s := by
  simp only [isNumeric, Bool.or_eq_true, beq_iff_eq, Option.bind_eq_some_iff, numericPort?_eq_some_iff,
    four?_eq_some_iff, bracketed?_eq_some_iff]
  constructor
  · rintro (⟨_, ⟨host, rfl, hhost, -⟩, port, rfl, hport⟩ |
      ⟨_, ⟨host, scope, rfl, hhost, hscope⟩, port, rfl, hport⟩)
    · exact .four hhost hport
    · exact .eight hhost hscope hport
  · rintro (⟨hhost, hport⟩ | ⟨hhost, hscope, hport⟩)
    · exact .inl ⟨_, ⟨_, rfl, hhost, stops_cons rfl⟩, _, rfl, hport⟩
    · exact .inr ⟨_, ⟨_, _, rfl, hhost, hscope⟩, _, rfl, hport⟩

end Whole

end PooledTcp.Address
