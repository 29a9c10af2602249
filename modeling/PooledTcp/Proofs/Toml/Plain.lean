import PooledTcp.Keyed
import PooledTcp.Proofs.Toml.Keys
import PooledTcp.Proofs.Toml.Written

/-!
# Plain documents

A plain document is a list of headers, each with keys and values below it, one to a line; no key needs quotes,
and none is given twice. Such a document holds exactly these tables (`document?_plain`).
-/

namespace PooledTcp.Toml

/-- A key that needs no quotes. -/
def IsBareKey (key : String) : Prop := key.toList ≠ [] ∧ key.toList.all isBare = true

instance (key : String) : Decidable (IsBareKey key) := inferInstanceAs (Decidable (_ ∧ _))

/-- A key and the text of its value, on one line. -/
structure Entry where
  key : String
  text : String
  value : Value
  bare : IsBareKey key
  reads : Reads text.toList value

/-- A header and what is below it. -/
structure Chapter where
  name : String
  entries : List Entry
  bare : IsBareKey name
  keys : (entries.map (·.key)).Nodup

namespace Entry

def chars (e : Entry) : List Char :=
  e.key.toList ++ ' ' :: '=' :: ' ' :: (e.text.toList ++ ['\n'])

def assignment (e : Entry) : Assignment := { path := [], key := e.key, value := e.value }

end Entry

namespace Chapter

def header (c : Chapter) : List Char := '[' :: (c.name.toList ++ [']', '\n'])

/-- The lines, each with what it says. -/
def lines (c : Chapter) : List (List Char × Line) :=
  (c.header, .header false [] c.name) :: c.entries.map fun e => (e.chars, .assign e.assignment)

def chars (c : Chapter) : List Char := c.header ++ c.entries.flatMap Entry.chars

/-- The table that the header names. -/
def table (c : Chapter) : Table := c.entries.map fun e => (e.key, e.value)

end Chapter

variable {c d : Char} {cs s rest : List Char} {l : Line}

section Lines

theorem ne_of_isBare (hc : isBare c = true) (hd : isBare d = false) : c ≠ d :=
  fun heq => Bool.false_ne_true (hd.symm.trans (heq ▸ hc))

theorem IsBareKey.eq_cons {key : String} (h : IsBareKey key) :
    ∃ c cs, key.toList = c :: cs ∧ isBare c = true := by
  obtain ⟨hne, hbare⟩ := h
  cases hkey : key.toList with
  | nil => exact absurd hkey hne
  | cons c cs => exact ⟨c, cs, rfl, List.all_eq_true.1 hbare c (hkey ▸ List.mem_cons_self)⟩

theorem isSpace_of_isBare (h : isBare c = true) : isSpace c = false := by
  simp [isSpace, ne_of_isBare h (d := ' ') (by decide), ne_of_isBare h (d := '\t') (by decide)]

/-- A key without quotes ends before the first character that needs them. -/
theorem keyPart?_bare {key : String} (h : IsBareKey key) (hd : isBare d = false) :
    keyPart? (skipSpace (key.toList ++ d :: rest)) = some (key, d :: rest) := by
  obtain ⟨c, cs, hkey, hc⟩ := h.eq_cons
  have hbare := List.all_eq_true.1 h.2
  have hspace : skipSpace (key.toList ++ d :: rest) = key.toList ++ d :: rest := by
    rw [hkey]
    exact skipSpace_cons (isSpace_of_isBare hc)
  have htake : (key.toList ++ d :: rest).takeWhile isBare = key.toList := by
    rw [List.takeWhile_append_of_pos hbare, List.takeWhile_cons, hd, if_neg Bool.false_ne_true,
      List.append_nil]
  have hdrop : (key.toList ++ d :: rest).dropWhile isBare = d :: rest := by
    rw [List.dropWhile_append_of_pos hbare, List.dropWhile_cons, hd, if_neg Bool.false_ne_true]
  rw [hspace]
  unfold keyPart?
  split
  · rename_i heq
    rw [hkey] at heq
    exact absurd (List.cons.inj heq).1 (ne_of_isBare hc (by decide))
  · rename_i heq
    rw [hkey] at heq
    exact absurd (List.cons.inj heq).1 (ne_of_isBare hc (by decide))
  · rw [htake, hdrop]
    split
    · rename_i heq
      exact absurd heq h.1
    · rw [String.ofList_toList]

/-- A key without quotes and without dots, up to what follows the spaces after it. -/
theorem key?_bare {key : String} (h : IsBareKey key) (hd : isBare d = false)
    (hc : c ≠ '.') (hnext : skipSpace (d :: rest) = c :: s) :
    key? depthLimit (key.toList ++ d :: rest) = some (([], key), c :: s) := by
  rw [depthLimit, key?, keyPart?_bare h hd]
  dsimp only
  rw [hnext]
  split
  · rename_i heq
    exact absurd (List.cons.inj heq).1 hc
  · rfl

theorem assignment?_chars (e : Entry) (rest : List Char) :
    assignment? (value? depthLimit) (e.chars ++ rest) = some (e.assignment, '\n' :: rest) := by
  have happend : e.chars ++ rest =
      e.key.toList ++ ' ' :: '=' :: ' ' :: (e.text.toList ++ '\n' :: rest) := by simp [Entry.chars]
  have hkey : key? depthLimit (e.key.toList ++ ' ' :: '=' :: ' ' :: (e.text.toList ++ '\n' :: rest)) =
      some (([], e.key), '=' :: ' ' :: (e.text.toList ++ '\n' :: rest)) :=
    key?_bare e.bare (by decide) (by decide) rfl
  have hspace : skipSpace (' ' :: (e.text.toList ++ '\n' :: rest)) =
      skipSpace (e.text.toList ++ '\n' :: rest) := rfl
  rw [assignment?, happend, hkey]
  simp only [Option.bind_eq_bind, Option.bind_some, expect?, if_true, hspace, e.reads rest]
  rfl

/-- A text is one line that says `l`, whatever comes below it. -/
structure Says (text : List Char) (l : Line) : Prop where
  nonempty : text ≠ []
  starts : ∀ rest, skipBlank? false (text ++ rest) = some (text ++ rest)
  reads : ∀ rest, line? (text ++ rest) = some (l, rest)

theorem skipBlank?_cons (hspace : isSpace c = false) (hc : c ≠ '\n' ∧ c ≠ '\r' ∧ c ≠ '#') :
    skipBlank? false (c :: rest) = some (c :: rest) := by
  unfold skipBlank?
  split
  · cases ‹_ = []›
  · rename_i heq
    exact absurd (List.cons.inj heq).1 hc.1
  · rename_i heq
    cases heq
    simp [hc, hspace]

theorem says_entry (e : Entry) : Says e.chars (.assign e.assignment) := by
  obtain ⟨c, cs, hkey, hc⟩ := e.bare.eq_cons
  have hchars : ∃ s, e.chars = c :: s := ⟨_, by rw [Entry.chars, hkey, List.cons_append]⟩
  obtain ⟨s, hs⟩ := hchars
  refine ⟨hs ▸ List.cons_ne_nil c s, fun rest => ?_, fun rest => ?_⟩
  · rw [hs]
    exact skipBlank?_cons (isSpace_of_isBare hc)
      ⟨ne_of_isBare hc (by decide), ne_of_isBare hc (by decide), ne_of_isBare hc (by decide)⟩
  · have hread := assignment?_chars e rest
    rw [hs] at hread ⊢
    unfold line?
    split
    · rename_i heq
      exact absurd (List.cons.inj heq).1 (ne_of_isBare hc (by decide))
    · rename_i heq
      exact absurd (List.cons.inj heq).1 (ne_of_isBare hc (by decide))
    · rw [hread]
      rfl

theorem says_header (x : Chapter) : Says x.header (.header false [] x.name) := by
  obtain ⟨c, cs, hname, hc⟩ := x.bare.eq_cons
  refine ⟨List.cons_ne_nil _ _, fun rest => rfl, fun rest => ?_⟩
  have hkey : key? depthLimit (x.name.toList ++ ']' :: '\n' :: rest) =
      some (([], x.name), ']' :: '\n' :: rest) :=
    key?_bare x.bare (by decide) (by decide) rfl
  have happend : x.header ++ rest = '[' :: (x.name.toList ++ ']' :: '\n' :: rest) := by
    simp [Chapter.header]
  rw [happend]
  unfold line?
  split
  · rename_i heq
    rw [hname] at heq
    exact absurd (List.cons.inj (List.cons.inj heq).2).1 (ne_of_isBare hc (by decide))
  · rename_i heq
    cases heq
    rw [hkey]
    rfl
  · rename_i hne
    exact absurd rfl (hne _)

theorem lines?_cons {text : List Char} {bound : Nat} (h : Says text l) :
    lines? (bound + 1) (text ++ rest) = (lines? bound rest).map (l :: ·) := by
  rw [lines?.eq_def]
  dsimp only
  rw [h.starts]
  split
  · cases ‹_ = none›
  · rename_i heq
    exact absurd (List.append_eq_nil_iff.1 (Option.some.inj heq)).1 h.nonempty
  · rename_i heq
    cases heq
    rw [h.reads]
    exact Option.map_eq_bind.symm

/-- Lines one below the other say what each of them says. -/
theorem lines?_flatMap {ps : List (List Char × Line)} (h : ∀ p ∈ ps, Says p.1 p.2) {bound : Nat}
    (hbound : ps.length ≤ bound) :
    lines? bound (ps.flatMap (·.1)) = some (ps.map (·.2)) := by
  induction ps generalizing bound with
  | nil => cases bound <;> rfl
  | cons p ps ih =>
    obtain ⟨hp, hps⟩ := List.forall_mem_cons.1 h
    cases bound with
    | zero => simp at hbound
    | succ bound =>
      rw [List.flatMap_cons, lines?_cons hp, ih hps (Nat.le_of_succ_le_succ hbound)]
      rfl

theorem length_le_flatMap {ps : List (List Char × Line)} (h : ∀ p ∈ ps, Says p.1 p.2) :
    ps.length ≤ (ps.flatMap (·.1)).length := by
  induction ps with
  | nil => exact Nat.le_refl 0
  | cons p ps ih =>
    obtain ⟨hp, hps⟩ := List.forall_mem_cons.1 h
    have hpos := List.length_pos_iff.2 hp.nonempty
    have hle := ih hps
    rw [List.flatMap_cons, List.length_append, List.length_cons]
    omega

end Lines

section Tables

/-- Keys that are all new are set one after the other. -/
theorem assignAll_entries {entries : List Entry} {es : Entries}
    (h : (es.map Prod.fst ++ entries.map (·.key)).Nodup) :
    assignAll (entries.map Entry.assignment) es =
      some (es ++ entries.map fun e => (e.key, .value e.value)) := by
  induction entries generalizing es with
  | nil => simp [assignAll]
  | cons e entries ih =>
    have hnew : es.lookup e.key = none := by
      refine Option.not_isSome_iff_eq_none.1 (mt mem_keys_iff.2 fun hmem => ?_)
      exact (List.nodup_append.1 h).2.2 _ hmem _ List.mem_cons_self rfl
    have happly : e.assignment.apply es = some (es ++ [(e.key, .value e.value)]) := by
      simp [Assignment.apply, Entry.assignment, within, hnew]
    rw [List.map_cons, assignAll, happly, Option.bind_some, ih (by simpa using h)]
    simp

/-- The section under a header. -/
def Chapter.section (c : Chapter) : Section :=
  { isRow := false, path := [], key := c.name, lines := c.entries.map Entry.assignment }

def Chapter.draft (c : Chapter) : Draft :=
  .table .header (c.entries.map fun e => (e.key, .value e.value))

theorem sectionAll_chapters {chapters : List Chapter} {es : Entries}
    (h : (es.map Prod.fst ++ chapters.map (·.name)).Nodup) :
    sectionAll (chapters.map Chapter.section) es =
      some (es ++ chapters.map fun c => (c.name, c.draft)) := by
  induction chapters generalizing es with
  | nil => simp [sectionAll]
  | cons c chapters ih =>
    have hnew : es.lookup c.name = none := by
      refine Option.not_isSome_iff_eq_none.1 (mt mem_keys_iff.2 fun hmem => ?_)
      exact (List.nodup_append.1 h).2.2 _ hmem _ List.mem_cons_self rfl
    have hlines : assignAll (c.entries.map Entry.assignment) [] =
        some (c.entries.map fun e => (e.key, .value e.value)) :=
      assignAll_entries (by simpa using c.keys)
    have happly : c.section.apply es = some (es ++ [(c.name, c.draft)]) := by
      simp [Section.apply, Chapter.section, Chapter.draft, within, hnew, hlines]
    rw [List.map_cons, sectionAll, happly, Option.bind_some, ih (by simpa using h)]
    simp

theorem sections_assign (as : List Assignment) (ls : List Line) :
    sections (as.map Line.assign ++ ls) = (as ++ (sections ls).1, (sections ls).2) := by
  induction as with
  | nil => rfl
  | cons a as ih => rw [List.map_cons, List.cons_append, sections, ih]; rfl

theorem sections_chapters (chapters : List Chapter) :
    sections ((chapters.flatMap Chapter.lines).map (·.2)) = ([], chapters.map Chapter.section) := by
  induction chapters with
  | nil => rfl
  | cons c chapters ih =>
    have hlines : c.lines.map (·.2) = .header false [] c.name ::
        (c.entries.map Entry.assignment).map Line.assign := by
      simp [Chapter.lines, Function.comp_def]
    rw [List.flatMap_cons, List.map_append, hlines, List.cons_append, sections, sections_assign, ih]
    simp [Chapter.section]

theorem assemble?_chapters {chapters : List Chapter} (h : (chapters.map (·.name)).Nodup) :
    assemble? ((chapters.flatMap Chapter.lines).map (·.2)) =
      some (chapters.map fun c => (c.name, .table c.table)) := by
  have hsections : sectionAll (chapters.map Chapter.section) [] =
      some (chapters.map fun c => (c.name, c.draft)) := sectionAll_chapters (by simpa using h)
  rw [assemble?, sections_chapters]
  simp [assignAll, hsections, entriesToTable_eq_map, Chapter.draft, Draft.toValue, Chapter.table,
    Function.comp_def]

end Tables

section Document

/-- The text of a plain document. -/
def plainText (chapters : List Chapter) : List Char := chapters.flatMap Chapter.chars

theorem plainText_eq (chapters : List Chapter) :
    plainText chapters = (chapters.flatMap Chapter.lines).flatMap (·.1) := by
  rw [plainText, List.flatMap_assoc]
  refine congrArg (List.flatMap · chapters) (funext fun c => ?_)
  rw [Chapter.lines, List.flatMap_cons, List.flatMap_map, Chapter.chars]

theorem says_lines (chapters : List Chapter) :
    ∀ p ∈ chapters.flatMap Chapter.lines, Says p.1 p.2 := by
  intro p hp
  obtain ⟨c, -, hp⟩ := List.mem_flatMap.1 hp
  rcases List.mem_cons.1 hp with rfl | hp
  · exact says_header c
  · obtain ⟨e, -, rfl⟩ := List.mem_map.1 hp
    exact says_entry e

theorem withoutMark_plainText (chapters : List Chapter) :
    withoutMark (plainText chapters) = plainText chapters := by
  cases chapters with
  | nil => rfl
  | cons c chapters => rfl

/-- A plain document holds its tables, in order. -/
theorem document?_plain {chapters : List Chapter} (h : (chapters.map (·.name)).Nodup) :
    document? (String.ofList (plainText chapters)) =
      some (chapters.map fun c => (c.name, .table c.table)) := by
  have hlines : lines? (plainText chapters).length (plainText chapters) =
      some ((chapters.flatMap Chapter.lines).map (·.2)) := by
    rw [plainText_eq]
    exact lines?_flatMap (says_lines chapters) (length_le_flatMap (says_lines chapters))
  rw [document?_ofList, withoutMark_plainText, hlines, Option.bind_some, assemble?_chapters h]

end Document

end PooledTcp.Toml
