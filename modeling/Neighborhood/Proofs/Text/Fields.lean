import Neighborhood.Text.Fields

/-!
# Parts, fields and lines of a text

* `Text.splitOn_eq`, `Text.join_eq` — cutting at a separator and putting it back, as on any list
* `Text.Fields` — a text consists of these fields and of blank characters around them
* `Text.fields_iff` — exactly one list of fields is that of a text, and it is what `Text.words` gives
* `Text.words_trim` — blank ends do not change the fields
* `Text.filterMap_lines` — where returns and empty lines do not matter, lines are the parts between line feeds
-/

namespace Neighborhood.Text

/-! ## Parts and separators -/

theorem splitOn_eq (sep : Char) (cs : List Char) : splitOn sep cs = cs.splitOn sep := by
  induction cs with
  | nil => rw [List.splitOn_nil, splitOn]
  | cons c cs ih =>
    have hne : cs.splitOn sep ≠ [] := List.splitOn_ne_nil sep cs
    rw [splitOn, ih]
    rw [List.splitOn_eq_splitOnP] at hne ⊢
    rw [List.splitOn_eq_splitOnP, List.splitOnP_cons_eq_if_modifyHead]
    simp only [beq_iff_eq]
    generalize List.splitOnP (fun x => x == sep) cs = parts at hne
    split
    · rfl
    · cases parts with
      | nil => exact absurd rfl hne
      | cons part parts => rfl

theorem join_eq (sep : Char) : ∀ parts : List (List Char), join sep parts = [sep].intercalate parts
  | [] => rfl
  | [part] => by simp [join]
  | part :: next :: parts => by
    rw [join, join_eq sep (next :: parts)]
    · simp [List.intercalate_cons_cons]
    · simp

/-! ## Fields -/

/-- One character at least, and no blank one. -/
structure IsField (w : List Char) : Prop where
  ne_nil : w ≠ []
  solid : ∀ c ∈ w, isBlank c = false

/-- Nothing that would belong to a field before it. -/
def Parted (rest : List Char) : Prop :=
  ∀ c ∈ rest.head?, isBlank c

/-- The text consists of these fields, blank characters between any two of them, and blank characters around them. -/
inductive Fields : List Char → List (List Char) → Prop
  | nil {cs : List Char} : (∀ c ∈ cs, isBlank c) → Fields cs []
  | cons {before w rest : List Char} {ws : List (List Char)} : (∀ c ∈ before, isBlank c) → IsField w → Parted rest →
      Fields rest ws → Fields (before ++ (w ++ rest)) (w :: ws)

theorem forall_mem_takeWhile (p : Char → Bool) (cs : List Char) : ∀ c ∈ cs.takeWhile p, p c :=
  List.all_eq_true.1 List.all_takeWhile

theorem words_cons_of_blank {c : Char} (h : isBlank c) (cs : List Char) : words (c :: cs) = words cs := by
  rw [words.eq_def]
  exact if_pos h

theorem words_blank_append : ∀ {before : List Char}, (∀ c ∈ before, isBlank c) → ∀ cs, words (before ++ cs) = words cs
  | [], _, _ => rfl
  | c :: before, h, cs => by
    rw [List.forall_mem_cons] at h
    rw [List.cons_append, words_cons_of_blank h.1, words_blank_append h.2]

/-- A field is a word up to the next blank character. -/
theorem words_field_append : ∀ {w : List Char}, IsField w → ∀ {rest : List Char}, Parted rest →
    words (w ++ rest) = w :: words rest
  | [], h, _, _ => absurd rfl h.ne_nil
  | [c], h, rest, hr => by
    have hc : ¬ isBlank c := by simp [h.solid c List.mem_cons_self]
    rw [List.singleton_append, words.eq_def]
    simp only [if_neg hc]
    cases rest with
    | nil => rfl
    | cons d rest => simp only [if_pos (hr d rfl)]
  | c :: d :: w, h, rest, hr => by
    have hsolid := h.solid
    rw [List.forall_mem_cons] at hsolid
    have hc : ¬ isBlank c := by simp [hsolid.1]
    have hd : ¬ isBlank d := by simp [hsolid.2 d List.mem_cons_self]
    have ih := words_field_append ⟨List.cons_ne_nil d w, hsolid.2⟩ hr
    rw [List.cons_append] at ih
    rw [List.cons_append, List.cons_append, words.eq_def]
    simp only [if_neg hc, if_neg hd, ih]

theorem words_eq_of_fields {cs : List Char} {ws : List (List Char)} (h : Fields cs ws) : words cs = ws := by
  induction h with
  | nil hb =>
    have hw := words_blank_append hb []
    rwa [List.append_nil] at hw
  | cons hb hw hr _ ih => rw [words_blank_append hb, words_field_append hw hr, ih]

theorem parted_dropWhile (cs : List Char) : Parted (cs.dropWhile fun c => !isBlank c) := by
  intro c hc
  have h := List.head?_dropWhile_not (fun c => !isBlank c) cs
  rw [hc] at h
  simpa using h

/-- Every text consists of fields. -/
theorem exists_fields (cs : List Char) : ∃ ws, Fields cs ws := by
  -- on the length, since a field and the blank characters before it go at once
  induction hn : cs.length using Nat.strongRecOn generalizing cs with
  | ind n ih =>
    subst hn
    have hcs : cs.takeWhile isBlank ++ cs.dropWhile isBlank = cs := List.takeWhile_append_dropWhile
    cases hbody : cs.dropWhile isBlank with
    | nil =>
      rw [hbody, List.append_nil] at hcs
      exact ⟨[], .nil (hcs ▸ forall_mem_takeWhile isBlank cs)⟩
    | cons c body =>
      have hc : isBlank c = false := by
        have h := List.head?_dropWhile_not isBlank cs
        rw [hbody] at h
        simpa using h
      let w := (c :: body).takeWhile fun c => !isBlank c
      let rest := (c :: body).dropWhile fun c => !isBlank c
      have hsplit : w ++ rest = c :: body := List.takeWhile_append_dropWhile
      have hw : IsField w := by
        refine ⟨?_, fun d hd => by simpa using forall_mem_takeWhile _ _ d hd⟩
        simp [w, hc]
      have hlt : rest.length < cs.length := by
        have hpos := List.length_pos_iff.2 hw.ne_nil
        have hlen := congrArg List.length hcs
        rw [hbody, ← hsplit, List.length_append, List.length_append] at hlen
        omega
      obtain ⟨ws, hws⟩ := ih _ hlt rest rfl
      have hf : Fields (cs.takeWhile isBlank ++ (w ++ rest)) (w :: ws) :=
        .cons (forall_mem_takeWhile isBlank cs) hw (parted_dropWhile (c :: body)) hws
      rw [hsplit, ← hbody, hcs] at hf
      exact ⟨w :: ws, hf⟩

theorem fields_iff {cs : List Char} {ws : List (List Char)} : Fields cs ws ↔ words cs = ws := by
  refine ⟨words_eq_of_fields, ?_⟩
  rintro rfl
  obtain ⟨ws, h⟩ := exists_fields cs
  rwa [words_eq_of_fields h]

theorem Fields.append_blank {cs : List Char} {ws : List (List Char)} (h : Fields cs ws) {behind : List Char}
    (hb : ∀ c ∈ behind, isBlank c) : Fields (cs ++ behind) ws := by
  induction h with
  | nil hcs => exact .nil (List.forall_mem_append.2 ⟨hcs, hb⟩)
  | @cons before w rest ws hbefore hw hr _ ih =>
    have hparted : Parted (rest ++ behind) := by
      intro c hc
      cases rest with
      | nil => exact hb c (List.mem_of_mem_head? hc)
      | cons d rest => exact hr c hc
    rw [List.append_assoc, List.append_assoc]
    exact .cons hbefore hw hparted ih

theorem words_append_blank (cs : List Char) {behind : List Char} (hb : ∀ c ∈ behind, isBlank c) :
    words (cs ++ behind) = words cs :=
  words_eq_of_fields ((fields_iff.2 rfl).append_blank hb)

theorem words_trim (cs : List Char) : words (trim cs) = words cs := by
  have hstart : ∀ cs, words (trimStart cs) = words cs := fun cs => by
    have hw := words_blank_append (forall_mem_takeWhile isBlank cs) (cs.dropWhile isBlank)
    rw [List.takeWhile_append_dropWhile] at hw
    exact hw.symm
  have hend : ∀ cs, words (trimEnd cs) = words cs := fun cs => by
    have hb : ∀ c ∈ (cs.reverse.takeWhile isBlank).reverse, isBlank c := fun c hc =>
      forall_mem_takeWhile _ _ c (List.mem_reverse.1 hc)
    have hw := words_append_blank (trimEnd cs) hb
    rw [trimEnd, ← List.reverse_append, List.takeWhile_append_dropWhile, List.reverse_reverse] at hw
    exact hw.symm
  rw [trim, hend, hstart]

/-! ## Lines -/

theorem eq_of_dropReturn (line : List Char) : dropReturn line = line ∨ line = dropReturn line ++ ['\r'] := by
  unfold dropReturn
  split
  · rename_i rest h
    right
    rw [← List.reverse_cons, ← h, List.reverse_reverse]
  · exact .inl rfl

/-- Where neither the return at the end of a line nor an empty last line matters, lines are the parts between line
feeds. -/
theorem filterMap_lines {α : Type} {f : List Char → Option α} (hnil : f [] = none)
    (hreturn : ∀ line, f (dropReturn line) = f line) (cs : List Char) :
    (lines cs).filterMap f = (cs.splitOn '\n').filterMap f := by
  obtain ⟨parts, last, hparts⟩ : ∃ parts last, cs.splitOn '\n' = parts ++ [last] :=
    ⟨_, _, (List.dropLast_concat_getLast (List.splitOn_ne_nil '\n' cs)).symm⟩
  have hmap : (parts.map dropReturn).filterMap f = parts.filterMap f := by
    rw [List.filterMap_map]
    exact congrArg (parts.filterMap ·) (funext hreturn)
  simp only [lines, splitOn_eq, hparts, List.dropLast_concat, List.getLast?_concat]
  cases last with
  | nil => simp [hmap, hnil]
  | cons c last => simp [hmap]

end Neighborhood.Text
