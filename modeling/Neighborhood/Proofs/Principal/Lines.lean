import Neighborhood.Proofs.Principal
import Neighborhood.Proofs.Text.Fields
import Neighborhood.Proofs.Text.Numeral

/-!
# The lines of a text of principals

* `PrincipalMap.Asks` — a line is a name and a number, blank characters around them and a comment behind
* `PrincipalMap.pair?_eq_some_iff` — what a line asks for is what is read of it
* `PrincipalMap.asked_append` — a text behind whole lines asks for what it asks for alone, after those
* `PrincipalMap.skips_iff` — the lines that change nothing: without a pair, with a bad one, or with one that is taken
* `PrincipalMap.read_lines` — lines that change nothing can be removed, and what follows takes nothing back
-/

namespace Neighborhood

namespace PrincipalMap

/-! ## Single lines -/

/-- A decimal number of 32 bits, or a hexadecimal one after `0x` or `0X`. -/
inductive WritesType : List Char → XidType → Prop
  | decimal {cs : List Char} {type : XidType} (h : Numeral.Writes 10 cs type.code.toNat) : WritesType cs type
  | hexadecimal {x : Char} {cs : List Char} {type : XidType} (hx : x = 'x' ∨ x = 'X')
      (h : Numeral.Writes 16 cs type.code.toNat) : WritesType ('0' :: x :: cs) type

/-- The line without what is behind its first `#` has two fields, a name and a number. -/
def Asks (line : List Char) (name : String) (type : XidType) : Prop :=
  ∃ content number, (line = content ∨ ∃ comment, line = content ++ '#' :: comment) ∧ '#' ∉ content ∧
    Text.Fields content [name.toList, number] ∧ WritesType number type

variable {m : PrincipalMap} {line cs : List Char} {name : String} {type : XidType}

theorem parse?_eq_some_type_iff {radix : Nat} : ((Numeral.parse? radix (UInt32.size - 1) cs).map fun n =>
    (⟨UInt32.ofNat n⟩ : XidType)) = some type ↔ Numeral.Writes radix cs type.code.toNat := by
  rw [Option.map_eq_some_iff]
  constructor
  · rintro ⟨n, hn, rfl⟩
    obtain ⟨hw, hle⟩ := Numeral.parse?_eq_some_iff.1 hn
    have hlt : n < UInt32.size := by simp only [UInt32.size] at hle ⊢; omega
    rwa [UInt32.toNat_ofNat_of_lt' hlt]
  · intro hw
    have hlt := type.code.toNat_lt
    refine ⟨_, Numeral.parse?_eq_some_iff.2 ⟨hw, ?_⟩, ?_⟩
    · simp only [UInt32.size]
      omega
    · rw [UInt32.ofNat_toNat]

/-- The letter behind the zero is no decimal digit. -/
theorem not_writes_decimal {x : Char} (hx : x = 'x' ∨ x = 'X') {n : Nat} : ¬Numeral.Writes 10 ('0' :: x :: cs) n := by
  have hnone : Numeral.digit? 10 x = none := by rcases hx with rfl | rfl <;> decide
  intro h
  cases h with
  | digits _ hds =>
    obtain _ | ⟨_, _ | ⟨hd, _⟩⟩ := hds
    rw [← Numeral.digit?_eq_some_iff, hnone] at hd
    cases hd

theorem readType?_eq_some_iff : readType? cs = some type ↔ WritesType cs type := by
  unfold readType?
  split
  · refine parse?_eq_some_type_iff.trans ⟨.hexadecimal (.inl rfl), fun h => ?_⟩
    cases h with
    | decimal h => exact absurd h (not_writes_decimal (.inl rfl))
    | hexadecimal _ h => exact h
  · refine parse?_eq_some_type_iff.trans ⟨.hexadecimal (.inr rfl), fun h => ?_⟩
    cases h with
    | decimal h => exact absurd h (not_writes_decimal (.inr rfl))
    | hexadecimal _ h => exact h
  · rename_i hsmall hcapital
    refine parse?_eq_some_type_iff.trans ⟨.decimal, fun h => ?_⟩
    cases h with
    | decimal h => exact h
    | hexadecimal hx h =>
      rcases hx with rfl | rfl
      · exact absurd rfl (hsmall _)
      · exact absurd rfl (hcapital _)

/-- What is behind the first `#` is cut off. -/
theorem content_iff {content : List Char} :
    (line = content ∨ ∃ comment, line = content ++ '#' :: comment) ∧ '#' ∉ content ↔
      content = line.takeWhile (· ≠ '#') := by
  constructor
  · rintro ⟨hline, hnot⟩
    have hall : ∀ c ∈ content, decide (c ≠ '#') = true := fun c hc => decide_eq_true fun h => hnot (h ▸ hc)
    rcases hline with rfl | ⟨comment, rfl⟩
    · exact (List.takeWhile_eq_self_iff.2 hall).symm
    · rw [List.takeWhile_append_of_pos hall, List.takeWhile_cons_of_neg (by simp), List.append_nil]
  · rintro rfl
    have hsplit := List.takeWhile_append_dropWhile (p := (· ≠ '#')) (l := line)
    refine ⟨?_, fun hmem => by simpa using List.mem_takeWhile_imp hmem⟩
    have hhead := List.head?_dropWhile_not (fun c => decide (c ≠ '#')) line
    cases hrest : line.dropWhile (· ≠ '#') with
    | nil => rw [hrest, List.append_nil] at hsplit; exact .inl hsplit.symm
    | cons c comment =>
      rw [hrest] at hsplit hhead
      have hc : c = '#' := by simpa using hhead
      rw [hc] at hsplit
      exact .inr ⟨comment, hsplit.symm⟩

theorem pair?_eq_some_iff : pair? line = some (name, type) ↔ Asks line name type := by
  have hasks : Asks line name type ↔ ∃ number, Text.words (line.takeWhile (· ≠ '#')) = [name.toList, number] ∧
      readType? number = some type := by
    constructor
    · rintro ⟨content, number, hline, hnot, hf, hw⟩
      rw [← content_iff.1 ⟨hline, hnot⟩]
      exact ⟨number, Text.fields_iff.1 hf, readType?_eq_some_iff.2 hw⟩
    · rintro ⟨number, hf, hw⟩
      obtain ⟨hline, hnot⟩ := content_iff.2 (rfl : line.takeWhile (· ≠ '#') = _)
      exact ⟨_, number, hline, hnot, Text.fields_iff.2 hf, readType?_eq_some_iff.1 hw⟩
  rw [hasks, pair?, Text.words_trim]
  generalize Text.words (line.takeWhile (· ≠ '#')) = words
  obtain _ | ⟨w, _ | ⟨number, _ | ⟨word, more⟩⟩⟩ := words
  · simp
  · simp
  · have hname : String.ofList w = name ↔ w = name.toList := by
      rw [← String.toList_inj, String.toList_ofList]
    simp only [Option.map_eq_some_iff, Prod.mk.injEq, List.cons.injEq, and_true]
    constructor
    · rintro ⟨type', hr, hn, rfl⟩
      exact ⟨number, ⟨hname.1 hn, rfl⟩, hr⟩
    · rintro ⟨_, ⟨hn, rfl⟩, hr⟩
      exact ⟨type, hr, hname.2 hn, rfl⟩
  · simp

theorem pair?_nil : pair? [] = none := rfl

/-- The return at the end of a line is in the comment, or blank. -/
theorem pair?_dropReturn (line : List Char) : pair? (Text.dropReturn line) = pair? line := by
  rcases Text.eq_of_dropReturn line with h | h
  · rw [h]
  · generalize Text.dropReturn line = short at h
    have hwords : Text.words (line.takeWhile (· ≠ '#')) = Text.words (short.takeWhile (· ≠ '#')) := by
      rw [h, List.takeWhile_append]
      split
      · rename_i hlen
        rw [(List.takeWhile_prefix _).eq_of_length hlen]
        exact Text.words_append_blank short (List.forall_mem_singleton.2 rfl)
      · rfl
    rw [pair?, pair?, Text.words_trim, Text.words_trim, hwords]

/-! ## The pairs of a text -/

/-- The pairs that the lines of a text ask for, in order. -/
inductive Asked : List (List Char) → List (String × XidType) → Prop
  | nil : Asked [] []
  | asks {line : List Char} {lines : List (List Char)} {name : String} {type : XidType}
      {pairs : List (String × XidType)} (h : Asks line name type) (hs : Asked lines pairs) :
      Asked (line :: lines) ((name, type) :: pairs)
  | silent {line : List Char} {lines : List (List Char)} {pairs : List (String × XidType)}
      (h : ∀ name type, ¬Asks line name type) (hs : Asked lines pairs) : Asked (line :: lines) pairs

theorem asked_iff : ∀ {lines : List (List Char)} {pairs : List (String × XidType)},
    Asked lines pairs ↔ pairs = lines.filterMap pair?
  | [], pairs => ⟨fun h => by cases h; rfl, fun h => h ▸ .nil⟩
  | line :: lines, pairs => by
    rw [List.filterMap_cons]
    cases hp : pair? line with
    | none =>
      have hno : ∀ name type, ¬Asks line name type := fun name type h => by
        rw [pair?_eq_some_iff.2 h] at hp
        cases hp
      constructor
      · rintro (_ | ⟨h, -⟩ | ⟨-, hs⟩)
        · exact absurd h (hno _ _)
        · exact asked_iff.1 hs
      · exact fun h => .silent hno (asked_iff.2 h)
    | some pair =>
      have hasks := pair?_eq_some_iff.1 hp
      constructor
      · rintro (_ | ⟨h, hs⟩ | ⟨h, -⟩)
        · have heq := pair?_eq_some_iff.2 h
          rw [hp] at heq
          rw [← asked_iff.1 hs, ← Option.some.inj heq]
        · exact absurd hasks (h _ _)
      · rintro rfl
        exact .asks hasks (asked_iff.2 rfl)

/-- The pairs of the lines between line feeds. -/
def asked (text : String) : List (String × XidType) :=
  (text.toList.splitOn '\n').filterMap pair?

theorem read_eq (text : String) : (read text).1 = insertAll {} (asked text) := by
  rw [read_eq_insertAll, Text.filterMap_lines pair?_nil pair?_dropReturn, asked]

/-- A text of whole lines: it is empty or ends with a line feed. -/
def Ended (text : String) : Prop :=
  text = "" ∨ ∃ rest, text = rest ++ "\n"

theorem splitOn_append_cons (cs rest : List Char) :
    (cs ++ '\n' :: rest).splitOn '\n' = cs.splitOn '\n' ++ rest.splitOn '\n' := by
  simp only [List.splitOn_eq_splitOnP]
  exact List.splitOnP_append_cons _ _ (by simp)

theorem asked_feed (text : String) : asked (text ++ "\n") = asked text := by
  have hfeed : (text ++ "\n").toList = text.toList ++ '\n' :: [] := String.toList_append
  -- the part behind the last line feed is empty, and asks for nothing
  rw [asked, hfeed, splitOn_append_cons, List.splitOn_nil, List.filterMap_append, List.filterMap_cons, pair?_nil,
    List.filterMap_nil, List.append_nil, asked]

/-- What follows whole lines asks for what it asks for alone. -/
theorem asked_append {before : String} (h : Ended before) (after : String) :
    asked (before ++ after) = asked before ++ asked after := by
  rcases h with rfl | ⟨rest, rfl⟩
  · rw [String.empty_append]
    rfl
  · have hfeed : (rest ++ "\n" ++ after).toList = rest.toList ++ '\n' :: after.toList := by
      simp only [String.toList_append, List.append_assoc]
      rfl
    rw [asked_feed, asked, hfeed, splitOn_append_cons, List.filterMap_append, asked, asked]

theorem asked_line {line : String} (h : '\n' ∉ line.toList) : asked line = (pair? line.toList).toList := by
  have hone : line.toList.splitOn '\n' = [line.toList] := by
    have hmem : ∀ part ∈ [line.toList], '\n' ∉ part := List.forall_mem_singleton.2 h
    simpa using List.splitOn_intercalate '\n' hmem (List.cons_ne_nil _ _)
  rw [asked, hone, List.filterMap_cons]
  cases pair? line.toList <;> rfl

/-! ## Lines that change nothing -/

/-- The line is blank, or skipped with an error. -/
def Skips (m : PrincipalMap) (line : List Char) : Prop :=
  m.readLine line = (.ok (), m) ∨ ∃ e, (m.readLine line).1 = .error e

theorem insertAll_append (m : PrincipalMap) (pairs more : List (String × XidType)) :
    m.insertAll (pairs ++ more) = (m.insertAll pairs).insertAll more :=
  List.foldl_append

theorem read_append {before : String} (h : Ended before) (after : String) :
    (read (before ++ after)).1 = (read before).1.insertAll (asked after) := by
  rw [read_eq, read_eq, asked_append h, insertAll_append]

/-- A line with an error changes nothing. -/
theorem readLine_of_error {e : LineError} (h : (m.readLine line).1 = .error e) : (m.readLine line).2 = m := by
  unfold readLine at h ⊢
  dsimp only at h ⊢
  split at h
  · cases h
  · rename_i hblank
    rw [if_neg hblank]
    split at h
    · split at h
      · rfl
      · rename_i name _ _ _ type _
        obtain ⟨-, hi⟩ | ⟨-, e', he⟩ := m.insert_cases (String.ofList name) type
        · rw [hi] at h
          cases h
        · dsimp only
          rw [he]
    · rfl

/-- A line is skipped if the insertion that it asks for changes nothing. -/
theorem skips_iff_insertAll : m.Skips line ↔ m.insertAll (pair? line).toList = m := by
  have hline : (m.readLine line).2 = m.insertAll (pair? line).toList := by
    rw [readLine_eq]
    cases pair? line <;> rfl
  rw [← hline, Skips]
  constructor
  · rintro (h | ⟨e, h⟩)
    · rw [h]
    · exact readLine_of_error h
  · intro h
    cases ha : (m.readLine line).1 with
    | ok _ => exact .inl (Prod.ext ha h)
    | error e => exact .inr ⟨e, rfl⟩

/-- An accepted insertion adds an entry. -/
theorem attempt_eq_self_iff {pair : String × XidType} :
    m.attempt pair = m ↔ ∃ e, (m.insert pair.1 pair.2).1 = .error e := by
  unfold attempt
  obtain ⟨-, hi⟩ | ⟨-, e, he⟩ := m.insert_cases pair.1 pair.2
  · rw [hi]
    refine iff_of_false (fun heq => ?_) (by simp)
    have hnames := congrArg byName heq
    exact absurd hnames (by simp)
  · rw [he]
    exact iff_of_true rfl ⟨e, rfl⟩

/-- A line is skipped unless it asks for a pair that is accepted. -/
theorem skips_iff (hm : m.Regular) : m.Skips line ↔
    ∀ name type, Asks line name type → ¬IsPrincipalName name ∨ type.code = 0 ∨ m.Taken name type := by
  simp only [skips_iff_insertAll, ← pair?_eq_some_iff, ← hm.guarded.refuses]
  cases pair? line with
  | none => simp [insertAll]
  | some pair =>
    have hone : m.insertAll (some pair).toList = m.attempt pair := rfl
    rw [hone, attempt_eq_self_iff]
    refine ⟨fun h name type heq => ?_, fun h => h pair.1 pair.2 rfl⟩
    cases heq
    exact h

/-! ## Lines removed, and lines added -/

/-- Reading a text gives the same map if a skipped line is left out. -/
theorem read_without {before line after : String} (hb : Ended before) (hl : '\n' ∉ line.toList)
    (hs : (read before).1.Skips line.toList) :
    (read (before ++ line ++ "\n" ++ after)).1 = (read (before ++ after)).1 := by
  have hline : asked (line ++ "\n" ++ after) = (pair? line.toList).toList ++ asked after := by
    rw [asked_append (.inr ⟨line, rfl⟩), asked_feed, asked_line hl]
  have htext : before ++ line ++ "\n" ++ after = before ++ (line ++ "\n" ++ after) := by
    simp only [String.append_assoc]
  -- behind the line, what follows is read into the map that was there before it
  rw [htext, read_append hb, hline, insertAll_append, skips_iff_insertAll.1 hs, read_append hb]

/-- The same at the end of a text, where no line feed has to follow. -/
theorem read_without_last {before line : String} (hb : Ended before) (hl : '\n' ∉ line.toList)
    (hs : (read before).1.Skips line.toList) : (read (before ++ line)).1 = (read before).1 := by
  rw [read_append hb, asked_line hl, skips_iff_insertAll.1 hs]

/-- All entries of one map are in the other one, in front of those that it has besides. -/
structure Extends (m m' : PrincipalMap) : Prop where
  byName : m.byName <+: m'.byName
  byType : m.byType <+: m'.byType

theorem Extends.refl (m : PrincipalMap) : m.Extends m := ⟨List.prefix_rfl, List.prefix_rfl⟩

theorem Extends.trans {m₁ m₂ m₃ : PrincipalMap} (h : m₁.Extends m₂) (h' : m₂.Extends m₃) : m₁.Extends m₃ :=
  ⟨h.byName.trans h'.byName, h.byType.trans h'.byType⟩

theorem extends_attempt (m : PrincipalMap) (pair : String × XidType) : m.Extends (m.attempt pair) := by
  unfold attempt
  obtain ⟨-, hi⟩ | ⟨-, e, he⟩ := m.insert_cases pair.1 pair.2
  · rw [hi]
    exact ⟨List.prefix_append _ _, List.prefix_append _ _⟩
  · rw [he]
    exact .refl m

theorem extends_insertAll : ∀ (m : PrincipalMap) (pairs : List (String × XidType)), m.Extends (m.insertAll pairs)
  | m, [] => .refl m
  | m, pair :: pairs => (extends_attempt m pair).trans (extends_insertAll (m.attempt pair) pairs)

/-- What is found in the front of a list is found in the list. -/
theorem lookup_of_prefix {κ α : Type} [BEq κ] [LawfulBEq κ] {l l' : List (κ × α)} {k : κ} {a : α} (hp : l <+: l')
    (h : l.lookup k = some a) : l'.lookup k = some a := by
  obtain ⟨more, rfl⟩ := hp
  rw [List.lookup_append, h, Option.some_or]

theorem Extends.typeOf? {m' : PrincipalMap} (h : m.Extends m') (ht : m.typeOf? name = some type) :
    m'.typeOf? name = some type :=
  lookup_of_prefix h.byName ht

theorem Extends.nameOf? {m' : PrincipalMap} (h : m.Extends m') (ht : m.nameOf? type = some name) :
    m'.nameOf? type = some name :=
  lookup_of_prefix h.byType ht

/-- The map of a text is what its lines ask for, inserted in order. A line that asks for nothing, or for a name or a
type that is bad or taken by then, can be left out; whatever follows whole lines, what they lead to is kept. -/
theorem read_lines :
    (∀ text, ∃ pairs, (∀ ps, Asked (text.toList.splitOn '\n') ps ↔ ps = pairs) ∧
      (read text).1 = insertAll {} pairs) ∧
    (∀ before line after, Ended before → '\n' ∉ line.toList → (read before).1.Skips line.toList →
      (read (before ++ line ++ "\n" ++ after)).1 = (read (before ++ after)).1 ∧
      (read (before ++ line)).1 = (read before).1) ∧
    (∀ before line, (read before).1.Skips line ↔ ∀ name type, Asks line name type →
      ¬IsPrincipalName name ∨ type.code = 0 ∨ (read before).1.Taken name type) ∧
    ∀ text more, Ended text → (read text).1.Extends (read (text ++ more)).1 ∧
      (∀ name type, (read text).1.typeOf? name = some type → (read (text ++ more)).1.typeOf? name = some type) ∧
      ∀ name type, (read text).1.nameOf? type = some name → (read (text ++ more)).1.nameOf? type = some name := by
  refine ⟨fun text => ⟨asked text, fun ps => asked_iff, read_eq text⟩, fun before line after hb hl hs =>
    ⟨read_without hb hl hs, read_without_last hb hl hs⟩, fun before line => skips_iff (.read before),
    fun text more ht => ?_⟩
  have hext : (read text).1.Extends (read (text ++ more)).1 := by
    rw [read_append ht]
    exact extends_insertAll _ _
  exact ⟨hext, fun _ _ => hext.typeOf?, fun _ _ => hext.nameOf?⟩

/-- A comment, names with types in both forms, a line that repeats a type, and then one that uses its name and one that
repeats a name. -/
theorem read_lines_of_sample :
    let before := "# principals\nad 0x10\n\nhid\t0X+11 # host\r\nether +19\n"
    Asks "hid\t0X+11 # host\r".toList "hid" ⟨17⟩ ∧ (read before).1.Skips "dup 17".toList ∧
      (read (before ++ "dup 17" ++ "\n" ++ "Dup 18\nAD 20")).1 = (read (before ++ "Dup 18\nAD 20")).1 ∧
      (read before).1.Taken "dup" ⟨17⟩ ∧ (read (before ++ "Dup 18\nAD 20")).1.typeOf? "Ad" = some ⟨16⟩ := by
  intro before
  obtain ⟨-, hwithout, hskips, hkept⟩ := read_lines
  have hb : Ended before := .inr ⟨"# principals\nad 0x10\n\nhid\t0X+11 # host\r\nether +19", by decide +kernel⟩
  have hs : (read before).1.Skips "dup 17".toList := .inr ⟨.refused (.duplicated "dup" ⟨17⟩), by decide +kernel⟩
  have hdup : Asks "dup 17".toList "dup" ⟨17⟩ := pair?_eq_some_iff.1 (by decide +kernel)
  have hname : IsPrincipalName "dup" := isName_iff.1 (by decide +kernel)
  refine ⟨pair?_eq_some_iff.1 (by decide +kernel), hs, (hwithout before "dup 17" _ hb (by decide +kernel) hs).1, ?_, ?_⟩
  · rcases (hskips before _).1 hs _ _ hdup with h | h | h
    · exact absurd hname h
    · exact absurd h (by decide)
    · exact h
  · exact (hkept before _ hb).2.1 _ _ (by decide +kernel)

end PrincipalMap

end Neighborhood
