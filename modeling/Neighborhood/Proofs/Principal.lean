import Mathlib
import Neighborhood.Principal

/-!
# Principal types and their names, one to one

* `SameButCase`, `PrincipalMap.folded_eq_iff` — names that are alike but for the case of letters of ASCII
* `PrincipalMap.insert_cases` — what is accepted: a name and a type that are both good and both free
* `PrincipalMap.read_eq_insertAll` — a text amounts to the insertions that its lines ask for
* `PrincipalMap.Regular` — each half of a map mirrors the other, which every insertion keeps
* `PrincipalMap.OneToOne`, `PrincipalMap.Regular.oneToOne` — so names and types are found from each other
* `PrincipalMap.insertAll_one_to_one` — all this of every map that a text and insertions lead to
-/

namespace Neighborhood

/-! ## Names -/

/-- Each character stands in the other name as it is, as its small letter or as its capital. -/
def SameButCase (a b : String) : Prop :=
  List.Forall₂ (fun c d : Char => d = c ∨ d = c.toLower ∨ d = c.toUpper) a.toList b.toList

/-- One to fifteen letters of ASCII, digits, underscores and hyphens. -/
structure IsPrincipalName (name : String) : Prop where
  length_pos : 1 ≤ name.length
  length_le : name.length ≤ 15
  chars : ∀ c ∈ name.toList, c.isUpper ∨ c.isLower ∨ c.isDigit ∨ c = '_' ∨ c = '-'

/-- The same without capitals. -/
structure IsKeptName (name : String) : Prop where
  length_pos : 1 ≤ name.length
  length_le : name.length ≤ 15
  chars : ∀ c ∈ name.toList, c.isLower ∨ c.isDigit ∨ c = '_' ∨ c = '-'

theorem toLower_eq_toLower_iff {c d : Char} : c.toLower = d.toLower ↔ d = c ∨ d = c.toLower ∨ d = c.toUpper := by
  constructor
  · intro h
    by_cases hd : d.isUpper
    · have hup : d.toLower.toUpper = d := by
        rw [Char.toUpper_toLower_eq_toUpper, Char.toUpper_eq_of_not_isLower (Char.not_isLower_of_isUpper hd)]
      rw [← h, Char.toUpper_toLower_eq_toUpper] at hup
      exact .inr (.inr hup.symm)
    · rw [Char.toLower_eq_of_not_isUpper hd] at h
      exact .inr (.inl h.symm)
  · rintro (rfl | rfl | rfl) <;> simp

theorem not_isUpper_of_isDigit {c : Char} (h : c.isDigit) : ¬c.isUpper := by
  simp only [Char.isDigit, Char.isUpper, UInt32.le_iff_toNat_le, Bool.and_eq_true, decide_eq_true_eq, ge_iff_le] at h ⊢
  have h57 : c.val.toNat ≤ 57 := h.2
  intro hu
  exact absurd (Nat.le_trans hu.1 h57) (by decide)

namespace PrincipalMap

theorem toList_folded (name : String) : (folded name).toList = name.toList.map Char.toLower := by
  rw [folded, String.toList_ofList]

theorem folded_eq_iff {a b : String} : folded a = folded b ↔ SameButCase a b := by
  rw [← String.toList_inj, toList_folded, toList_folded, ← List.forall₂_eq_eq_eq, List.forall₂_map_left_iff,
    List.forall₂_map_right_iff]
  simp only [toLower_eq_toLower_iff, SameButCase]

theorem folded_folded (name : String) : folded (folded name) = folded name := by
  rw [← String.toList_inj, toList_folded, toList_folded, List.map_map]
  exact List.map_congr_left fun c _ => Char.toLower_toLower_eq_toLower c

theorem isName_iff {name : String} : isName name = true ↔ IsPrincipalName name := by
  have hchars : (∀ c ∈ name.toList, isNameChar c = true) ↔
      ∀ c ∈ name.toList, c.isUpper ∨ c.isLower ∨ c.isDigit ∨ c = '_' ∨ c = '-' := by
    simp only [isNameChar, Char.isAlphanum, Char.isAlpha, Bool.or_eq_true, beq_iff_eq, or_assoc]
  have hpos : name.toList.isEmpty = false ↔ 1 ≤ name.length := by
    rw [List.isEmpty_eq_false_iff, ← List.length_pos_iff, String.length_toList]
    rfl
  simp only [isName, Bool.and_eq_true, Bool.not_eq_true', hpos, decide_eq_true_eq, List.all_eq_true, hchars,
    String.length_toList]
  exact ⟨fun h => ⟨h.1.1, h.1.2, h.2⟩, fun h => ⟨⟨h.length_pos, h.length_le⟩, h.chars⟩⟩

/-- A good name is kept in lower case. -/
theorem isKeptName_folded {name : String} (h : IsPrincipalName name) : IsKeptName (folded name) := by
  have hlen : (folded name).length = name.length := by
    rw [← String.length_toList, toList_folded, List.length_map, String.length_toList]
  refine ⟨hlen ▸ h.length_pos, hlen ▸ h.length_le, ?_⟩
  rw [toList_folded, List.forall_mem_map]
  intro c hc
  rcases h.chars c hc with hu | hl | hd | rfl | rfl
  · exact .inl (by rw [Char.isLower_toLower_eq_isAlpha, Char.isAlpha, hu, Bool.true_or])
  · exact .inl (by rw [Char.isLower_toLower_eq_isAlpha, Char.isAlpha, hl, Bool.or_true])
  · rw [Char.toLower_eq_of_not_isUpper (not_isUpper_of_isDigit hd)]
    exact .inr (.inl hd)
  · exact .inr (.inr (.inl rfl))
  · exact .inr (.inr (.inr rfl))

/-! ## Insertions -/

variable {m m' : PrincipalMap} {name : String} {type : XidType}

/-- The name and the type are good, and neither is taken. -/
structure Accepts (m : PrincipalMap) (name : String) (type : XidType) : Prop where
  goodName : IsPrincipalName name
  realType : type.code ≠ 0
  freeName : m.byName.lookup (folded name) = none
  freeType : m.byType.lookup type = none

/-- A name and a type are added if they are accepted; if they are not, the map stays as it is. -/
theorem insert_cases (m : PrincipalMap) (name : String) (type : XidType) :
    (m.Accepts name type ∧ m.insert name type =
      (.ok (), ⟨m.byName ++ [(folded name, type)], m.byType ++ [(type, folded name)]⟩)) ∨
    (¬m.Accepts name type ∧ ∃ e, m.insert name type = (.error e, m)) := by
  have hgood : ¬(!isName name ∨ type.code = 0) ↔ IsPrincipalName name ∧ type.code ≠ 0 := by
    rw [not_or, Bool.not_eq_true', Bool.not_eq_false, isName_iff]
  have hfree : ¬((m.byName.lookup (folded name)).isSome ∨ (m.byType.lookup type).isSome) ↔
      m.byName.lookup (folded name) = none ∧ m.byType.lookup type = none := by
    simp only [not_or, Option.not_isSome_iff_eq_none]
  unfold insert
  by_cases hbad : !isName name ∨ type.code = 0
  · rw [if_pos hbad]
    exact .inr ⟨fun h => hgood.2 ⟨h.goodName, h.realType⟩ hbad, _, rfl⟩
  · rw [if_neg hbad]
    dsimp only
    by_cases htaken : (m.byName.lookup (folded name)).isSome ∨ (m.byType.lookup type).isSome
    · rw [if_pos htaken]
      exact .inr ⟨fun h => hfree.2 ⟨h.freeName, h.freeType⟩ htaken, _, rfl⟩
    · rw [if_neg htaken]
      obtain ⟨hname, htype⟩ := hgood.1 hbad
      obtain ⟨hn, ht⟩ := hfree.1 htaken
      exact .inl ⟨⟨hname, htype, hn, ht⟩, rfl⟩

/-- The map after an insertion, which may be refused. -/
def attempt (m : PrincipalMap) (pair : String × XidType) : PrincipalMap :=
  (m.insert pair.1 pair.2).2

/-- The map after insertions, some of which may be refused. -/
def insertAll (m : PrincipalMap) (pairs : List (String × XidType)) : PrincipalMap :=
  pairs.foldl attempt m

/-! ## Texts -/

/-- The name and the type that a line asks for. -/
def pair? (line : List Char) : Option (String × XidType) :=
  match Text.words (Text.trim (line.takeWhile (· ≠ '#'))) with
  | [name, type] => (readType? type).map (String.ofList name, ·)
  | _ => none

/-- A line changes the map as the insertion that it asks for; if it asks for none, the map stays as it is. -/
theorem readLine_eq (m : PrincipalMap) (line : List Char) :
    (m.readLine line).2 = ((pair? line).map m.attempt).getD m := by
  unfold readLine pair?
  dsimp only
  generalize Text.trim (line.takeWhile (· ≠ '#')) = text
  cases text with
  | nil => rfl
  | cons c cs =>
    simp only [List.isEmpty_cons, Bool.false_eq_true, if_false]
    generalize Text.words (c :: cs) = words
    obtain _ | ⟨name, _ | ⟨type, _ | ⟨word, more⟩⟩⟩ := words
    · rfl
    · rfl
    · dsimp only
      cases readType? type <;> rfl
    · rfl

theorem readLines_eq (m : PrincipalMap) (number : Nat) (lines : List (List Char)) :
    (m.readLines number lines).1 = m.insertAll (lines.filterMap pair?) := by
  induction lines generalizing m number with
  | nil => rfl
  | cons line lines ih =>
    have hrest : m.insertAll ((line :: lines).filterMap pair?) =
        (((pair? line).map m.attempt).getD m).insertAll (lines.filterMap pair?) := by
      rw [List.filterMap_cons]
      cases pair? line <;> rfl
    rw [hrest, ← readLine_eq, ← ih (m.readLine line).2 (number + 1), readLines]
    dsimp only
    cases (m.readLine line).1 <;> rfl

theorem read_eq_insertAll (text : String) : (read text).1 = insertAll {} ((Text.lines text.toList).filterMap pair?) :=
  readLines_eq _ _ _

/-! ## What every map satisfies -/

/-- Each half of the map is the other one read backwards, and all that is in it is in order. -/
structure Regular (m : PrincipalMap) : Prop where
  mirror : m.byType = m.byName.map Prod.swap
  names : (m.byName.map (·.1)).Nodup
  types : (m.byType.map (·.1)).Nodup
  kept : ∀ pair ∈ m.byName, IsKeptName pair.1 ∧ folded pair.1 = pair.1
  real : ∀ pair ∈ m.byName, pair.2.code ≠ 0

theorem Regular.empty : Regular {} := ⟨rfl, List.nodup_nil, List.nodup_nil, by simp, by simp⟩

/-- A new key keeps the keys distinct. -/
theorem nodup_keys_concat {κ α : Type} [BEq κ] [LawfulBEq κ] {l : List (κ × α)} {k : κ} {a : α}
    (hl : (l.map (·.1)).Nodup) (hk : l.lookup k = none) : ((l ++ [(k, a)]).map (·.1)).Nodup := by
  rw [List.map_append, List.nodup_append]
  refine ⟨hl, List.nodup_singleton _, ?_⟩
  rintro _ hmem _ hk' rfl
  obtain ⟨pair, hpair, rfl⟩ := List.mem_map.1 hmem
  have hne := List.lookup_eq_none_iff.1 hk pair hpair
  simp_all

theorem Regular.attempt (h : m.Regular) (pair : String × XidType) : (m.attempt pair).Regular := by
  unfold PrincipalMap.attempt
  obtain ⟨ha, hi⟩ | ⟨-, e, he⟩ := m.insert_cases pair.1 pair.2
  · rw [hi]
    refine ⟨?_, nodup_keys_concat h.names ha.freeName, nodup_keys_concat h.types ha.freeType, ?_, ?_⟩
    · rw [List.map_append, ← h.mirror]
      rfl
    · rw [List.forall_mem_append]
      refine ⟨h.kept, ?_⟩
      simpa using ⟨isKeptName_folded ha.goodName, folded_folded pair.1⟩
    · rw [List.forall_mem_append]
      refine ⟨h.real, ?_⟩
      simpa using ha.realType
  · rw [he]
    exact h

theorem Regular.insertAll (h : m.Regular) (pairs : List (String × XidType)) : (m.insertAll pairs).Regular := by
  induction pairs generalizing m with
  | nil => exact h
  | cons pair pairs ih => exact ih (h.attempt pair)

theorem Regular.read (text : String) : (PrincipalMap.read text).1.Regular := by
  rw [read_eq_insertAll]
  exact Regular.empty.insertAll _

/-! ## Names and types found from each other -/

theorem lookup_eq_some_iff_mem {κ α : Type} [BEq κ] [LawfulBEq κ] {l : List (κ × α)} {k : κ} {a : α}
    (hl : (l.map (·.1)).Nodup) : l.lookup k = some a ↔ (k, a) ∈ l := by
  rw [List.lookup_eq_some_iff]
  constructor
  · rintro ⟨before, after, rfl, -⟩
    exact List.mem_append_right _ List.mem_cons_self
  · intro hmem
    obtain ⟨before, after, rfl⟩ := List.append_of_mem hmem
    refine ⟨before, after, rfl, fun pair hpair => ?_⟩
    rw [List.map_append, List.map_cons, List.nodup_append] at hl
    rw [bne_iff_ne]
    exact (hl.2.2 _ (List.mem_map_of_mem hpair) _ List.mem_cons_self).symm

/-- The keys that are found are as many as there are entries. -/
theorem ncard_lookup {κ α : Type} [BEq κ] [LawfulBEq κ] {l : List (κ × α)} (hl : (l.map (·.1)).Nodup) :
    {k | (l.lookup k).isSome}.ncard = l.length := by
  classical
  have hset : {k | (l.lookup k).isSome} = ((l.map (·.1)).toFinset : Set κ) := by
    ext k
    rw [Set.mem_ofPred_eq, List.lookup_isSome_iff, List.coe_toFinset, Set.mem_ofPred_eq, List.mem_map]
    exact exists_congr fun pair => and_congr_right fun _ => beq_iff_eq.trans eq_comm
  rw [hset, Set.ncard_coe_finset, List.toFinset_card_of_nodup hl, List.length_map]

/-- Names and types belong to each other one to one, and names are found in any case. -/
structure OneToOne (m : PrincipalMap) : Prop where
  /-- What the types lead to leads back to them, and the other way round. -/
  inverse : ∀ name type, m.byName.lookup name = some type ↔ m.byType.lookup type = some name
  /-- As many names as types lead somewhere. -/
  names : {name | (m.byName.lookup name).isSome}.ncard = m.size
  types : {type | (m.byType.lookup type).isSome}.ncard = m.size
  kept : ∀ name type, m.nameOf? type = some name → IsKeptName name
  real : ∀ name type, m.nameOf? type = some name → type.code ≠ 0
  anyCase : ∀ name name', SameButCase name name' → m.typeOf? name = m.typeOf? name'
  found : ∀ name type, m.typeOf? name = some type ↔ ∃ kept, m.nameOf? type = some kept ∧ SameButCase name kept

theorem Regular.lookup_iff (h : m.Regular) : m.byName.lookup name = some type ↔ m.byType.lookup type = some name := by
  rw [lookup_eq_some_iff_mem h.names, lookup_eq_some_iff_mem h.types, h.mirror, List.mem_map]
  constructor
  · intro hmem
    exact ⟨_, hmem, rfl⟩
  · rintro ⟨pair, hmem, hswap⟩
    rw [← pair.swap_swap, hswap] at hmem
    exact hmem

theorem Regular.oneToOne (h : m.Regular) : m.OneToOne := by
  have hfound : ∀ {name type}, m.nameOf? type = some name → (name, type) ∈ m.byName := fun hn =>
    (lookup_eq_some_iff_mem h.names).1 (h.lookup_iff.2 hn)
  refine ⟨fun _ _ => h.lookup_iff, ncard_lookup h.names, ?_, fun _ _ hn => (h.kept _ (hfound hn)).1,
    fun _ _ hn => h.real _ (hfound hn), fun _ _ hs => ?_, fun name type => ?_⟩
  · rw [ncard_lookup h.types, h.mirror, List.length_map, size]
  · rw [typeOf?, folded_eq_iff.2 hs, typeOf?]
  · rw [typeOf?, h.lookup_iff, ← nameOf?]
    constructor
    · intro hn
      exact ⟨_, hn, folded_eq_iff.1 (folded_folded name).symm⟩
    · rintro ⟨kept, hn, hsame⟩
      rw [folded_eq_iff.2 hsame, (h.kept _ (hfound hn)).2, hn]

/-- A name in some case, or a type, leads somewhere. -/
def Taken (m : PrincipalMap) (name : String) (type : XidType) : Prop :=
  (∃ type' kept, m.nameOf? type' = some kept ∧ SameButCase name kept) ∨ ∃ kept, m.nameOf? type = some kept

theorem Regular.taken_iff (h : m.Regular) :
    m.Taken name type ↔ ¬(m.byName.lookup (folded name) = none ∧ m.byType.lookup type = none) := by
  have hname : (∃ type' kept, m.nameOf? type' = some kept ∧ SameButCase name kept) ↔
      m.byName.lookup (folded name) ≠ none := by
    rw [Option.ne_none_iff_exists']
    exact exists_congr fun type' => (h.oneToOne.found name type').symm
  rw [Taken, hname, ← Option.ne_none_iff_exists', nameOf?, not_and_or]

/-- How a map answers insertions. -/
structure Guarded (m : PrincipalMap) : Prop where
  refuses : ∀ name type, (∃ e, (m.insert name type).1 = .error e) ↔
    ¬IsPrincipalName name ∨ type.code = 0 ∨ m.Taken name type
  unchanged : ∀ name type e, (m.insert name type).1 = .error e → (m.insert name type).2 = m
  added : ∀ name type, (m.insert name type).1 = .ok () →
    (m.insert name type).2.nameOf? = Function.update m.nameOf? type (some (folded name))

theorem Regular.accepts_iff (h : m.Regular) :
    m.Accepts name type ↔ ¬(¬IsPrincipalName name ∨ type.code = 0 ∨ m.Taken name type) := by
  rw [h.taken_iff]
  constructor
  · intro ha
    rw [not_or, not_or, not_not, not_not]
    exact ⟨ha.goodName, ha.realType, ha.freeName, ha.freeType⟩
  · intro hn
    rw [not_or, not_or, not_not, not_not] at hn
    exact ⟨hn.1, hn.2.1, hn.2.2.1, hn.2.2.2⟩

theorem Regular.guarded (h : m.Regular) : m.Guarded := by
  constructor
  · intro name type
    have hacc : m.Accepts name type ↔ _ := h.accepts_iff
    obtain ⟨ha, hi⟩ | ⟨hno, e, he⟩ := m.insert_cases name type
    · rw [hi]
      exact iff_of_false (by simp) (hacc.1 ha)
    · rw [he]
      exact iff_of_true ⟨e, rfl⟩ (not_not.1 fun hc => hno (hacc.2 hc))
  · intro name type e he
    obtain ⟨-, hi⟩ | ⟨-, e', he'⟩ := m.insert_cases name type
    · rw [hi] at he
      cases he
    · rw [he']
  · intro name type hok
    obtain ⟨ha, hi⟩ | ⟨-, e', he'⟩ := m.insert_cases name type
    · rw [hi]
      funext t
      rw [Function.update_apply, nameOf?, nameOf?, List.lookup_append]
      by_cases ht : t = type
      · rw [if_pos ht, ht, ha.freeType]
        simp
      · rw [if_neg ht]
        simp [List.lookup_cons, beq_false_of_ne ht]
    · rw [he'] at hok
      cases hok

theorem resolve_eq_ok_iff : m.resolve name = .ok type ↔ m.typeOf? name = some type := by
  unfold resolve
  split <;> simp_all

/-- One type cannot have two names. -/
theorem Regular.resolve (h : m.Regular) {types : PrincipalTypes} (hr : PrincipalTypes.resolve m = .ok types) :
    types.ad ≠ types.ether ∧ types.ad.code ≠ 0 ∧ types.ether.code ≠ 0 := by
  have hfound : m.typeOf? "ad" = some types.ad ∧ m.typeOf? "ether" = some types.ether := by
    unfold PrincipalTypes.resolve at hr
    cases had : m.resolve "ad" with
    | error e => rw [had] at hr; cases hr
    | ok ad =>
      cases hether : m.resolve "ether" with
      | error e => rw [had, hether] at hr; cases hr
      | ok ether =>
        rw [had, hether] at hr
        cases hr
        exact ⟨resolve_eq_ok_iff.1 had, resolve_eq_ok_iff.1 hether⟩
  have hone := h.oneToOne
  obtain ⟨ad, had, hsame⟩ := (hone.found _ _).1 hfound.1
  obtain ⟨ether, hether, hsame'⟩ := (hone.found _ _).1 hfound.2
  refine ⟨fun heq => ?_, hone.real _ _ had, hone.real _ _ hether⟩
  rw [heq, hether] at had
  have hfolded : folded "ad" = folded "ether" := by
    rw [folded_eq_iff.2 hsame, folded_eq_iff.2 hsame', Option.some.inj had]
  exact absurd hfolded (by decide)

/-- After any text and any insertions, names and types belong to each other one to one, each further insertion adds its
pair or changes nothing, and the two types of a daemon, where they are found, are different and real. -/
theorem insertAll_one_to_one (text : String) (pairs : List (String × XidType)) :
    let m := insertAll (read text).1 pairs
    m.OneToOne ∧ m.Guarded ∧
      ∀ types, PrincipalTypes.resolve m = .ok types →
        types.ad ≠ types.ether ∧ types.ad.code ≠ 0 ∧ types.ether.code ≠ 0 := by
  intro m
  have h : m.Regular := (Regular.read text).insertAll pairs
  exact ⟨h.oneToOne, h.guarded, fun _ hr => h.resolve hr⟩

/-- A text whose last line repeats a name, and insertions of which only the last one is accepted. -/
theorem insertAll_one_to_one_of_four :
    let m := insertAll (read "ad 0x10\nSid 18 # services\nether 19\nAD 32\n").1
      [("SID", ⟨5⟩), ("hid", ⟨0⟩), ("Hid", ⟨17⟩)]
    m.nameOf? ⟨18⟩ = some "sid" ∧ m.typeOf? "sID" = some ⟨18⟩ ∧
      m.attempt ("ETHER", ⟨20⟩) = m ∧ {name | (m.byName.lookup name).isSome}.ncard = 4 ∧
      (⟨0x10⟩ : XidType) ≠ ⟨19⟩ := by
  intro m
  obtain ⟨hone, hguard, htypes⟩ := insertAll_one_to_one "ad 0x10\nSid 18 # services\nether 19\nAD 32\n"
    [("SID", ⟨5⟩), ("hid", ⟨0⟩), ("Hid", ⟨17⟩)]
  have hsid : m.byName.lookup "sid" = some ⟨18⟩ := by decide +kernel +revert
  have hname : m.nameOf? ⟨18⟩ = some "sid" := (hone.inverse _ _).1 hsid
  have hcase : folded "sID" = folded "sid" := by decide +kernel
  have htaken : (m.insert "ETHER" ⟨20⟩).1 = .error (.duplicated "ether" ⟨20⟩) := by decide +kernel +revert
  have hresolve : PrincipalTypes.resolve m = .ok ⟨⟨0x10⟩, ⟨19⟩⟩ := by decide +kernel +revert
  have hsize : m.size = 4 := by decide +kernel +revert
  refine ⟨hname, (hone.found _ _).2 ⟨_, hname, folded_eq_iff.1 hcase⟩, hguard.unchanged _ _ _ htaken,
    hone.names.trans hsize, (htypes _ hresolve).1⟩

end PrincipalMap

end Neighborhood
