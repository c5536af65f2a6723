-- SUMMARY: A table of names holds each name once, in order of first appearance.
import BlockLang.NameTable
import Mathlib.Data.List.Basic

namespace BlockLang.NameTable

/-!
# Names

Interning a text that is found changes nothing. One that is not found is entered twice, in the
dictionary under its number and in the list of names behind the others, so that each of the two
stays the inverse of the other (`Inverse`). However texts are interned one after the other, names
and numbers belong together one to one: `interned_internAll`.
-/

/-- A number is found for a text exactly if the text is read back from it. -/
def Inverse (t : NameTable) : Prop :=
  ∀ text id, t.find? text = some id ↔ t.name? id = some text

theorem intern_of_find? {t : NameTable} {text : String} {id : NameId} (h : t.find? text = some id) :
    t.intern text = (id, t) := by
  simp [intern, h]

theorem intern_of_unknown {t : NameTable} {text : String} (h : t.find? text = none) :
    t.intern text = (⟨t.size⟩, t.add text) := by
  simp [intern, h]

/-- The numbers in use are those below the size. -/
theorem exists_name?_iff {t : NameTable} {id : NameId} :
    (∃ name, t.name? id = some name) ↔ id.index < t.size := by
  simp [name?, size, ← Option.isSome_iff_exists]

theorem inverse_empty : ({} : NameTable).Inverse := by
  intro text id
  simp [find?, name?]

theorem inverse_add {t : NameTable} (h : t.Inverse) {text : String} (hnew : t.find? text = none) :
    (t.add text).Inverse := by
  intro other id
  rw [find?_add, name?_add]
  have hnext : id.index = t.size → t.name? id ≠ some other := by
    intro hid hname
    exact Nat.ne_of_lt (exists_name?_iff.1 ⟨other, hname⟩) hid
  by_cases hother : other = text
  · subst hother
    rw [if_pos rfl]
    by_cases hid : id.index = t.size
    · rw [if_pos hid, ← hid]
      exact iff_of_true rfl rfl
    · -- The text is new, so no number before stands for it.
      rw [if_neg hid, ← h, hnew]
      refine iff_of_false ?_ nofun
      rintro ⟨⟩
      exact hid rfl
  · rw [if_neg hother, h]
    by_cases hid : id.index = t.size
    · rw [if_pos hid]
      exact iff_of_false (hnext hid) fun htext => hother (Option.some.inj htext).symm
    · rw [if_neg hid]

theorem inverse_intern {t : NameTable} (h : t.Inverse) (text : String) :
    (t.intern text).2.Inverse := by
  cases hfind : t.find? text with
  | some id => rwa [intern_of_find? hfind]
  | none =>
    rw [intern_of_unknown hfind]
    exact inverse_add h hfind

/-! ## Finding and reading back -/

theorem mem_of_name? {t : NameTable} {id : NameId} {name : String} (h : t.name? id = some name) :
    name ∈ t.names.toList := by
  rw [name?, ← Array.getElem?_toList] at h
  exact List.mem_of_getElem? h

theorem name?_idxOf {t : NameTable} {text : String} (h : text ∈ t.names.toList) :
    t.name? ⟨t.names.toList.idxOf text⟩ = some text := by
  rw [name?, ← Array.getElem?_toList]
  exact List.getElem?_idxOf h

namespace Inverse

variable {t : NameTable}

theorem eq_of_name? (h : t.Inverse) {i j : NameId} {name : String} (hi : t.name? i = some name)
    (hj : t.name? j = some name) : i = j :=
  Option.some.inj (((h name i).2 hi).symm.trans ((h name j).2 hj))

theorem find?_of_mem (h : t.Inverse) {text : String} (hmem : text ∈ t.names.toList) :
    t.find? text = some ⟨t.names.toList.idxOf text⟩ :=
  (h _ _).2 (name?_idxOf hmem)

theorem find?_eq_none_iff (h : t.Inverse) {text : String} :
    t.find? text = none ↔ text ∉ t.names.toList := by
  constructor
  · intro hnone hmem
    simp [h.find?_of_mem hmem] at hnone
  · intro hnot
    rw [Option.eq_none_iff_forall_ne_some]
    intro id hfind
    exact hnot (mem_of_name? ((h _ _).1 hfind))

end Inverse

theorem find?_intern (t : NameTable) (text : String) :
    (t.intern text).2.find? text = some (t.intern text).1 := by
  cases hfind : t.find? text with
  | some id => rw [intern_of_find? hfind, hfind]
  | none => rw [intern_of_unknown hfind, find?_add, if_pos rfl]

/-- Interning a text again gives the same number and adds nothing. -/
theorem intern_intern (t : NameTable) (text : String) :
    (t.intern text).2.intern text = t.intern text :=
  intern_of_find? (t.find?_intern text)

/-- A name has the same number ever after. -/
theorem find?_intern_of_find? {t : NameTable} {name : String} {id : NameId}
    (h : t.find? name = some id) (text : String) : (t.intern text).2.find? name = some id := by
  cases hfind : t.find? text with
  | some other => rwa [intern_of_find? hfind]
  | none =>
    have hne : name ≠ text := by
      rintro rfl
      cases h.symm.trans hfind
    rwa [intern_of_unknown hfind, find?_add, if_neg hne]

theorem names_prefix_intern (t : NameTable) (text : String) :
    t.names.toList <+: (t.intern text).2.names.toList := by
  cases hfind : t.find? text with
  | some id => simp [intern_of_find? hfind]
  | none => simp [intern_of_unknown hfind, add]

/-- A number stands for the same name ever after. -/
theorem name?_of_prefix {t t' : NameTable} (h : t.names.toList <+: t'.names.toList) {id : NameId}
    {name : String} (hname : t.name? id = some name) : t'.name? id = some name := by
  rw [name?, ← Array.getElem?_toList] at hname ⊢
  obtain ⟨hlt, rfl⟩ := List.getElem?_eq_some_iff.1 hname
  exact List.prefix_iff_getElem?.1 h _ hlt

/-! ## The list of names -/

section Inverse

variable {t : NameTable}

theorem toList_intern (h : t.Inverse) (text : String) :
    (t.intern text).2.names.toList =
      if text ∈ t.names.toList then t.names.toList else t.names.toList ++ [text] := by
  by_cases hmem : text ∈ t.names.toList
  · rw [if_pos hmem, intern_of_find? (h.find?_of_mem hmem)]
  · rw [if_neg hmem, intern_of_unknown (h.find?_eq_none_iff.2 hmem), add, Array.toList_push]

theorem name?_intern (h : t.Inverse) (text : String) :
    (t.intern text).2.name? (t.intern text).1 = some text :=
  (inverse_intern h text _ _).1 (t.find?_intern text)

theorem mem_intern (h : t.Inverse) (text : String) : text ∈ (t.intern text).2.names.toList :=
  mem_of_name? (name?_intern h text)

/-- The number of a text is its position among the names. -/
theorem index_intern (h : t.Inverse) (text : String) :
    (t.intern text).1.index = (t.intern text).2.names.toList.idxOf text := by
  have hfound := (inverse_intern h text).find?_of_mem (mem_intern h text)
  rw [find?_intern] at hfound
  exact congrArg NameId.index (Option.some.inj hfound)

/-- A name that is there keeps its position. -/
theorem idxOf_intern (h : t.Inverse) {name : String} (hmem : name ∈ t.names.toList)
    (text : String) :
    (t.intern text).2.names.toList.idxOf name = t.names.toList.idxOf name := by
  rw [toList_intern h]
  split
  · rfl
  · exact List.idxOf_append_of_mem hmem

/-- Texts that are interned one after the other are kept in order of first appearance. -/
theorem toList_intern_of_eraseDups (h : t.Inverse) {texts : List String}
    (hnames : t.names.toList = texts.eraseDups) (text : String) :
    (t.intern text).2.names.toList = (texts ++ [text]).eraseDups := by
  rw [toList_intern h, List.eraseDups_append, hnames]
  by_cases hmem : text ∈ texts
  · simp [hmem, List.removeAll]
  · simp [hmem, List.removeAll, List.eraseDups_cons]

end Inverse

/-! ## Many texts -/

/-- Intern texts one after the other, and give the number of each. -/
def internAll (t : NameTable) : List String → List NameId × NameTable
  | [] => ([], t)
  | text :: texts =>
    let (id, t) := t.intern text
    let (ids, t) := t.internAll texts
    (id :: ids, t)

theorem inverse_internAll {t : NameTable} (h : t.Inverse) (texts : List String) :
    (t.internAll texts).2.Inverse := by
  induction texts generalizing t with
  | nil => exact h
  | cons text texts ih => exact ih (inverse_intern h text)

theorem toList_internAll {t : NameTable} (h : t.Inverse) {before : List String}
    (hnames : t.names.toList = before.eraseDups) (texts : List String) :
    (t.internAll texts).2.names.toList = (before ++ texts).eraseDups := by
  induction texts generalizing t before with
  | nil => rw [internAll, List.append_nil, hnames]
  | cons text texts ih =>
    have htexts := ih (inverse_intern h text) (toList_intern_of_eraseDups h hnames text)
    simpa [internAll] using htexts

theorem find?_internAll_of_find? {t : NameTable} {name : String} {id : NameId}
    (h : t.find? name = some id) (texts : List String) :
    (t.internAll texts).2.find? name = some id := by
  induction texts generalizing t with
  | nil => exact h
  | cons text texts ih => exact ih (find?_intern_of_find? h text)

/-- Each text is found in the end under the number that it was given. -/
theorem map_find?_internAll (t : NameTable) (texts : List String) :
    texts.map (t.internAll texts).2.find? = (t.internAll texts).1.map some := by
  induction texts generalizing t with
  | nil => rfl
  | cons text texts ih =>
    have hfirst := find?_internAll_of_find? (t.find?_intern text) texts
    simp [internAll, hfirst, ih]

theorem getElem?_of_map_find? {t : NameTable} {texts : List String} {ids : List NameId}
    (h : texts.map t.find? = ids.map some) {i : Nat} {text : String}
    (htext : texts[i]? = some text) : ids[i]? = t.find? text := by
  have hi := congrArg (·[i]?) h
  simp only [List.getElem?_map, htext, Option.map_some] at hi
  cases hid : ids[i]? with
  | none => simp [hid] at hi
  | some id => simpa [hid] using hi.symm

theorem mem_iff_of_map_find? {t : NameTable} {texts : List String} {ids : List NameId}
    (h : texts.map t.find? = ids.map some) {id : NameId} :
    id ∈ ids ↔ ∃ text ∈ texts, t.find? text = some id := by
  have hsome : some id ∈ texts.map t.find? ↔ some id ∈ ids.map some := by rw [h]
  simpa [List.mem_map] using hsome.symm

/-- What has become of `texts` that were interned in an empty table one after the other: each was
given its number in `ids`, and `t` is the table in the end. -/
structure Interned (texts : List String) (ids : List NameId) (t : NameTable) : Prop where
  /-- The names are the different texts, in order of first appearance. -/
  names_eq : t.names.toList = texts.eraseDups
  size_eq : t.size = texts.eraseDups.length
  /-- Finding a number for a text and reading a text back from a number are inverse. -/
  find?_iff : ∀ text id, t.find? text = some id ↔ t.name? id = some text
  unknown_iff : ∀ text, t.find? text = none ↔ text ∉ texts
  /-- The number that a text is found under is the one that it was given. -/
  answers : texts.map t.find? = ids.map some
  /-- A text that comes again is given the number that it was given first. -/
  first : ∀ (i : Nat) (text : String), texts[i]? = some text → ids[i]? = ids[texts.idxOf text]?
  /-- Interning one of the texts once more gives its first number, and adds nothing. -/
  again : ∀ text ∈ texts, ∃ id, ids[texts.idxOf text]? = some id ∧ t.intern text = (id, t)
  idempotent : ∀ text, (t.intern text).2.intern text = t.intern text
  /-- Whatever is interned next, the numbers given before stand for the same names. -/
  kept : ∀ text name id, t.find? name = some id →
    (t.intern text).2.find? name = some id ∧ (t.intern text).2.name? id = some name
  /-- The numbers given are those below the size. -/
  mem_iff : ∀ id, id ∈ ids ↔ id.index < t.size
  different : ∀ text text' id, t.find? text = some id → t.find? text' = some id → text = text'

/-- However texts are interned in an empty table, names and numbers belong together one to one. -/
theorem interned_internAll (texts : List String) :
    Interned texts (internAll {} texts).1 (internAll {} texts).2 := by
  have hinverse := inverse_internAll inverse_empty texts
  have hnames := @toList_internAll {} inverse_empty [] rfl texts
  have hanswers := map_find?_internAll {} texts
  rw [List.nil_append] at hnames
  generalize (internAll {} texts).1 = ids at hanswers ⊢
  generalize (internAll {} texts).2 = t at hinverse hnames hanswers ⊢
  have hmem : ∀ text, text ∈ t.names.toList ↔ text ∈ texts := by
    rw [hnames]
    exact fun _ => List.mem_eraseDups
  have hfirst : ∀ text ∈ texts, ids[texts.idxOf text]? = t.find? text :=
    fun text htext => getElem?_of_map_find? hanswers (List.getElem?_idxOf htext)
  constructor
  case names_eq => exact hnames
  case size_eq => simpa [size] using congrArg List.length hnames
  case find?_iff => exact hinverse
  case unknown_iff => exact fun text => hinverse.find?_eq_none_iff.trans (not_congr (hmem text))
  case answers => exact hanswers
  case first =>
    intro i text htext
    rw [getElem?_of_map_find? hanswers htext, hfirst text (List.mem_of_getElem? htext)]
  case again =>
    intro text htext
    have hfound := hinverse.find?_of_mem ((hmem text).2 htext)
    exact ⟨_, (hfirst text htext).trans hfound, intern_of_find? hfound⟩
  case idempotent => exact t.intern_intern
  case kept =>
    intro text name id hfound
    exact ⟨find?_intern_of_find? hfound text,
      name?_of_prefix (t.names_prefix_intern text) ((hinverse _ _).1 hfound)⟩
  case mem_iff =>
    intro id
    rw [mem_iff_of_map_find? hanswers, ← exists_name?_iff]
    constructor
    · rintro ⟨text, -, hfound⟩
      exact ⟨text, (hinverse _ _).1 hfound⟩
    · rintro ⟨text, hname⟩
      exact ⟨text, (hmem text).1 (mem_of_name? hname), (hinverse _ _).2 hname⟩
  case different =>
    intro text text' id htext htext'
    have hname := (hinverse _ _).1 htext
    exact Option.some.inj (hname.symm.trans ((hinverse _ _).1 htext'))

end BlockLang.NameTable
