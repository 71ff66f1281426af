import Mathlib.Data.List.Forall2
import StreamTransport.Settings.Form

/-!
# The order of fields

A record is known by what its names stand for. Two documents that differ in the
order of fields, at any depth, are read as the same settings. Reading uses no
more of a record than look-ups by name, except where a record of a single field
stands for a word.
-/

set_option autoImplicit false

namespace StreamTransport

open Document

namespace Document

/-- The same up to the order of fields. -/
inductive Reordered : Document → Document → Prop
  | same (d : Document) : Reordered d d
  | list {xs ys : List Document} (items : List.Forall₂ Reordered xs ys) :
      Reordered (list xs) (list ys)
  | record {fs gs : List (String × Document)}
      (names : (fs.map Prod.fst).Perm (gs.map Prod.fst))
      (values : ∀ name x y, (name, x) ∈ fs → (name, y) ∈ gs → Reordered x y) :
      Reordered (record fs) (record gs)

/-- Every name stands for the same in both, or for nothing in both. -/
def Agree (fs gs : List (String × Document)) : Prop :=
  ∀ name, Option.Rel Reordered (field? name fs) (field? name gs)

/-- The order of fields makes no difference to a reader. -/
def Indifferent {α : Type} (read : Document → Option α) : Prop :=
  ∀ d e, Reordered d e → read d = read e

theorem agree_self (fs : List (String × Document)) : Agree fs fs := by
  intro name
  cases field? name fs with
  | none => exact .none
  | some d => exact .some (.same d)

theorem mem_of_field? {fs : List (String × Document)} {name : String} {d : Document}
    (h : field? name fs = some d) : (name, d) ∈ fs := by
  obtain ⟨before, after, rfl, -⟩ := List.lookup_eq_some_iff.mp h
  simp

theorem field?_eq_none_iff {fs : List (String × Document)} {name : String} :
    field? name fs = none ↔ name ∉ fs.map Prod.fst := by
  rw [field?, List.lookup_eq_none_iff, List.mem_map]
  constructor
  · rintro other ⟨field, member, rfl⟩
    simpa using other field member
  · intro absent field member
    have other : name ≠ field.1 := fun same => absent ⟨field, member, same.symm⟩
    simpa using other

theorem agree_record {fs gs : List (String × Document)}
    (names : (fs.map Prod.fst).Perm (gs.map Prod.fst))
    (values : ∀ name x y, (name, x) ∈ fs → (name, y) ∈ gs → Reordered x y) : Agree fs gs := by
  intro name
  have both : field? name fs = none ↔ field? name gs = none := by
    rw [field?_eq_none_iff, field?_eq_none_iff, names.mem_iff]
  cases left : field? name fs with
  | none =>
    rw [both.mp left]
    exact .none
  | some x =>
    cases right : field? name gs with
    | none =>
      rw [both.mpr right] at left
      contradiction
    | some y => exact .some (values name x y (mem_of_field? left) (mem_of_field? right))

theorem agree_zip (names : List String) {xs ys : List Document}
    (items : List.Forall₂ Reordered xs ys) : Agree (names.zip xs) (names.zip ys) := by
  induction items generalizing names with
  | nil => exact agree_self _
  | @cons x y xs ys first rest ih =>
    cases names with
    | nil => exact agree_self _
    | cons key names =>
      intro name
      have behind := ih names name
      simp only [field?, List.zip_cons_cons, List.lookup_cons] at behind ⊢
      cases name == key with
      | true => exact .some first
      | false => exact behind

theorem once_perm {names : List String} {fs gs : List (String × Document)}
    (same : (fs.map Prod.fst).Perm (gs.map Prod.fst)) : Once names fs ↔ Once names gs := by
  simp only [Once, same.count_eq]

/-- Documents that differ in order spell the same fields, or none. -/
theorem fields?_reordered (names : List String) {d e : Document} (h : Reordered d e) :
    Option.Rel Agree (d.fields? names) (e.fields? names) := by
  cases h with
  | same =>
    cases d.fields? names with
    | none => exact .none
    | some fs => exact .some (agree_self fs)
  | list items =>
    simp only [fields?, items.length_eq]
    split
    · exact .some (agree_zip names items)
    · exact .none
  | record same values =>
    simp only [fields?, once_perm same]
    split
    · exact .some (agree_record same values)
    · exact .none

theorem readField_agree {α : Type} {fs gs : List (String × Document)} (h : Agree fs gs)
    (name : String) {read : Document → Option α} (indifferent : Indifferent read) (absent : α) :
    readField fs name read absent = readField gs name read absent := by
  have found := h name
  unfold readField
  generalize field? name fs = left, field? name gs = right at found
  cases found with
  | none => rfl
  | some values => exact indifferent _ _ values

theorem bind_field?_agree {α : Type} {fs gs : List (String × Document)} (h : Agree fs gs)
    (name : String) {read : Document → Option α} (indifferent : Indifferent read) :
    (field? name fs).bind read = (field? name gs).bind read := by
  have found := h name
  generalize field? name fs = left, field? name gs = right at found
  cases found with
  | none => rfl
  | some values => exact indifferent _ _ values

/-- A structure is read by name, so it is enough that the names agree. -/
theorem indifferent_of_agree {α : Type} (names : List String)
    {readFields : List (String × Document) → Option α}
    (agree : ∀ fs gs, Agree fs gs → readFields fs = readFields gs) :
    Indifferent fun d => (d.fields? names).bind readFields := by
  intro d e h
  have spelled := fields?_reordered names h
  beta_reduce
  generalize d.fields? names = left, e.fields? names = right at spelled
  cases spelled with
  | none => rfl
  | some same => exact agree _ _ same

theorem indifferent_readFlag : Indifferent readFlag := by
  intro d e h
  cases h <;> rfl

theorem indifferent_readText : Indifferent readText := by
  intro d e h
  cases h <;> rfl

theorem indifferent_readWord : Indifferent readWord := by
  intro d e h
  cases h <;> rfl

theorem indifferent_readPort : Indifferent readPort := by
  intro d e h
  cases h <;> rfl

theorem indifferent_readOptional {α : Type} {read : Document → Option α}
    (indifferent : Indifferent read) : Indifferent (readOptional read) := by
  intro d e h
  have inner := indifferent d e h
  cases h with
  | same => rfl
  | list => exact congrArg (Option.map some) inner
  | record => exact congrArg (Option.map some) inner

theorem indifferent_readList {α : Type} {read : Document → Option α}
    (indifferent : Indifferent read) : Indifferent (readList read) := by
  intro d e h
  cases h with
  | same => rfl
  | record => rfl
  | list items =>
    simp only [readList]
    induction items with
    | nil => rfl
    | cons first rest ih => rw [List.mapM_cons, List.mapM_cons, indifferent _ _ first, ih]

end Document

theorem KeepAlive.indifferent_read : Indifferent KeepAlive.read := by
  apply indifferent_of_agree KeepAlive.fieldNames
  intro fs gs agree
  simp only [readField_agree agree _ indifferent_readFlag,
    readField_agree agree _ indifferent_readWord]

theorem Alternate.indifferent_read : Indifferent Alternate.read := by
  apply indifferent_of_agree Alternate.fieldNames
  intro fs gs agree
  simp only [bind_field?_agree agree _ indifferent_readText,
    readField_agree agree _ (indifferent_readOptional indifferent_readPort)]

/-- A record that stands for a word has one field. -/
theorem IpVersion.read_of_two (first second : String × Document)
    (rest : List (String × Document)) : read (record (first :: second :: rest)) = none := by
  rcases first with ⟨word, d⟩
  cases d <;> rfl

theorem IpVersion.indifferent_read : Indifferent IpVersion.read := by
  intro d e h
  cases h with
  | same => rfl
  | list => rfl
  | @record fs gs names values =>
    have length : fs.length = gs.length := by simpa using names.length_eq
    -- one field can stand in one order only, and more than one is refused
    match fs, gs, length with
    | [], [], _ => rfl
    | [(s, v)], [(t, w)], _ =>
      obtain rfl : s = t := by simpa using names
      cases values s v w (by simp) (by simp) <;> rfl
    | _ :: _ :: _, _ :: _ :: _, _ => rw [read_of_two, read_of_two]

theorem Settings.indifferent_read : Indifferent Settings.read := by
  apply indifferent_of_agree Settings.fieldNames
  intro fs gs agree
  simp only [readField_agree agree _ indifferent_readFlag,
    readField_agree agree _ indifferent_readWord,
    readField_agree agree _ KeepAlive.indifferent_read,
    readField_agree agree _ (indifferent_readOptional IpVersion.indifferent_read),
    readField_agree agree _ (indifferent_readList Alternate.indifferent_read)]

end StreamTransport
