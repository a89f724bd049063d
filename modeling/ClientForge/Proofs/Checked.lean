import ClientForge.Proofs.Entries
import ClientForge.Value.Check
import Mathlib.Data.List.Forall2

namespace ClientForge

namespace Checked

variable {α β : Type}

def IsValid (x : Checked α) : Prop :=
  ∃ value, x = .valid value

@[simp]
theorem isValid_valid (value : α) : IsValid (.valid value) :=
  ⟨value, rfl⟩

@[simp]
theorem not_isValid_issue (kind : IssueKind) : ¬IsValid (.issue kind : Checked α) :=
  nofun

theorem map_eq_valid {f : α → β} {x : Checked α} {b : β} : f <$> x = .valid b ↔ ∃ a, x = .valid a ∧ f a = b := by
  cases x with
  | valid a =>
    constructor
    · intro h
      exact ⟨a, rfl, valid.inj h⟩
    · rintro ⟨_, ha, rfl⟩
      cases ha
      rfl
  | invalid first others => exact ⟨nofun, nofun⟩

theorem seq_eq_valid {f : Checked (α → β)} {x : Checked α} {b : β} :
    f <*> x = .valid b ↔ ∃ g a, f = .valid g ∧ x = .valid a ∧ g a = b := by
  cases f with
  | valid g =>
    cases x with
    | valid a =>
      constructor
      · intro h
        exact ⟨g, a, rfl, rfl, valid.inj h⟩
      · rintro ⟨_, _, hg, ha, rfl⟩
        cases hg
        cases ha
        rfl
    | invalid first others => exact ⟨nofun, nofun⟩
  | invalid first others => exact ⟨nofun, nofun⟩

@[simp]
theorem within_eq_valid {place : Place} {x : Checked α} {a : α} : x.within place = .valid a ↔ x = .valid a := by
  cases x <;> simp [within]

@[simp]
theorem isValid_map {f : α → β} {x : Checked α} : (f <$> x).IsValid ↔ x.IsValid := by
  simp [IsValid, map_eq_valid]

@[simp]
theorem isValid_seq {f : Checked (α → β)} {x : Checked α} : (f <*> x).IsValid ↔ f.IsValid ∧ x.IsValid := by
  simp only [IsValid, seq_eq_valid]
  constructor
  · rintro ⟨_, g, a, hg, ha, -⟩
    exact ⟨⟨g, hg⟩, a, ha⟩
  · rintro ⟨⟨g, hg⟩, a, ha⟩
    exact ⟨g a, g, a, hg, ha, rfl⟩

@[simp]
theorem isValid_within {place : Place} {x : Checked α} : (x.within place).IsValid ↔ x.IsValid := by
  simp [IsValid]

theorem all_eq_valid {checks : List (Checked α)} {values : List α} :
    all checks = .valid values ↔ checks = values.map .valid := by
  induction checks generalizing values with
  | nil => cases values <;> simp [all]
  | cons x rest ih =>
    have hcons : all (x :: rest) = List.cons <$> x <*> all rest := rfl
    rw [hcons, seq_eq_valid]
    constructor
    · rintro ⟨_, others, hx, hrest, rfl⟩
      obtain ⟨value, rfl, rfl⟩ := map_eq_valid.mp hx
      rw [ih.mp hrest, List.map_cons]
    · intro h
      cases values with
      | nil => cases h
      | cons value others =>
        rw [List.map_cons, List.cons.injEq] at h
        exact ⟨_, others, map_eq_valid.mpr ⟨value, h.1, rfl⟩, ih.mpr h.2, rfl⟩

theorem isValid_all {checks : List (Checked α)} : (all checks).IsValid ↔ ∀ x ∈ checks, x.IsValid := by
  induction checks with
  | nil => simp [all]
  | cons x rest ih =>
    have hcons : all (x :: rest) = List.cons <$> x <*> all rest := rfl
    rw [hcons, isValid_seq, isValid_map, ih, List.forall_mem_cons]

theorem mapIdx_within_eq {γ : Type} {check : γ → Checked α} {place : Nat → Place} {items : List γ} {values : List α} :
    (items.mapIdx fun i item => (check item).within (place i)) = values.map .valid ↔
      List.Forall₂ (fun item a => check item = .valid a) items values := by
  induction items generalizing place values with
  | nil => cases values <;> simp
  | cons item rest ih =>
    cases values with
    | nil => simp
    | cons value others =>
      rw [List.mapIdx_cons, List.map_cons, List.cons.injEq, within_eq_valid, List.forall₂_cons, ih]

end Checked

namespace Entries

variable {α : Type} (entries : Entries α) (key : String) (p : α → Prop)

def Has : Prop :=
  ∃ value, get? entries key = some value ∧ p value

def Admits : Prop :=
  ∀ value, get? entries key = some value → p value

theorem admits_true : Admits entries key fun _ => True :=
  fun _ _ => trivial

end Entries

namespace Value

variable {α : Type} {check : Value → Checked α} {value : Value} {entries : Entries Value} {key : String}

def IsText (value : Value) : Prop :=
  ∃ s, value = .text s

def IsFlag : Value → Prop
  | .bool _ => True
  | .int n => n = 0 ∨ n = 1
  | .real x => x.isZero = true ∨ x = .finite false 1 0
  | .text s => s.map Char.toLower ∈ trueWords ++ falseWords
  | _ => False

def IsObject (p : Entries Value → Prop) (value : Value) : Prop :=
  ∃ entries, value = .object entries ∧ p entries

def IsList (p : List Value → Prop) (value : Value) : Prop :=
  ∃ items, value = .list items ∧ p items

def OrNull (p : Value → Prop) (value : Value) : Prop :=
  value = .null ∨ p value

theorem checkText_eq_valid {s : String} : checkText value = .valid s ↔ value = .text s := by
  cases value <;> simp [checkText, Checked.issue]

theorem isValid_checkText : (checkText value).IsValid ↔ value.IsText := by
  simp [Checked.IsValid, IsText, checkText_eq_valid]

theorem isValid_checkOptional : (checkOptional check value).IsValid ↔ value.OrNull fun value => (check value).IsValid := by
  cases value with
  | null => exact iff_of_true (Checked.isValid_valid none) (.inl rfl)
  | _ =>
    rw [OrNull, or_iff_right nofun]
    exact Checked.isValid_map

theorem isValid_checkBool : (checkBool value).IsValid ↔ value.IsFlag := by
  cases value with
  | bool b => simp [checkBool, IsFlag]
  | int n =>
    rw [checkBool, IsFlag]
    split_ifs <;> simp_all
  | real x =>
    rw [checkBool, IsFlag]
    split_ifs <;> simp_all
  | text s =>
    rw [checkBool, IsFlag, List.mem_append, ← List.contains_iff_mem, ← List.contains_iff_mem]
    split_ifs <;> simp_all
  | _ => simp [checkBool, IsFlag]

theorem checkList_eq_valid {values : List α} :
    checkList check value = .valid values ↔
      value.IsList fun items => List.Forall₂ (fun item a => check item = .valid a) items values := by
  cases value with
  | list items => simp [checkList, Checked.all_eq_valid, Checked.mapIdx_within_eq, IsList]
  | _ => exact iff_of_false (by rintro ⟨⟩) (by rintro ⟨_, ⟨⟩, _⟩)

theorem checkList_valid (items : List Value) : checkList .valid (.list items) = .valid items :=
  checkList_eq_valid.mpr ⟨items, rfl, List.forall₂_same.mpr fun _ _ => rfl⟩

theorem isValid_checkList :
    (checkList check value).IsValid ↔ value.IsList fun items => ∀ item ∈ items, (check item).IsValid := by
  cases value with
  | list items =>
    simp only [IsList, list.injEq, exists_eq_left', checkList, Checked.isValid_all]
    constructor
    · intro h item hitem
      obtain ⟨i, hi, rfl⟩ := List.getElem_of_mem hitem
      exact Checked.isValid_within.mp (h _ (List.mem_mapIdx.mpr ⟨i, hi, rfl⟩))
    · intro h x hx
      obtain ⟨i, hi, rfl⟩ := List.mem_mapIdx.mp hx
      exact Checked.isValid_within.mpr (h _ (List.getElem_mem hi))
  | _ => exact iff_of_false (by rintro ⟨_, ⟨⟩⟩) (by rintro ⟨_, ⟨⟩, _⟩)

theorem checkNonempty_eq_valid {first : α} {others : List α} :
    checkNonempty check value = .valid (first, others) ↔ checkList check value = .valid (first :: others) := by
  rw [checkNonempty]
  split <;> simp_all [Checked.issue]

theorem isValid_checkNonempty :
    (checkNonempty check value).IsValid ↔
      value.IsList fun items => items ≠ [] ∧ ∀ item ∈ items, (check item).IsValid := by
  have hvalid : (checkNonempty check value).IsValid ↔ ∃ first others, checkList check value = .valid (first :: others) := by
    simp only [Checked.IsValid, Prod.exists, checkNonempty_eq_valid]
  rw [hvalid]
  constructor
  · rintro ⟨first, others, h⟩
    obtain ⟨items, rfl, hall⟩ := isValid_checkList.mp ⟨_, h⟩
    obtain ⟨_, hitems, hforall⟩ := checkList_eq_valid.mp h
    cases hitems
    refine ⟨items, rfl, ?_, hall⟩
    rintro rfl
    cases hforall
  · rintro ⟨items, rfl, hne, hall⟩
    obtain ⟨values, h⟩ := isValid_checkList.mpr ⟨items, rfl, hall⟩
    obtain ⟨_, hitems, hforall⟩ := checkList_eq_valid.mp h
    cases hitems
    cases hforall with
    | nil => exact absurd rfl hne
    | cons _ _ => exact ⟨_, _, h⟩

theorem checkEntries_eq_valid {read : Entries α} :
    checkEntries check value = .valid read ↔
      value.IsObject fun entries => List.Forall₂ (fun p q => p.1 = q.1 ∧ check p.2 = .valid q.2) entries read := by
  cases value with
  | object entries =>
    simp only [IsObject, object.injEq, exists_eq_left', checkEntries, Checked.all_eq_valid]
    induction entries generalizing read with
    | nil => cases read <;> simp
    | cons p rest ih =>
      cases read with
      | nil => simp
      | cons q others =>
        rw [List.map_cons, List.map_cons, List.cons.injEq, List.forall₂_cons, ih, Checked.within_eq_valid]
        refine and_congr_left fun _ => Checked.map_eq_valid.trans ?_
        obtain ⟨key, a⟩ := q
        simp [and_comm]
  | _ => exact iff_of_false (by rintro ⟨⟩) (by rintro ⟨_, ⟨⟩, _⟩)

theorem isValid_checkEntries :
    (checkEntries check value).IsValid ↔ value.IsObject fun entries => ∀ p ∈ entries, (check p.2).IsValid := by
  cases value with
  | object entries =>
    simp only [IsObject, object.injEq, exists_eq_left', checkEntries, Checked.isValid_all, List.forall_mem_map,
      Checked.isValid_within]
    exact forall₂_congr fun _ _ => Checked.isValid_map
  | _ => exact iff_of_false (by rintro ⟨_, ⟨⟩⟩) (by rintro ⟨_, ⟨⟩, _⟩)

theorem checkModel_eq_valid {model : String} {read : Entries Value → Checked α} {a : α} :
    checkModel model read value = .valid a ↔ value.IsObject fun entries => read entries = .valid a := by
  cases value with
  | object entries => simp [checkModel, IsObject]
  | _ => exact iff_of_false (by rintro ⟨⟩) (by rintro ⟨_, ⟨⟩, _⟩)

theorem isValid_checkModel {model : String} {read : Entries Value → Checked α} :
    (checkModel model read value).IsValid ↔ value.IsObject fun entries => (read entries).IsValid := by
  simp only [Checked.IsValid, checkModel_eq_valid, IsObject]
  constructor
  · rintro ⟨a, entries, hvalue, h⟩
    exact ⟨entries, hvalue, a, h⟩
  · rintro ⟨entries, hvalue, a, h⟩
    exact ⟨a, entries, hvalue, h⟩

theorem field_eq_valid {a : α} :
    field entries key check = .valid a ↔ Entries.Has entries key fun value => check value = .valid a := by
  rw [field, Checked.within_eq_valid, Entries.Has]
  cases Entries.get? entries key <;> simp [Checked.issue]

theorem isValid_field : (field entries key check).IsValid ↔ Entries.Has entries key fun value => (check value).IsValid := by
  rw [field, Checked.isValid_within, Entries.Has]
  cases Entries.get? entries key <;> simp

theorem fieldOr_eq_valid {default a : α} :
    fieldOr entries key default check = .valid a ↔
      Entries.get? entries key = none ∧ default = a ∨ Entries.Has entries key fun value => check value = .valid a := by
  rw [fieldOr, Entries.Has]
  cases Entries.get? entries key <;> simp

theorem fieldOr_congr {other : Entries Value} {default : α} (h : Entries.get? entries key = Entries.get? other key) :
    fieldOr entries key default check = fieldOr other key default check := by
  rw [fieldOr, fieldOr, h]

theorem isValid_fieldOr {default : α} :
    (fieldOr entries key default check).IsValid ↔ Entries.Admits entries key fun value => (check value).IsValid := by
  rw [fieldOr, Entries.Admits]
  cases Entries.get? entries key <;> simp

end Value

end ClientForge
