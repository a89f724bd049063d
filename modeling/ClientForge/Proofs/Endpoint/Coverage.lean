import ClientForge.Proofs.Choice.Chain
import ClientForge.Proofs.Endpoint.Resolve
import Mathlib.Data.List.Find

namespace ClientForge

open Template (signature slotNames satisfied)

namespace PathChoice

def Covers (choice : PathChoice) (supplied : List String) (template : String) : Prop :=
  ∀ name ∈ slotNames template, name ∈ supplied ∨ Entries.contains choice.defaults name = true

variable {choice : PathChoice} {supplied other : List String} {template : String}

theorem select_eq_some (h : choice.select supplied = some template) :
    (∃ branch ∈ choice.branches, branch.applies supplied = true ∧ branch.template = template) ∨
      (∀ branch ∈ choice.branches, branch.applies supplied = false) ∧
        choice.fallback = some template := by
  rw [select] at h
  split at h
  · next branch hbranch =>
    cases h
    have happly := List.find?_some hbranch
    exact .inl ⟨branch, List.mem_of_find?_eq_some hbranch, happly, rfl⟩
  · next hnone =>
    refine .inr ⟨?_, h⟩
    simpa only [List.find?_eq_none, Bool.not_eq_true] using hnone

theorem select_congr (h : ∀ branch ∈ choice.branches, ∀ slot ∈ branch.needed,
    supplied.contains slot = other.contains slot) : choice.select supplied = choice.select other := by
  have hfind : choice.branches.find? (·.applies supplied) = choice.branches.find? (·.applies other) := by
    apply List.find?_congr
    intro branch hbranch
    rw [Bool.eq_iff_iff, PathBranch.applies, PathBranch.applies, List.all_eq_true, List.all_eq_true]
    apply forall₂_congr
    intro slot hslot
    rw [h branch hbranch slot hslot]
  rw [select, select, hfind]

theorem irregular_branch_covers {name : String} (h : Irregular.paths.lookup name = some choice)
    {branch : PathBranch} (hbranch : branch ∈ choice.branches) (happly : branch.applies supplied = true) :
    choice.Covers supplied branch.template := by
  rw [irregular_eq h] at hbranch ⊢
  rw [List.mem_singleton] at hbranch
  subst hbranch
  have hneeded : "index" ∈ supplied ∧ "id" ∈ supplied := by simpa [PathBranch.applies] using happly
  have hnames : slotNames "\x7bindex\x7d/\x7bendpoint\x7d/\x7bid\x7d" = ["index", "endpoint", "id"] := by
    decide
  intro name hname
  dsimp only at hname ⊢
  rw [hnames] at hname
  simp only [List.mem_cons, List.not_mem_nil, or_false] at hname
  rcases hname with rfl | rfl | rfl
  · exact .inl hneeded.1
  · exact .inr (by decide)
  · exact .inl hneeded.2

end PathChoice

namespace Arguments

theorem mem_commonVariables {templates : List String} {name : String} (hne : templates ≠ []) :
    name ∈ commonVariables templates ↔ ∀ template ∈ templates, name ∈ slotNames template := by
  cases templates with
  | nil => exact absurd rfl hne
  | cons first rest =>
    simp only [commonVariables, List.mem_filter, Template.mem_signature, List.all_eq_true,
      List.contains_iff_mem, List.forall_mem_cons]

end Arguments

namespace Endpoint

variable {surroundings : Surroundings} {definition : Definition} {endpoint : Endpoint}

end Endpoint

end ClientForge
