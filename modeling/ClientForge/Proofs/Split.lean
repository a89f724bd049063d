import ClientForge.Text.Basic
import Mathlib.Data.List.Basic

namespace ClientForge.Text

variable {p : Char → Bool} {text : List Char}

theorem splitOn_of_forall (h : ∀ c ∈ text, p c = false) : splitOn p text = [text] := by
  induction text with
  | nil => rfl
  | cons c rest ih =>
    rw [List.forall_mem_cons] at h
    simp [splitOn, h.1, ih h.2]

theorem splitOn_append_mark {mark : Char} (hmark : p mark = true) (text rest : List Char) :
    splitOn p (text ++ mark :: rest) = splitOn p text ++ splitOn p rest := by
  induction text with
  | nil => simp [splitOn, hmark]
  | cons c text ih =>
    rw [List.cons_append, splitOn, splitOn, ih]
    by_cases hc : p c = true
    · rw [if_pos hc, if_pos hc, List.cons_append]
    · obtain ⟨part, parts, hparts⟩ := List.exists_cons_of_ne_nil (splitOn_ne_nil p text)
      rw [if_neg hc, if_neg hc, hparts]
      rfl

theorem not_mark_of_mem_splitOn {part : List Char} (h : part ∈ splitOn p text) : ∀ c ∈ part, p c = false := by
  induction text generalizing part with
  | nil =>
    obtain rfl := List.mem_singleton.mp h
    exact fun c hc => (List.not_mem_nil hc).elim
  | cons c rest ih =>
    obtain ⟨first, others, hparts⟩ := List.exists_cons_of_ne_nil (splitOn_ne_nil p rest)
    rw [splitOn, hparts] at h
    rw [hparts] at ih
    by_cases hc : p c = true
    · rw [if_pos hc, List.mem_cons] at h
      rcases h with rfl | h
      · exact fun c hc => (List.not_mem_nil hc).elim
      · exact ih h
    · rw [if_neg hc, List.mem_cons] at h
      rcases h with rfl | h
      · rw [List.forall_mem_cons]
        exact ⟨Bool.not_eq_true _ ▸ hc, ih List.mem_cons_self⟩
      · exact ih (List.mem_cons_of_mem _ h)

theorem splitOn_append_cons {mark : Char} {rest : List Char} (h : ∀ c ∈ text, p c = false)
    (hmark : p mark = true) : splitOn p (text ++ mark :: rest) = text :: splitOn p rest := by
  rw [splitOn_append_mark hmark, splitOn_of_forall h, List.singleton_append]

theorem splitOn_intercalate {mark : Char} {parts : List (List Char)} (hne : parts ≠ [])
    (h : ∀ part ∈ parts, mark ∉ part) : splitOn (· == mark) ([mark].intercalate parts) = parts := by
  have hother {part : List Char} (hpart : mark ∉ part) : ∀ c ∈ part, (c == mark) = false := by
    intro c hc
    simpa using ne_of_mem_of_not_mem hc hpart
  induction parts with
  | nil => exact absurd rfl hne
  | cons part rest ih =>
    rw [List.forall_mem_cons] at h
    cases rest with
    | nil => rw [List.intercalate_singleton, splitOn_of_forall (hother h.1)]
    | cons second rest =>
      rw [List.intercalate_cons_cons, List.append_assoc, List.singleton_append,
        splitOn_append_cons (hother h.1) (by simp), ih (List.cons_ne_nil _ _) h.2]

end ClientForge.Text
