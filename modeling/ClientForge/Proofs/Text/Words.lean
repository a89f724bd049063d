import ClientForge.Proofs.Split

namespace ClientForge.Text

variable {text : List Char}

def IsUnbroken (word : List Char) : Prop :=
  word ≠ [] ∧ ∀ c ∈ word, isBlank c = false

theorem isUnbroken_of_mem_words {word : List Char} (h : word ∈ words text) : IsUnbroken word := by
  obtain ⟨hpart, hne⟩ := List.mem_filter.mp h
  exact ⟨by simpa using hne, not_mark_of_mem_splitOn hpart⟩

theorem words_nil : words [] = [] := by
  rfl

theorem words_append_blank {c : Char} (hc : isBlank c = true) (text rest : List Char) :
    words (text ++ c :: rest) = words text ++ words rest := by
  rw [words, splitOn_append_mark hc, List.filter_append]
  rfl

theorem words_cons_blank {c : Char} (hc : isBlank c = true) (rest : List Char) : words (c :: rest) = words rest :=
  words_append_blank hc [] rest

theorem words_of_isUnbroken {word : List Char} (h : IsUnbroken word) : words word = [word] := by
  have hempty : word.isEmpty = false := by simpa using h.1
  rw [words, splitOn_of_forall h.2, List.filter_singleton, hempty]
  rfl

theorem words_blanks_append {blanks : List Char} (h : ∀ c ∈ blanks, isBlank c = true) (rest : List Char) :
    words (blanks ++ rest) = words rest := by
  induction blanks with
  | nil => rfl
  | cons c blanks ih =>
    rw [List.forall_mem_cons] at h
    rw [List.cons_append, words_cons_blank h.1, ih h.2]

def visible (text : List Char) : List Char :=
  text.filter fun c => !isBlank c

theorem visible_append (text rest : List Char) : visible (text ++ rest) = visible text ++ visible rest :=
  List.filter_append ..

theorem visible_eq_nil_iff : visible text = [] ↔ ∀ c ∈ text, isBlank c = true := by
  simp [visible, List.filter_eq_nil_iff]

end ClientForge.Text
