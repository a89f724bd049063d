import ClientForge.Proofs.Text.Words
import ClientForge.Text.Fill

namespace ClientForge.Text

variable {before text : List Char}

theorem wordChunk_append (before text : List Char) : (wordChunk before text).1 ++ (wordChunk before text).2 = text := by
  induction text generalizing before with
  | nil => rfl
  | cons c rest ih =>
    rw [wordChunk]
    split
    · rfl
    split
    · rfl
    · exact congrArg (c :: ·) (ih (c :: before))

theorem eq_dash_of_opensDash {c : Char} {rest : List Char} (h : opensDash (c :: rest) = true) : c = '-' := by
  rw [opensDash, Bool.and_eq_true, decide_eq_true_iff] at h
  by_contra hc
  rw [List.takeWhile_cons_of_neg (by simpa using hc)] at h
  exact absurd h.1 (by decide)

theorem nextChunk_append (before text : List Char) : (nextChunk before text).1 ++ (nextChunk before text).2 = text := by
  cases text with
  | nil => rfl
  | cons c rest =>
    rw [nextChunk]
    split
    · next hspace => simp [hspace, List.takeWhile_append_dropWhile]
    split
    · next hdash =>
      obtain rfl := eq_dash_of_opensDash (Bool.and_eq_true _ _ ▸ hdash).2
      simp [List.takeWhile_append_dropWhile]
    · exact congrArg (c :: ·) (wordChunk_append (c :: before) rest)

theorem nextChunk_ne_nil (before : List Char) (c : Char) (rest : List Char) : (nextChunk before (c :: rest)).1 ≠ [] := by
  rw [nextChunk]
  split
  · next hspace => simp [hspace]
  split
  · next hdash =>
    obtain rfl := eq_dash_of_opensDash (Bool.and_eq_true _ _ ▸ hdash).2
    simp
  · exact List.cons_ne_nil _ _

theorem flatten_chunksFrom {fuel : Nat} (h : text.length ≤ fuel) : (chunksFrom before fuel text).flatten = text := by
  induction fuel generalizing before text with
  | zero =>
    rw [List.length_eq_zero_iff.mp (Nat.le_zero.mp h)]
    rfl
  | succ fuel ih =>
    cases text with
    | nil => rfl
    | cons c rest =>
      have happend := nextChunk_append before (c :: rest)
      have hpos := List.length_pos_iff.mpr (nextChunk_ne_nil before c rest)
      have hlength := congrArg List.length happend
      rw [List.length_append] at hlength
      rw [chunksFrom]
      dsimp only
      rw [List.flatten_cons, ih (by omega), happend]

theorem flatten_chunks (text : List Char) : (chunks text).flatten = text :=
  flatten_chunksFrom (Nat.le_refl _)

theorem visible_expandTabs (column : Nat) (text : List Char) : visible (expandTabs column text) = visible text := by
  induction text generalizing column with
  | nil => rfl
  | cons c rest ih =>
    have hspaces (count : Nat) : visible (List.replicate count ' ') = [] := by
      rw [visible_eq_nil_iff]
      intro c hc
      rw [(List.mem_replicate.mp hc).2]
      decide
    rw [expandTabs]
    split
    · next htab =>
      rw [visible_append, hspaces, ih, htab]
      rfl
    · rw [← List.singleton_append, visible_append, ih, ← visible_append, List.singleton_append]

theorem visible_flattenBreaks (text : List Char) : visible (flattenBreaks text) = visible text := by
  rw [← visible_expandTabs 0 text, flattenBreaks]
  induction expandTabs 0 text with
  | nil => rfl
  | cons c rest ih =>
    rw [List.map_cons, ← List.singleton_append, visible_append, ih, ← List.singleton_append (l := rest), visible_append]
    split
    · next hbreak =>
      have hblank : isBlank c = true := by
        rw [Bool.and_eq_true, decide_eq_true_iff, decide_eq_true_iff] at hbreak
        simp only [isBlank, Bool.or_eq_true, Bool.and_eq_true, decide_eq_true_iff]
        omega
      have hnone : visible [c] = [] := visible_eq_nil_iff.mpr (by simpa using hblank)
      rw [hnone]
      rfl
    · rfl

theorem break_not_mem_flattenBreaks (text : List Char) : '\n' ∉ flattenBreaks text := by
  intro hmem
  obtain ⟨c, -, hc⟩ := List.mem_map.mp hmem
  split at hc
  · cases hc
  · next hkept =>
    subst hc
    exact hkept (by decide)

end ClientForge.Text
