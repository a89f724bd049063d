import ClientForge.Proofs.Disk.Place
import ClientForge.Proofs.Split

namespace ClientForge

open Disk (Path place placeFrom)

namespace Disk.Path

structure IsPlain (part : String) : Prop where
  ne_empty : part ≠ ""
  ne_here : part ≠ "."
  ne_above : part ≠ ".."
  no_slash : '/' ∉ part.toList

instance (part : String) : Decidable (IsPlain part) :=
  decidable_of_iff (part ≠ "" ∧ part ≠ "." ∧ part ≠ ".." ∧ '/' ∉ part.toList)
    ⟨fun ⟨h, h', h'', hslash⟩ => ⟨h, h', h'', hslash⟩,
      fun h => ⟨h.ne_empty, h.ne_here, h.ne_above, h.no_slash⟩⟩

theorem IsPlain.ne_slash {part : String} (h : IsPlain part) : part ≠ slash := by
  rintro rfl
  exact h.no_slash (by decide)

theorem head?_intercalate {parts : List String} (h : ∀ part ∈ parts, IsPlain part) :
    (slash.intercalate parts).toList.head? ≠ some '/' := by
  cases parts with
  | nil => simp
  | cons part rest =>
    have hpart := h part List.mem_cons_self
    intro hhead
    have hne : part.toList ≠ [] := by simpa using hpart.ne_empty
    have hmem : (part.toList ++ if rest = [] then [] else '/' :: (slash.intercalate rest).toList).head? =
        some '/' := by
      rw [← hhead]
      cases rest <;> simp [String.intercalate_cons_cons, slash]
    rw [List.head?_append_of_ne_nil _ hne] at hmem
    exact hpart.no_slash (List.mem_of_head? hmem)

theorem ofString_intercalate {parts : List String} (h : ∀ part ∈ parts, IsPlain part) :
    ofString (slash.intercalate parts) = parts := by
  have hkept : (parts.filter fun part => part ≠ "" ∧ part ≠ ".") = parts := by
    rw [List.filter_eq_self]
    intro part hpart
    simp [(h part hpart).ne_empty, (h part hpart).ne_here]
  rw [ofString, if_neg (head?_intercalate h)]
  cases parts with
  | nil => rfl
  | cons part rest =>
    rw [String.toList_intercalate]
    change ((Text.splitOn (· == '/') (['/'].intercalate _)).map String.ofList).filter _ = _
    rw [Text.splitOn_intercalate (by simp)]
    · rw [List.map_map]
      simpa [Function.comp_def] using hkept
    · intro text htext
      obtain ⟨name, hname, rfl⟩ := List.mem_map.mp htext
      exact (h name hname).no_slash

theorem join_intercalate (path : Path) {parts : List String} (h : ∀ part ∈ parts, IsPlain part) :
    path.join (slash.intercalate parts) = path ++ parts := by
  have habsolute : isAbsolute parts = false := by
    cases parts with
    | nil => rfl
    | cons part rest => simpa [isAbsolute] using (h part List.mem_cons_self).ne_slash
  rw [join, ofString_intercalate h, habsolute]
  rfl

theorem join_plain (path : Path) {part : String} (h : IsPlain part) : path.join part = path ++ [part] := by
  have hparts : ∀ other ∈ [part], IsPlain other := by simpa using h
  simpa using join_intercalate path hparts

theorem foldl_join (path : Path) {parts : List String} (h : ∀ part ∈ parts, IsPlain part) :
    parts.foldl join path = path ++ parts := by
  induction parts generalizing path with
  | nil => simp
  | cons part rest ih =>
    rw [List.forall_mem_cons] at h
    rw [List.foldl_cons, join_plain path h.1, ih _ h.2, List.append_assoc, List.singleton_append]

theorem intercalate_append (first : Path) :
    ∃ front : String, ∀ parts ≠ [], slash.intercalate (first ++ parts) = front ++ slash.intercalate parts := by
  by_cases hfirst : first = []
  · exact ⟨"", fun parts _ => by simp [hfirst]⟩
  · exact ⟨slash.intercalate first ++ slash, fun parts hparts => String.intercalate_append_of_ne_nil hfirst hparts⟩

theorem text_append (root : Path) :
    ∃ front : String, ∀ parts ≠ [], (∀ part ∈ parts, IsPlain part) →
      text (root ++ parts) = front ++ slash.intercalate parts := by
  cases root with
  | nil =>
    refine ⟨"", fun parts hparts hplain => ?_⟩
    obtain ⟨part, rest, rfl⟩ := List.exists_cons_of_ne_nil hparts
    rw [List.nil_append, text, if_neg (hplain part List.mem_cons_self).ne_slash, String.empty_append]
  | cons first rest =>
    by_cases hslash : first = slash
    · obtain ⟨front, hfront⟩ := intercalate_append rest
      refine ⟨slash ++ front, fun parts hparts _ => ?_⟩
      rw [List.cons_append, text, if_pos hslash, hfront parts hparts, String.append_assoc]
    · obtain ⟨front, hfront⟩ := intercalate_append (first :: rest)
      refine ⟨front, fun parts hparts _ => ?_⟩
      rw [List.cons_append, text, if_neg hslash]
      exact hfront parts hparts

end Disk.Path

namespace Disk

theorem placeFrom_append (here first second : Path) :
    placeFrom here (first ++ second) = placeFrom (placeFrom here first) second := by
  induction first generalizing here with
  | nil => rfl
  | cons part rest ih => exact ih _

theorem placeFrom_plain (here : Path) {parts : Path} (h : ∀ part ∈ parts, Path.IsPlain part) :
    placeFrom here parts = here ++ parts := by
  induction parts generalizing here with
  | nil => simp [placeFrom]
  | cons part rest ih =>
    rw [List.forall_mem_cons] at h
    rw [placeFrom, if_neg h.1.ne_above, ih _ h.2, List.append_assoc, List.singleton_append]

theorem place_append (root : Path) {parts : Path} (h : ∀ part ∈ parts, Path.IsPlain part) :
    place (root ++ parts) = place root ++ parts := by
  rw [place, placeFrom_append, placeFrom_plain _ h]
  rfl

end Disk

end ClientForge
