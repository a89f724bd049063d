import ClientForge.Proofs.Code.Validity
import ClientForge.Proofs.Location

namespace ClientForge

def IsIdentifier (text : String) : Prop :=
  Text.isAsciiIdentifier text.toList = true

instance (text : String) : Decidable (IsIdentifier text) :=
  inferInstanceAs (Decidable (Text.isAsciiIdentifier text.toList = true))

def IsLooseIdentifier (text : String) : Prop :=
  ∃ word, IsIdentifier word ∧ (text = word ∨ text = word ++ "\n")

theorem isNameLike_iff {text : String} : Text.isNameLike text.toList = true ↔ IsLooseIdentifier text := by
  rw [Text.isNameLike, Bool.or_eq_true, Bool.and_eq_true, beq_iff_eq]
  constructor
  · rintro (h | ⟨hlast, h⟩)
    · exact ⟨text, h, .inl rfl⟩
    · refine ⟨String.ofList text.toList.dropLast, by simpa [IsIdentifier] using h, .inr ?_⟩
      apply String.toList_injective
      simpa using (List.dropLast_append_getLast? _ hlast).symm
  · rintro ⟨word, hword, rfl | rfl⟩
    · exact .inl hword
    · right
      simpa [IsIdentifier] using hword

theorem isIdentifier_append {text other : String} (h : IsIdentifier text) (hother : IsIdentifier other) :
    IsIdentifier (text ++ other) := by
  rw [IsIdentifier, String.toList_append]
  exact Text.isAsciiIdentifier_append h hother

theorem not_isBlank_of_isIdentifier {text : String} (h : IsIdentifier text) :
    ∃ c ∈ text.toList, Text.isBlank c = false := by
  obtain ⟨first, rest, htext, hfirst, -⟩ := Text.isAsciiIdentifier_iff.mp h
  refine ⟨first, by simp [htext], ?_⟩
  have hbounds : 65 ≤ first.toNat ∧ first.toNat ≤ 122 := by
    rcases (Bool.or_eq_true _ _).mp hfirst with halpha | hmark
    · exact Text.toNat_of_isAlpha halpha
    · rw [beq_iff_eq.mp hmark]
      decide
  simp only [Text.isBlank, Bool.or_eq_false_iff, Bool.and_eq_false_iff, decide_eq_false_iff_not, beq_eq_false_iff_ne]
  omega

namespace Text

theorem isKeyword_safeName (name : String) : isKeyword (safeName name) = false := by
  have hmarked : ∀ keyword ∈ keywords, isKeyword (keyword ++ "_") = false := by decide
  rw [safeName]
  split
  · next h => exact hmarked name (List.contains_iff_mem.mp h)
  · next h => simpa using h

theorem isIdentifier_keyword {name : String} (h : isKeyword name = true) : IsIdentifier name := by
  have hall : ∀ keyword ∈ keywords, IsIdentifier keyword := by decide
  exact hall name (List.contains_iff_mem.mp h)

theorem isIdentifier_safeName {name : String} : IsIdentifier (safeName name) ↔ IsIdentifier name := by
  rw [safeName]
  split
  · next h =>
    have hname := isIdentifier_keyword h
    exact iff_of_true (isIdentifier_append hname (by decide)) hname
  · rfl

theorem isLooseIdentifier_safeName {name : String} (h : IsLooseIdentifier name) : IsLooseIdentifier (safeName name) := by
  rw [safeName]
  split
  · next hkeyword => exact ⟨name ++ "_", isIdentifier_append (isIdentifier_keyword hkeyword) (by decide), .inl rfl⟩
  · exact h

end Text

namespace Location

theorem isIdentifier_rename {segment : String} : IsIdentifier (rename segment) ↔ IsIdentifier segment := by
  rw [rename_eq]
  split
  · next h => exact iff_of_true (by decide) (h ▸ by decide)
  · split
    · next h => exact iff_of_true (by decide) (h ▸ by decide)
    · rfl

theorem forall_extend {segments : List String} :
    (∀ segment ∈ extend segments, IsIdentifier segment) ↔ ∀ segment ∈ segments, IsIdentifier segment := by
  have hmarker : IsIdentifier marker := by decide
  simp only [extend, List.forall_mem_map, isIdentifier_rename]
  split
  · rfl
  · simp [hmarker]

theorem forall_outputModules (location : Location) :
    (∀ word ∈ location.outputModules ++ [location.method], IsIdentifier word) ↔
      ∀ word ∈ location.segments, IsIdentifier word := by
  have hmarker : IsIdentifier marker := by decide
  rw [segments, outputModules]
  split
  · next h => rw [h]
  · next first rest h =>
    rw [h]
    split
    · next hfirst => simp [hfirst, hmarker]
    · rfl

theorem splitName_of_blank {name : String} (h : name.toList.all Text.isBlank = true) : splitName name = [name] := by
  rw [splitName, Text.splitOn_of_forall]
  · simp
  · intro c hc
    rw [beq_eq_false_iff_ne]
    rintro rfl
    have hpoint := List.all_eq_true.mp h '.' hc
    revert hpoint
    decide

theorem segmentFault?_eq_none {segment : String} : segmentFault? segment = none ↔ IsLooseIdentifier segment := by
  rw [segmentFault?, ← isNameLike_iff]
  constructor
  · intro h
    split at h
    · cases h
    · split at h
      · assumption
      · cases h
  · intro h
    rw [if_neg, if_pos h]
    intro hempty
    exact (isWord_of_isNameLike h).1 (by simpa using hempty)

theorem exists_resolve_iff {name : String} {extended : Bool} :
    (∃ location, resolve name extended = .ok location) ↔ ∀ segment ∈ splitName name, IsLooseIdentifier segment := by
  constructor
  · rintro ⟨location, h⟩ segment hsegment
    exact isNameLike_iff.mp ((resolve_eq_ok h).2 segment hsegment)
  · intro h
    have hblank : ¬name.toList.all Text.isBlank = true := by
      intro hblank
      rw [splitName_of_blank hblank, List.forall_mem_singleton] at h
      obtain ⟨word, hword, hname⟩ := h
      obtain ⟨c, hc, hseen⟩ := not_isBlank_of_isIdentifier hword
      have hmem : c ∈ name.toList := by
        rcases hname with rfl | rfl
        · exact hc
        · rw [String.toList_append]
          exact List.mem_append_left _ hc
      rw [List.all_eq_true.mp hblank c hmem] at hseen
      cases hseen
    have hfault : (splitName name).findSome? segmentFault? = none :=
      List.findSome?_eq_none_iff.mpr fun segment hsegment => segmentFault?_eq_none.mpr (h segment hsegment)
    rw [resolve, if_neg hblank]
    dsimp only
    rw [hfault]
    exact ⟨_, rfl⟩

def refusal (segment : String) : NameFault :=
  if segment.isEmpty then .emptySegment else .notIdentifier segment

theorem segmentFault?_eq_some {segment : String} {fault : NameFault} :
    segmentFault? segment = some fault ↔ ¬IsLooseIdentifier segment ∧ fault = refusal segment := by
  rw [← segmentFault?_eq_none, segmentFault?, refusal]
  split
  · rw [Option.some.injEq, eq_comm]
    exact (and_iff_right (Option.some_ne_none _)).symm
  · split
    · exact iff_of_false (Option.some_ne_none fault).symm fun h => h.1 rfl
    · rw [Option.some.injEq, eq_comm]
      exact (and_iff_right (Option.some_ne_none _)).symm

theorem resolve_eq_error {name : String} {extended : Bool} {fault : NameFault}
    (h : resolve name extended = .error fault) :
    name.toList.all Text.isBlank = true ∧ fault = .empty ∨
      ∃ accepted segment rest, splitName name = accepted ++ segment :: rest ∧
        (∀ word ∈ accepted, IsLooseIdentifier word) ∧ ¬IsLooseIdentifier segment ∧ fault = refusal segment := by
  rw [resolve] at h
  split at h
  · next hblank =>
    cases h
    exact .inl ⟨hblank, rfl⟩
  · right
    dsimp only at h
    split at h
    · next found hfound =>
      cases h
      obtain ⟨accepted, segment, rest, hsplit, hsegment, haccepted⟩ := List.findSome?_eq_some_iff.mp hfound
      obtain ⟨hrefused, hfault⟩ := segmentFault?_eq_some.mp hsegment
      exact ⟨accepted, segment, rest, hsplit, fun word hword => segmentFault?_eq_none.mp (haccepted word hword),
        hrefused, hfault⟩
    · cases h

theorem forall_segments_of_resolve {name : String} {extended : Bool} {location : Location}
    (h : resolve name extended = .ok location) :
    (∀ word ∈ location.segments, IsIdentifier word) ↔ ∀ segment ∈ splitName name, IsIdentifier segment := by
  obtain ⟨rfl, -⟩ := resolve_eq_ok h
  have hsplit := splitName_ne_nil name
  cases extended with
  | false => rw [if_neg Bool.false_ne_true, segments_ofSegments hsplit]
  | true => rw [if_pos rfl, segments_ofSegments (extend_ne_nil hsplit), forall_extend]

def words (location : Location) : List String :=
  location.packageModules ++ [location.functionName]

theorem words_eq (location : Location) :
    location.words = (location.outputModules ++ [location.method]).map Text.safeName := by
  simp [words, packageModules, functionName]

/-- A name is accepted exactly where each of its segments is an identifier, but for one line break that may
stand behind it; any other is refused for its first bad segment, or for being blank. What an accepted name is
written as is no keyword, and it is written in identifiers throughout exactly where no line break was let pass. -/
theorem resolve_accepts_identifiers (name : String) (extended : Bool) :
    ((∃ location, resolve name extended = .ok location) ↔
        ∀ segment ∈ splitName name, IsLooseIdentifier segment) ∧
      (∀ fault, resolve name extended = .error fault →
        name.toList.all Text.isBlank = true ∧ fault = .empty ∨
          ∃ accepted segment rest, splitName name = accepted ++ segment :: rest ∧
            (∀ word ∈ accepted, IsLooseIdentifier word) ∧ ¬IsLooseIdentifier segment ∧ fault = refusal segment) ∧
      ∀ location, resolve name extended = .ok location →
        (∀ word ∈ location.words, IsLooseIdentifier word ∧ Text.isKeyword word = false) ∧
          ((∀ word ∈ location.words, IsIdentifier word) ↔ ∀ segment ∈ splitName name, IsIdentifier segment) := by
  refine ⟨exists_resolve_iff, fun fault h => resolve_eq_error h, ?_⟩
  intro location h
  rw [words_eq, List.forall_mem_map, List.forall_mem_map]
  constructor
  · intro word hword
    have hsegment : word ∈ location.segments := by
      rcases List.mem_append.mp hword with hmodule | hmethod
      · exact outputModules_subset location hmodule
      · exact List.mem_append_right _ hmethod
    have hloose := isNameLike_iff.mp (segments_of_resolve h word hsegment)
    exact ⟨Text.isLooseIdentifier_safeName hloose, Text.isKeyword_safeName word⟩
  · simp only [Text.isIdentifier_safeName]
    rw [forall_outputModules, forall_segments_of_resolve h]

theorem resolve_accepts_line_break :
    resolve "index\n" false = .ok ⟨[], "index\n"⟩ ∧ splitName "index\n" = ["index\n"] ∧ ¬IsIdentifier "index\n" ∧
      ¬IsIdentifier (Location.functionName ⟨[], "index\n"⟩) := by
  decide

end Location

end ClientForge
