import ClientForge.Location
import ClientForge.Proofs.Split
import Mathlib.Data.List.Forall2

namespace ClientForge

def IsWord (text : String) : Prop :=
  text ≠ "" ∧ ∀ c ∈ text.toList, c ≠ '.' ∧ c ≠ '/'

-- by the characters of the text: an instance found by search may go through all characters there are
instance (text : String) : Decidable (IsWord text) :=
  decidable_of_iff (text ≠ "" ∧ text.toList.all (fun c => c != '.' && c != '/') = true) (by simp [IsWord])

theorem IsWord.no_point {text : String} (h : IsWord text) : '.' ∉ text.toList :=
  fun hpoint => (h.2 _ hpoint).1 rfl

theorem isWord_append {text other : String} (h : IsWord text) (hother : IsWord other) :
    IsWord (text ++ other) := by
  refine ⟨by simp [h.1], ?_⟩
  intro c hc
  rw [String.toList_append, List.mem_append] at hc
  rcases hc with hc | hc
  · exact h.2 c hc
  · exact hother.2 c hc

theorem isWord_safeName {text : String} (h : IsWord text) : IsWord (Text.safeName text) := by
  rw [Text.safeName]
  split
  · exact isWord_append h (by decide)
  · exact h

theorem Text.no_mark_of_isAsciiIdentifier {text : List Char} (h : isAsciiIdentifier text = true) :
    text ≠ [] ∧ ∀ c ∈ text, c ≠ '.' ∧ c ≠ '/' := by
  have hpart (c : Char) (hc : (c.isAlphanum || c == '_') = true) : c ≠ '.' ∧ c ≠ '/' := by
    constructor
    · rintro rfl
      exact absurd hc (by decide)
    · rintro rfl
      exact absurd hc (by decide)
  cases text with
  | nil => cases h
  | cons first rest =>
    rw [isAsciiIdentifier, Bool.and_eq_true, List.all_eq_true] at h
    refine ⟨List.cons_ne_nil _ _, ?_⟩
    rw [List.forall_mem_cons]
    refine ⟨hpart first ?_, fun c hc => hpart c (h.2 c hc)⟩
    rcases (Bool.or_eq_true _ _).mp h.1 with halpha | hmark
    · rw [Char.isAlphanum, halpha]
      rfl
    · rw [hmark, Bool.or_true]

theorem isWord_of_isNameLike {text : String} (h : Text.isNameLike text.toList = true) : IsWord text := by
  rw [Text.isNameLike, Bool.or_eq_true, Bool.and_eq_true, beq_iff_eq] at h
  rcases h with h | ⟨hlast, h⟩
  · obtain ⟨hne, hmarks⟩ := Text.no_mark_of_isAsciiIdentifier h
    exact ⟨by simpa using hne, hmarks⟩
  · obtain ⟨hne, hmarks⟩ := Text.no_mark_of_isAsciiIdentifier h
    have htext : text.toList = text.toList.dropLast ++ ['\n'] :=
      (List.dropLast_append_getLast? _ hlast).symm
    constructor
    · rintro rfl
      exact hne rfl
    · intro c hc
      rw [htext, List.mem_append, List.mem_singleton] at hc
      rcases hc with hc | rfl
      · exact hmarks c hc
      · decide

namespace Location

theorem segments_ofSegments {segments : List String} (h : segments ≠ []) :
    (ofSegments segments).segments = segments := by
  induction segments with
  | nil => exact absurd rfl h
  | cons first rest ih =>
    cases rest with
    | nil => rfl
    | cons second rest =>
      have hrest := ih (List.cons_ne_nil _ _)
      rw [Location.segments] at hrest ⊢
      rw [ofSegments, List.cons_append, hrest]

theorem rename_eq (segment : String) :
    rename segment = if segment = "ml" then "machine_learning"
      else if segment = "ilm" then "index_lifecycle_management" else segment := by
  rw [rename, renames, List.lookup_cons, List.lookup_cons, List.lookup_nil]
  split
  · next h => rw [if_pos (by simpa using h)]; rfl
  · next h =>
    rw [if_neg (by simpa using h)]
    split
    · next h => rw [if_pos (by simpa using h)]; rfl
    · next h => rw [if_neg (by simpa using h)]; rfl

theorem rename_cases (segment : String) : rename segment = segment ∨ rename segment ∈ renames.map (·.2) := by
  rw [rename_eq]
  split
  · exact .inr (by decide)
  · split
    · exact .inr (by decide)
    · exact .inl rfl

theorem isNameLike_rename {segment : String} (h : Text.isNameLike segment.toList = true) :
    Text.isNameLike (rename segment).toList = true := by
  rcases rename_cases segment with hsame | hspelled
  · rwa [hsame]
  · have hnames : ∀ word ∈ renames.map (·.2), Text.isNameLike word.toList = true := by decide
    exact hnames _ hspelled

theorem isNameLike_extend {segments : List String} (h : ∀ segment ∈ segments, Text.isNameLike segment.toList = true) :
    ∀ segment ∈ extend segments, Text.isNameLike segment.toList = true := by
  intro segment hsegment
  rw [extend] at hsegment
  obtain ⟨plain, hplain, rfl⟩ := List.mem_map.mp hsegment
  apply isNameLike_rename
  split at hplain
  · exact h plain hplain
  · rcases List.mem_cons.mp hplain with rfl | hplain
    · decide
    · exact h plain hplain

theorem resolve_eq_ok {name : String} {extended : Bool} {location : Location}
    (h : resolve name extended = .ok location) :
    location = ofSegments (if extended then extend (splitName name) else splitName name) ∧
      ∀ segment ∈ splitName name, Text.isNameLike segment.toList = true := by
  rw [resolve] at h
  split at h
  · cases h
  dsimp only at h
  split at h
  · cases h
  next hfault =>
    cases h
    refine ⟨rfl, ?_⟩
    intro segment hsegment
    have hnone := List.findSome?_eq_none_iff.mp hfault segment hsegment
    rw [segmentFault?] at hnone
    split at hnone
    · cases hnone
    · split at hnone
      · next hname => exact hname
      · cases hnone

theorem splitName_ne_nil (name : String) : splitName name ≠ [] := by
  simpa [splitName] using Text.splitOn_ne_nil _ _

theorem splitName_intercalate {segments : List String} (hne : segments ≠ [])
    (h : ∀ segment ∈ segments, '.' ∉ segment.toList) : splitName (".".intercalate segments) = segments := by
  rw [splitName, String.toList_intercalate]
  change (Text.splitOn (· == '.') (['.'].intercalate _)).map String.ofList = segments
  rw [Text.splitOn_intercalate (by simpa using hne)]
  · simp [Function.comp_def]
  · intro text htext
    obtain ⟨segment, hsegment, rfl⟩ := List.mem_map.mp htext
    exact h segment hsegment

theorem extend_ne_nil {segments : List String} (h : segments ≠ []) : extend segments ≠ [] := by
  rw [extend]
  split
  · simpa using h
  · simp

theorem segments_of_resolve {name : String} {extended : Bool} {location : Location}
    (h : resolve name extended = .ok location) :
    ∀ segment ∈ location.segments, Text.isNameLike segment.toList = true := by
  obtain ⟨rfl, hnames⟩ := resolve_eq_ok h
  have hsplit := splitName_ne_nil name
  cases extended with
  | false =>
    rw [if_neg Bool.false_ne_true, segments_ofSegments hsplit]
    exact hnames
  | true =>
    rw [if_pos rfl, segments_ofSegments (extend_ne_nil hsplit)]
    exact isNameLike_extend hnames

theorem outputModules_subset (location : Location) : location.outputModules ⊆ location.segments := by
  intro segment hsegment
  apply List.mem_append_left
  rw [outputModules] at hsegment
  split at hsegment
  · cases hsegment
  · next first rest hmodules =>
    rw [hmodules]
    split at hsegment
    · exact List.mem_cons_of_mem _ hsegment
    · exact hsegment

theorem isWord_of_resolve {name : String} {extended : Bool} {location : Location}
    (h : resolve name extended = .ok location) :
    (∀ segment ∈ location.packageModules, IsWord segment) ∧ IsWord location.functionName := by
  have hsegments := segments_of_resolve h
  constructor
  · intro segment hsegment
    obtain ⟨plain, hplain, rfl⟩ := List.mem_map.mp hsegment
    exact isWord_safeName (isWord_of_isNameLike (hsegments plain (outputModules_subset location hplain)))
  · exact isWord_safeName (isWord_of_isNameLike (hsegments _ (List.mem_append_right _ (List.mem_singleton_self _))))

def unmark : List String → List String
  | first :: second :: rest => if first = marker then second :: rest else first :: second :: rest
  | segments => segments

/-- Two segments that are written alike: one is the other, or a keyword where the other has an underscore behind it, or
on the extended surface a word where the other is spelled out. -/
def SpelledAlike (extended : Bool) (segment other : String) : Prop :=
  segment = other ∨ other ∈ Text.keywords ∧ segment = other ++ "_" ∨ segment ∈ Text.keywords ∧ other = segment ++ "_" ∨
    extended = true ∧ ((segment, other) ∈ renames ∨ (other, segment) ∈ renames)

instance (extended : Bool) (segment other : String) : Decidable (SpelledAlike extended segment other) :=
  inferInstanceAs (Decidable (_ ∨ _ ∨ _ ∨ _))

def Alike (extended : Bool) (name other : String) : Prop :=
  List.Forall₂ (SpelledAlike extended) (unmark (splitName name)) (unmark (splitName other))

def spell (extended : Bool) (segment : String) : String :=
  Text.safeName (if extended then rename segment else segment)

theorem safeName_eq_iff {segment other : String} :
    Text.safeName segment = Text.safeName other ↔ segment = other ∨ other ∈ Text.keywords ∧ segment = other ++ "_" ∨
      segment ∈ Text.keywords ∧ other = segment ++ "_" := by
  have hplain : ∀ keyword ∈ Text.keywords, keyword ++ "_" ∉ Text.keywords := by decide
  simp only [Text.safeName, Text.isKeyword, List.contains_iff_mem]
  split
  · next hsegment =>
    split
    · next hother =>
      constructor
      · exact fun h => .inl (by simpa using h)
      · rintro (rfl | ⟨hkeyword, rfl⟩ | ⟨-, rfl⟩)
        · rfl
        · exact absurd hsegment (hplain _ hkeyword)
        · exact absurd hother (hplain _ hsegment)
    · next hother =>
      constructor
      · exact fun h => .inr (.inr ⟨hsegment, h.symm⟩)
      · rintro (rfl | ⟨hkeyword, -⟩ | ⟨-, h⟩)
        · exact absurd hsegment hother
        · exact absurd hkeyword hother
        · exact h.symm
  · next hsegment =>
    split
    · next hother =>
      constructor
      · exact fun h => .inr (.inl ⟨hother, h⟩)
      · rintro (rfl | ⟨-, h⟩ | ⟨hkeyword, -⟩)
        · exact absurd hother hsegment
        · exact h
        · exact absurd hkeyword hsegment
    · next hother =>
      constructor
      · exact .inl
      · rintro (h | ⟨hkeyword, -⟩ | ⟨hkeyword, -⟩)
        · exact h
        · exact absurd hkeyword hother
        · exact absurd hkeyword hsegment

theorem rename_eq_rename_iff {segment other : String} :
    rename segment = rename other ↔ segment = other ∨ (segment, other) ∈ renames ∨ (other, segment) ∈ renames := by
  simp only [rename_eq, renames, List.mem_cons, Prod.mk.injEq, List.not_mem_nil, or_false]
  grind

theorem rename_eq_iff {segment word : String} (hshort : word ∉ renames.map (·.1)) (hlong : word ∉ renames.map (·.2)) :
    rename segment = word ↔ segment = word := by
  -- what is spelled out never spells a word outside the table
  simp only [renames, List.map_cons, List.map_nil, List.mem_cons, List.not_mem_nil, or_false, not_or] at hshort hlong
  rw [rename_eq]
  grind

theorem keyword_rename_iff {segment other : String} :
    rename segment ∈ Text.keywords ∧ rename other = rename segment ++ "_" ↔
      segment ∈ Text.keywords ∧ other = segment ++ "_" := by
  have hkeywords : ∀ keyword ∈ Text.keywords, (keyword ∉ renames.map (·.1) ∧ keyword ∉ renames.map (·.2)) ∧
      keyword ++ "_" ∉ renames.map (·.1) ∧ keyword ++ "_" ∉ renames.map (·.2) := by
    decide
  constructor
  · rintro ⟨hkeyword, hother⟩
    obtain ⟨⟨hshort, hlong⟩, hshort', hlong'⟩ := hkeywords _ hkeyword
    have hsame : segment = rename segment := (rename_eq_iff hshort hlong).mp rfl
    rw [← hsame] at hkeyword hother hshort' hlong'
    exact ⟨hkeyword, (rename_eq_iff hshort' hlong').mp hother⟩
  · rintro ⟨hkeyword, rfl⟩
    obtain ⟨⟨hshort, hlong⟩, hshort', hlong'⟩ := hkeywords _ hkeyword
    rw [(rename_eq_iff hshort hlong).mpr rfl, (rename_eq_iff hshort' hlong').mpr rfl]
    exact ⟨hkeyword, rfl⟩

theorem spell_eq_iff {extended : Bool} {segment other : String} :
    spell extended segment = spell extended other ↔ SpelledAlike extended segment other := by
  cases extended with
  | false =>
    rw [SpelledAlike, spell, spell, if_neg Bool.false_ne_true, if_neg Bool.false_ne_true, safeName_eq_iff]
    simp
  | true =>
    rw [SpelledAlike, spell, spell, if_pos rfl, if_pos rfl, safeName_eq_iff, keyword_rename_iff, keyword_rename_iff,
      rename_eq_rename_iff]
    simp only [true_and]
    tauto

theorem map_spell_eq_iff {extended : Bool} {segments others : List String} :
    segments.map (spell extended) = others.map (spell extended) ↔
      List.Forall₂ (SpelledAlike extended) segments others := by
  rw [← congrFun₂ List.forall₂_eq_eq_eq, List.forall₂_map_left_iff, List.forall₂_map_right_iff]
  simp only [spell_eq_iff]

theorem outputModules_append {segments : List String} (h : segments ≠ []) :
    (ofSegments segments).outputModules ++ [(ofSegments segments).method] = unmark segments := by
  cases segments with
  | nil => exact absurd rfl h
  | cons first rest =>
    cases rest with
    | nil => rfl
    | cons second rest =>
      have hrest := segments_ofSegments (List.cons_ne_nil second rest)
      rw [Location.segments] at hrest
      rw [unmark, ofSegments, outputModules]
      dsimp only
      split
      · exact hrest
      · rw [List.cons_append, hrest]

theorem unmark_extend {segments : List String} (h : segments ≠ []) :
    unmark (extend segments) = (unmark segments).map rename := by
  have hmarker : rename marker = marker := by decide
  obtain ⟨first, rest, rfl⟩ := List.exists_cons_of_ne_nil h
  by_cases hfirst : first = marker
  · rw [extend, hfirst, if_pos List.head?_cons, List.map_cons, hmarker]
    cases rest with
    | nil => rfl
    | cons second rest => rw [List.map_cons, unmark, unmark, if_pos rfl, if_pos rfl, List.map_cons]
  · rw [extend, if_neg (by simpa using hfirst), List.map_cons, hmarker, List.map_cons, unmark, if_pos rfl]
    cases rest with
    | nil => rfl
    | cons second rest =>
      rw [unmark, if_neg hfirst]
      rfl

instance (extended : Bool) (name other : String) : Decidable (Alike extended name other) :=
  decidable_of_iff _ map_spell_eq_iff

theorem packageModules_append {name : String} {extended : Bool} {location : Location}
    (h : resolve name extended = .ok location) :
    location.packageModules ++ [location.functionName] = (unmark (splitName name)).map (spell extended) := by
  have hwritten : location.packageModules ++ [location.functionName] =
      (location.outputModules ++ [location.method]).map Text.safeName := by
    simp [packageModules, functionName]
  obtain ⟨rfl, -⟩ := resolve_eq_ok h
  have hsplit := splitName_ne_nil name
  cases extended with
  | false =>
    rw [hwritten, if_neg Bool.false_ne_true, outputModules_append hsplit]
    rfl
  | true =>
    rw [hwritten, if_pos rfl, outputModules_append (extend_ne_nil hsplit), unmark_extend hsplit, List.map_map]
    rfl

theorem place_eq_iff {name other : String} {extended : Bool} {location place : Location}
    (h : resolve name extended = .ok location) (hother : resolve other extended = .ok place) :
    location.packageModules = place.packageModules ∧ location.functionName = place.functionName ↔
      Alike extended name other := by
  rw [Alike, ← map_spell_eq_iff, ← packageModules_append h, ← packageModules_append hother]
  constructor
  · rintro ⟨hmodules, hfunction⟩
    rw [hmodules, hfunction]
  · intro heq
    obtain ⟨hmodules, hfunction⟩ := List.append_inj' heq rfl
    exact ⟨hmodules, List.singleton_inj.mp hfunction⟩

example : Alike false "xpack.info" "info" ∧ ¬Alike false "xpack.ml.info" "xpack.sql.info" ∧
    Alike true "machine_learning.info" "xpack.ml.info" := by
  decide

end Location

end ClientForge
