import ClientForge.Code.Check
import ClientForge.Proofs.Split

namespace ClientForge

namespace Text

variable {text other : List Char}

theorem stripBy_of_forall {p : Char → Bool} (h : ∀ c ∈ text, p c = false) : stripBy p text = text := by
  have hdrop (letters : List Char) (hletters : ∀ c ∈ letters, p c = false) : letters.dropWhile p = letters := by
    cases letters with
    | nil => rfl
    | cons c rest => rw [List.dropWhile_cons_of_neg (by simpa using hletters c List.mem_cons_self)]
  rw [stripBy, hdrop text h, hdrop text.reverse (by simpa using h), List.reverse_reverse]

def IsAsciiPart (c : Char) : Prop :=
  (c.isAlphanum || c == '_') = true

theorem toNat_of_isAlpha {c : Char} (h : c.isAlpha = true) : 65 ≤ c.toNat ∧ c.toNat ≤ 122 := by
  change (decide (_ ∧ _) || _ && _) = true at h
  rw [Bool.or_eq_true, Bool.and_eq_true, decide_eq_true_iff, decide_eq_true_iff, decide_eq_true_iff] at h
  simp only [ge_iff_le, UInt32.le_iff_toNat_le] at h
  change 65 ≤ c.toNat ∧ c.toNat ≤ 90 ∨ 97 ≤ c.toNat ∧ c.toNat ≤ 122 at h
  omega

theorem toNat_of_isDigit {c : Char} (h : c.isDigit = true) : 48 ≤ c.toNat ∧ c.toNat ≤ 57 := by
  change (_ && _) = true at h
  rw [Bool.and_eq_true, decide_eq_true_iff, decide_eq_true_iff, ge_iff_le, UInt32.le_iff_toNat_le,
    UInt32.le_iff_toNat_le] at h
  exact h

theorem IsAsciiPart.toNat_lt {c : Char} (h : IsAsciiPart c) : c.toNat < 128 := by
  rw [IsAsciiPart, Bool.or_eq_true, Char.isAlphanum, Bool.or_eq_true, beq_iff_eq] at h
  rcases h with (halpha | hdigit) | rfl
  · have hbounds := toNat_of_isAlpha halpha
    omega
  · have hbounds := toNat_of_isDigit hdigit
    omega
  · decide

theorem IsAsciiPart.isIdentifierPart {c : Char} (h : IsAsciiPart c) : isIdentifierPart c = true := by
  rw [Text.isIdentifierPart, if_pos h.toNat_lt]
  exact h

theorem isAsciiIdentifier_iff :
    isAsciiIdentifier text = true ↔
      ∃ first rest, text = first :: rest ∧ (first.isAlpha || first == '_') = true ∧ ∀ c ∈ text, IsAsciiPart c := by
  cases text with
  | nil => simp [isAsciiIdentifier]
  | cons first rest =>
    rw [isAsciiIdentifier, Bool.and_eq_true, List.all_eq_true]
    constructor
    · rintro ⟨hfirst, hrest⟩
      refine ⟨first, rest, rfl, hfirst, ?_⟩
      rw [List.forall_mem_cons]
      refine ⟨?_, hrest⟩
      rw [IsAsciiPart, Char.isAlphanum, Bool.or_right_comm, hfirst, Bool.true_or]
    · rintro ⟨_, _, heq, hfirst, hparts⟩
      cases heq
      exact ⟨hfirst, fun c hc => hparts c (List.mem_cons_of_mem _ hc)⟩

theorem folded_of_isAsciiIdentifier (h : isAsciiIdentifier text = true) : folded text = text := by
  obtain ⟨_, _, -, -, hparts⟩ := isAsciiIdentifier_iff.mp h
  exact folded_of_ascii fun c hc => (hparts c hc).toNat_lt

theorem isAsciiIdentifier_append (h : isAsciiIdentifier text = true) (hother : isAsciiIdentifier other = true) :
    isAsciiIdentifier (text ++ other) = true := by
  obtain ⟨first, rest, rfl, hfirst, hparts⟩ := isAsciiIdentifier_iff.mp h
  obtain ⟨-, -, -, -, hothers⟩ := isAsciiIdentifier_iff.mp hother
  refine isAsciiIdentifier_iff.mpr ⟨first, rest ++ other, rfl, hfirst, ?_⟩
  exact List.forall_mem_append.mpr ⟨hparts, hothers⟩

theorem isIdentifier_of_isAsciiIdentifier (h : isAsciiIdentifier text = true) : isIdentifier text = true := by
  obtain ⟨first, rest, rfl, hfirst, hparts⟩ := isAsciiIdentifier_iff.mp h
  rw [List.forall_mem_cons] at hparts
  rw [isIdentifier, isIdentifierStart, if_pos hparts.1.toNat_lt, hfirst, Bool.true_and, List.all_eq_true]
  exact fun c hc => (hparts.2 c hc).isIdentifierPart

theorem not_mem_of_isIdentifier {c : Char} (h : isIdentifier text = true) (hstart : isIdentifierStart c = false)
    (hpart : isIdentifierPart c = false) : c ∉ text := by
  intro hmem
  cases text with
  | nil => cases hmem
  | cons first rest =>
    rw [isIdentifier, Bool.and_eq_true, List.all_eq_true] at h
    rcases List.mem_cons.mp hmem with rfl | hrest
    · rw [hstart] at h
      cases h.1
    · have hgoes := h.2 c hrest
      rw [hpart] at hgoes
      cases hgoes

theorem not_isDigit_of_isIdentifierStart {c : Char} (h : isIdentifierStart c = true) : c.isDigit = false := by
  rw [Bool.eq_false_iff]
  intro hdigit
  have hascii : IsAsciiPart c := by rw [IsAsciiPart, Char.isAlphanum, hdigit, Bool.or_true, Bool.true_or]
  rw [isIdentifierStart, if_pos hascii.toNat_lt, Bool.or_eq_true, beq_iff_eq] at h
  rcases h with halpha | rfl
  · have hletter := toNat_of_isAlpha halpha
    have hbounds := toNat_of_isDigit hdigit
    omega
  · exact absurd hdigit (by decide)

end Text

namespace Code

open Text

variable {text : List Char}

theorem not_gap_of_isIdentifier (h : isIdentifier text = true) : ∀ c ∈ text, isGap c = false := by
  intro c hc
  rw [Bool.eq_false_iff]
  intro hgap
  rw [isGap, Bool.or_eq_true, Bool.or_eq_true, beq_iff_eq, beq_iff_eq, beq_iff_eq] at hgap
  rcases hgap with (rfl | rfl) | rfl <;> exact not_mem_of_isIdentifier h (by decide) (by decide) hc

theorem trimGaps_of_isIdentifier (h : isIdentifier text = true) : trimGaps text = text :=
  stripBy_of_forall (not_gap_of_isIdentifier h)

theorem isName_iff : isName text = true ↔ isIdentifier text = true ∧ isKeyword (String.ofList text) = false := by
  rw [isName, Bool.and_eq_true, Bool.not_eq_true']

theorem isBinder_iff : isBinder text = true ↔ isName text = true ∧ folded text ≠ "__debug__".toList := by
  rw [isBinder, Bool.and_eq_true, bne_iff_ne]

theorem dottedNames_of_isIdentifier (h : isIdentifier text = true) : dottedNames text = [text] := by
  have hpoint : ∀ c ∈ text, (c == '.') = false := by
    intro c hc
    rw [beq_eq_false_iff_ne]
    rintro rfl
    exact not_mem_of_isIdentifier h (by decide) (by decide) hc
  rw [dottedNames, splitOn_of_forall hpoint, List.map_singleton, trimGaps_of_isIdentifier h]

theorem isDotted_of_isName (h : isName text = true) : isDotted text = true := by
  rw [isDotted, dottedNames_of_isIdentifier (isName_iff.mp h).1, List.all_cons, h]
  rfl

theorem isValueText_of_isName (h : isName text = true) : isValueText text = true := by
  rw [isValueText, trimGaps_of_isIdentifier (isName_iff.mp h).1, isDotted_of_isName h]
  rfl

theorem isObjectText_of_isName (h : isName text = true) : isObjectText text = true := by
  have hidentifier := (isName_iff.mp h).1
  have hnumber : isWholeNumber text = false := by
    cases text with
    | nil => rfl
    | cons first rest =>
      rw [isIdentifier, Bool.and_eq_true] at hidentifier
      rw [isWholeNumber, List.all_cons, not_isDigit_of_isIdentifierStart hidentifier.1]
      simp
  rw [isObjectText, isValueText_of_isName h, trimGaps_of_isIdentifier hidentifier, hnumber]
  rfl

theorem isImported_of_isBinder (h : isBinder text = true) : isImported text = true := by
  have hidentifier := (isName_iff.mp (isBinder_iff.mp h).1).1
  have hne : text.isEmpty = false := by
    cases text with
    | nil => cases hidentifier
    | cons _ _ => rfl
  rw [isImported, trimGaps_of_isIdentifier hidentifier, splitOn_of_forall (not_gap_of_isIdentifier hidentifier)]
  simp [hne, h]

theorem isModulePath_of_names (h : ∀ part ∈ splitOn (· == '.') text, isName part = true) :
    isModulePath text = true := by
  have htrim : dottedNames text = splitOn (· == '.') text := by
    have hsame (part : List Char) (hpart : part ∈ splitOn (· == '.') text) : trimGaps part = id part :=
      trimGaps_of_isIdentifier (isName_iff.mp (h part hpart)).1
    rw [dottedNames, List.map_congr_left hsame, List.map_id]
  have hdrop : text.dropWhile (fun c => c == '.' || isGap c) = text ∧ text.isEmpty = false := by
    cases text with
    | nil => exact absurd (h [] List.mem_cons_self) (by decide)
    | cons c rest =>
      refine ⟨?_, rfl⟩
      by_cases hpoint : (c == '.') = true
      · exact absurd (h [] (by simp [splitOn, hpoint])) (by decide)
      · obtain ⟨part, parts, hparts⟩ := List.exists_cons_of_ne_nil (splitOn_ne_nil (· == '.') rest)
        have hfirst := h (c :: part) (by simp [splitOn, hpoint, hparts])
        have hgap := not_gap_of_isIdentifier (isName_iff.mp hfirst).1 c List.mem_cons_self
        rw [List.dropWhile_cons_of_neg (by simpa [hgap] using hpoint)]
  rw [isModulePath, hdrop.1, hdrop.2, isDotted, htrim]
  simpa using h

theorem isBinder_of_ascii {name : String} (h : isAsciiIdentifier name.toList = true)
    (hkeyword : isKeyword name = false) (hdebug : name ≠ "__debug__") : isBinder name.toList = true := by
  rw [isBinder_iff, isName_iff, String.ofList_toList, folded_of_isAsciiIdentifier h]
  exact ⟨⟨isIdentifier_of_isAsciiIdentifier h, hkeyword⟩, fun heq => hdebug (String.toList_inj.mp heq)⟩

theorem bodyValid_iff {inFunction : Bool} {body : List Stmt} :
    bodyValid inFunction body = true ↔ ∀ stmt ∈ body, stmt.isValid inFunction = true := by
  induction body with
  | nil => simp [bodyValid]
  | cons stmt rest ih => rw [bodyValid, Bool.and_eq_true, ih, List.forall_mem_cons]

theorem areKeywords_of_ascii {keywords : List String}
    (hascii : ∀ name ∈ keywords, isAsciiIdentifier name.toList = true)
    (hbinders : ∀ name ∈ keywords, isBinder name.toList = true) (hdistinct : keywords.Nodup) :
    areKeywords (keywords.map some) = true := by
  have hnames : ((keywords.map some).filterMap id).map (fun name => trimGaps name.toList) =
      keywords.map String.toList := by
    rw [List.filterMap_map, Function.id_comp, List.filterMap_some]
    exact List.map_congr_left fun name hname =>
      trimGaps_of_isIdentifier (isIdentifier_of_isAsciiIdentifier (hascii name hname))
  have hfolded : (keywords.map String.toList).map folded = keywords.map String.toList := by
    rw [List.map_map]
    exact List.map_congr_left fun name hname => folded_of_isAsciiIdentifier (hascii name hname)
  rw [areKeywords, hnames, hfolded, Bool.and_eq_true, List.all_eq_true, decide_eq_true_iff]
  exact ⟨by simpa using hbinders, List.Pairwise.map _ (fun _ _ => mt String.toList_inj.mp) hdistinct⟩

theorem isValid_of_mem_moduleValid {body : List Stmt} {stmt : Stmt} (h : moduleValid body = true) (hmem : stmt ∈ body)
    (himport : ∀ source names, stmt ≠ .importNames source names) : stmt.isValid false = true := by
  induction body with
  | nil => cases hmem
  | cons first rest ih =>
    cases first with
    | importNames source names =>
      rw [moduleValid] at h
      split at h
      · rw [Bool.and_eq_true] at h
        exact ih h.2 ((List.mem_cons.mp hmem).resolve_left (himport source names))
      · exact bodyValid_iff.mp h stmt hmem
    | _ =>
      rw [moduleValid] at h
      · exact bodyValid_iff.mp h stmt hmem
      · exact fun _ _ _ => nofun

end Code

end ClientForge
