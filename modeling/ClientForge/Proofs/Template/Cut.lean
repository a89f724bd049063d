import ClientForge.Proofs.Template
import Mathlib.Data.List.Chain
import Mathlib.Data.List.Infix

namespace ClientForge

namespace Template

def IsName (name : List Char) : Prop :=
  name ≠ [] ∧ ∀ c ∈ name, Text.isWord c = true

def HasSlot (text : List Char) : Prop :=
  ∃ name, IsName name ∧ '\x7b' :: (name ++ ['\x7d']) <:+: text

end Template

namespace Piece

def IsText (piece : Piece) : Prop :=
  ∃ chars, piece = .text chars

def WellFormed : Piece → Prop
  | .text chars => chars ≠ [] ∧ ¬Template.HasSlot chars
  | .slot name => Template.IsName name.toList

end Piece

namespace Template

structure IsCut (text : List Char) (pieces : List Piece) : Prop where
  spelling : pieces.flatMap Piece.spelling = text
  wellFormed : ∀ piece ∈ pieces, piece.WellFormed
  apart : pieces.IsChain fun piece next => ¬(piece.IsText ∧ next.IsText)

variable {c : Char} {text chars more name : List Char} {pieces : List Piece}

theorem isWord_open : Text.isWord '\x7b' = false := by
  decide

theorem isWord_close : Text.isWord '\x7d' = false := by
  decide

theorem slotName?_eq_some : slotName? text = some name ↔ IsName name ∧ ∃ rest, text = name ++ '\x7d' :: rest := by
  constructor
  · intro h
    refine ⟨?_, _, slotName?_spelling h⟩
    simp only [slotName?] at h
    split at h
    · next hname =>
      cases h
      rw [Bool.and_eq_true, Bool.not_eq_true', List.isEmpty_eq_false_iff] at hname
      exact ⟨hname.1, fun c hc => List.mem_takeWhile_imp hc⟩
    · cases h
  · rintro ⟨⟨hne, hword⟩, rest, rfl⟩
    have htake : (name ++ '\x7d' :: rest).takeWhile Text.isWord = name := by
      rw [List.takeWhile_append_of_pos hword, List.takeWhile_cons_of_neg (by simp [isWord_close]), List.append_nil]
    simp [slotName?, htake, hne]

theorem not_hasSlot_nil : ¬HasSlot [] := by
  rintro ⟨name, -, hinfix⟩
  cases List.infix_nil.mp hinfix

theorem not_hasSlot_cons (hchars : ¬HasSlot chars) (hc : c = '\x7b' → slotName? (chars ++ more) = none) :
    ¬HasSlot (c :: chars) := by
  rintro ⟨name, hname, hinfix⟩
  rcases List.infix_cons_iff.mp hinfix with hprefix | hinfix
  · obtain ⟨hopen, rest, hrest⟩ := List.cons_prefix_cons.mp hprefix
    have hfound : slotName? (chars ++ more) = some name := by
      refine slotName?_eq_some.mpr ⟨hname, rest ++ more, ?_⟩
      rw [← hrest]
      simp
    rw [hc hopen.symm] at hfound
    cases hfound
  · exact hchars ⟨name, hname, hinfix⟩

theorem IsCut.slot (h : IsCut text pieces) (hname : IsName name) :
    IsCut ('\x7b' :: (name ++ '\x7d' :: text)) (.slot (String.ofList name) :: pieces) where
  spelling := by
    rw [List.flatMap_cons, h.spelling, Piece.spelling, String.toList_ofList]
    simp
  wellFormed := by
    rw [List.forall_mem_cons]
    refine ⟨?_, h.wellFormed⟩
    rwa [Piece.WellFormed, String.toList_ofList]
  apart := by
    refine h.apart.cons ?_
    rintro _ - ⟨⟨chars, hslot⟩, -⟩
    cases hslot

theorem consText_cases (c : Char) (pieces : List Piece) :
    ∃ chars rest, consText c pieces = .text (c :: chars) :: rest ∧
      (pieces = .text chars :: rest ∨ chars = [] ∧ rest = pieces ∧ ∀ piece ∈ pieces.head?, ¬piece.IsText) := by
  rcases pieces with _ | ⟨chars | name, rest⟩
  · exact ⟨[], [], rfl, .inr ⟨rfl, rfl, nofun⟩⟩
  · exact ⟨chars, rest, rfl, .inl rfl⟩
  · refine ⟨[], .slot name :: rest, rfl, .inr ⟨rfl, rfl, ?_⟩⟩
    rintro _ ⟨⟩ ⟨chars, h⟩
    cases h

theorem IsCut.consText (h : IsCut text pieces) (hc : c = '\x7b' → slotName? text = none) :
    IsCut (c :: text) (consText c pieces) := by
  obtain ⟨chars, rest, hcons, hcase⟩ := consText_cases c pieces
  refine ⟨by rw [spelling_consText, h.spelling], ?_, ?_⟩
  · rw [hcons, List.forall_mem_cons]
    rcases hcase with rfl | ⟨rfl, rfl, -⟩
    · obtain ⟨hfirst, hrest⟩ := List.forall_mem_cons.mp h.wellFormed
      rw [← h.spelling] at hc
      exact ⟨⟨List.cons_ne_nil _ _, not_hasSlot_cons hfirst.2 hc⟩, hrest⟩
    · exact ⟨⟨List.cons_ne_nil _ _, not_hasSlot_cons not_hasSlot_nil hc⟩, h.wellFormed⟩
  · rw [hcons]
    rcases hcase with rfl | ⟨rfl, rfl, hhead⟩
    · obtain ⟨hfirst, hrest⟩ := List.isChain_cons.mp h.apart
      exact hrest.cons fun piece hpiece hboth => hfirst piece hpiece ⟨⟨chars, rfl⟩, hboth.2⟩
    · exact h.apart.cons fun piece hpiece hboth => hhead piece hpiece hboth.2

theorem isCut_piecesFrom (text : List Char) (skip : ℕ) : IsCut (text.drop skip) (piecesFrom skip text) := by
  induction text generalizing skip with
  | nil =>
    rw [List.drop_nil, piecesFrom]
    exact ⟨rfl, List.forall_mem_nil _, .nil⟩
  | cons c rest ih =>
    cases skip with
    | succ skip => simpa only [piecesFrom, List.drop_succ_cons] using ih skip
    | zero =>
      have hrest := ih 0
      rw [List.drop_zero] at hrest ⊢
      rw [piecesFrom]
      split
      · next hc =>
        subst hc
        split
        · next name hname =>
          have hcut := (ih (name.length + 1)).slot (slotName?_eq_some.mp hname).1
          rwa [← slotName?_spelling hname] at hcut
        · next hname => exact hrest.consText fun _ => hname
      · next hc => exact hrest.consText fun h => absurd h hc

theorem piecesFrom_eq_drop (text : List Char) (skip : ℕ) : piecesFrom skip text = piecesFrom 0 (text.drop skip) := by
  induction text generalizing skip with
  | nil => rw [List.drop_nil, piecesFrom, piecesFrom]
  | cons c rest ih =>
    cases skip with
    | zero => rfl
    | succ skip => rw [piecesFrom, ih, List.drop_succ_cons]

theorem piecesFrom_slot (hname : IsName name) (text : List Char) :
    piecesFrom 0 ('\x7b' :: (name ++ '\x7d' :: text)) = .slot (String.ofList name) :: piecesFrom 0 text := by
  have hslot : slotName? (name ++ '\x7d' :: text) = some name := slotName?_eq_some.mpr ⟨hname, text, rfl⟩
  rw [piecesFrom, if_pos rfl, hslot]
  dsimp only
  rw [piecesFrom_eq_drop]
  simp

theorem slotName?_eq_none (h : ¬HasSlot ('\x7b' :: chars)) (hmore : ∀ c ∈ more.head?, c = '\x7b') :
    slotName? (chars ++ more) = none := by
  rw [Option.eq_none_iff_forall_ne_some]
  intro name hslot
  obtain ⟨hname, rest, heq⟩ := slotName?_eq_some.mp hslot
  rcases List.append_eq_append_iff.mp heq with ⟨tail, rfl, rfl⟩ | ⟨tail, rfl, htail⟩
  · cases tail with
    | nil => exact absurd (hmore _ rfl) (by decide)
    | cons c tail =>
      have hword := hname.2 c (by simp)
      rw [hmore c rfl, isWord_open] at hword
      cases hword
  · cases tail with
    | nil =>
      rw [List.nil_append] at htail
      subst htail
      exact absurd (hmore _ rfl) (by decide)
    | cons c tail =>
      obtain ⟨rfl, -⟩ := List.cons.inj htail
      refine h ⟨name, hname, [], tail, ?_⟩
      simp

theorem piecesFrom_text (h : ¬HasSlot chars) (hmore : ∀ c ∈ more.head?, c = '\x7b') :
    piecesFrom 0 (chars ++ more) = chars.foldr consText (piecesFrom 0 more) := by
  induction chars with
  | nil => rfl
  | cons c chars ih =>
    have hrest : ¬HasSlot chars := fun ⟨name, hname, hinfix⟩ => h ⟨name, hname, List.infix_cons hinfix⟩
    rw [List.cons_append, List.foldr_cons, ← ih hrest, piecesFrom]
    split
    · next hc =>
      subst hc
      rw [slotName?_eq_none h hmore]
    · rfl

theorem foldr_consText (hne : chars ≠ []) (h : ∀ piece ∈ pieces.head?, ¬piece.IsText) :
    chars.foldr consText pieces = .text chars :: pieces := by
  induction chars with
  | nil => exact absurd rfl hne
  | cons c chars ih =>
    rw [List.foldr_cons]
    cases chars with
    | nil =>
      rcases pieces with _ | ⟨chars | name, rest⟩
      · rfl
      · exact absurd ⟨chars, rfl⟩ (h _ rfl)
      · rfl
    | cons next chars => rw [ih (List.cons_ne_nil _ _), consText]

theorem IsCut.eq_piecesFrom (h : IsCut text pieces) : piecesFrom 0 text = pieces := by
  obtain ⟨rfl, hwhole, hapart⟩ := h
  induction pieces with
  | nil => rfl
  | cons piece rest ih =>
    obtain ⟨hpiece, hrest⟩ := List.forall_mem_cons.mp hwhole
    obtain ⟨hfirst, htail⟩ := List.isChain_cons.mp hapart
    have ih := ih hrest htail
    cases piece with
    | slot name =>
      have hslot := piecesFrom_slot hpiece (rest.flatMap Piece.spelling)
      rw [ih, String.ofList_toList] at hslot
      rw [List.flatMap_cons, Piece.spelling]
      simpa using hslot
    | text chars =>
      have hnext : ∀ piece ∈ rest.head?, ¬piece.IsText := fun piece hmem htext => hfirst piece hmem ⟨⟨chars, rfl⟩, htext⟩
      have hmore : ∀ c ∈ (rest.flatMap Piece.spelling).head?, c = '\x7b' := by
        rcases rest with _ | ⟨chars | name, rest⟩
        · simp
        · exact absurd ⟨chars, rfl⟩ (hnext _ rfl)
        · simp [Piece.spelling]
      rw [List.flatMap_cons, Piece.spelling, piecesFrom_text hpiece.2 hmore, ih, foldr_consText hpiece.1 hnext]

theorem isCut_iff {template : String} : IsCut template.toList pieces ↔ pieces = Template.pieces template := by
  constructor
  · intro h
    exact h.eq_piecesFrom.symm
  · rintro rfl
    exact isCut_piecesFrom template.toList 0

end Template

end ClientForge
