import ClientForge.Choice.Code
import ClientForge.Proofs.Except
import ClientForge.Proofs.Template.Cut

namespace ClientForge

namespace Code

def argumentOf (id : String) : String :=
  if id = "body" then id else String.ofList id.toList.tail

theorem argumentOf_localName (argument : String) : argumentOf (localName argument) = argument := by
  rw [localName]
  split
  · next h => rw [h, argumentOf, if_pos rfl]
  · have hmark : ("_" ++ argument).toList = '_' :: argument.toList := by simp
    have hne : "_" ++ argument ≠ "body" := by
      intro h
      rw [h] at hmark
      exact absurd (List.cons.inj hmark).1 (by decide)
    rw [argumentOf, if_neg hne, hmark, List.tail_cons, String.ofList_toList]

def FormatPart.spelling : FormatPart → List Char
  | .text chars => chars
  | .applied _ id => '\x7b' :: (argumentOf id).toList ++ ['\x7d']

def FormatPart.application? : FormatPart → Option (String × String)
  | .text _ => none
  | .applied function id => some (function, id)

def Expr.parts : Expr → List FormatPart
  | .constant (.text s) => [.text s.toList]
  | .formatted parts => parts
  | _ => []

end Code

namespace Template

open Code

variable {template name : String} {value? : String → Option String} {pieces : List Piece}

theorem fillPieces_eq_error :
    fillPieces value? pieces = .error name ↔ (slots pieces).find? (fun name => (value? name).isNone) = some name := by
  induction pieces with
  | nil => simp [fillPieces, slots]
  | cons piece rest ih =>
    cases piece with
    | text chars =>
      rw [fillPieces, except_map_eq_error, ih]
      rfl
    | slot slot =>
      have hslots : slots (.slot slot :: rest) = slot :: slots rest := rfl
      rw [fillPieces, hslots, List.find?_cons]
      cases value? slot with
      | none => simp
      | some value => rw [except_map_eq_error, ih]; rfl

theorem expand_eq_error :
    expand template value? = .error name ↔ (slotNames template).find? (fun name => (value? name).isNone) = some name := by
  rw [expand, except_map_eq_error, fillPieces_eq_error, ← slotNames, slotNames_strip]

theorem expand_slots (template : String) :
    expand template (fun name => some ("\x7b" ++ name ++ "\x7d")) = .ok (strip template) := by
  have hfilled : Piece.filled (fun name => "\x7b" ++ name ++ "\x7d") = Piece.spelling := by
    funext piece
    cases piece with
    | text chars => rfl
    | slot name => simp [Piece.filled, Piece.spelling]
  rw [expand_eq fun _ _ => rfl, fill, hfilled, Template.pieces, spelling_piecesFrom, List.drop_zero, String.ofList_toList]

theorem parts_code (template : String) :
    (code template).parts =
      if slotNames template = [] then [.text (strip template).toList] else formatParts (Template.pieces (strip template)) := by
  have hslots : slots (Template.pieces (strip template)) = slotNames template := slotNames_strip template
  simp only [code, hslots, List.isEmpty_iff]
  split <;> rfl

theorem spelling_formatParts (pieces : List Piece) :
    (formatParts pieces).flatMap FormatPart.spelling = pieces.flatMap Piece.spelling := by
  rw [formatParts, List.flatMap_map]
  congr 1
  funext piece
  cases piece with
  | text chars => rfl
  | slot name => rw [FormatPart.spelling, argumentOf_localName, Piece.spelling]

theorem applications_formatParts (pieces : List Piece) :
    (formatParts pieces).filterMap FormatPart.application? = (slots pieces).map fun name => ("listify", localName name) := by
  rw [formatParts, slots, List.filterMap_map, List.map_filterMap]
  congr 1
  funext piece
  cases piece <;> rfl

theorem spelling_code (template : String) :
    (code template).parts.flatMap FormatPart.spelling = (strip template).toList := by
  rw [parts_code]
  split
  · exact List.append_nil _
  · rw [spelling_formatParts, Template.pieces, spelling_piecesFrom, List.drop_zero]

theorem applications_code (template : String) :
    (code template).parts.filterMap FormatPart.application? =
      (slotNames template).map fun name => ("listify", localName name) := by
  rw [parts_code]
  split
  · next h =>
    rw [h]
    rfl
  · rw [applications_formatParts, ← slotNames, slotNames_strip]

theorem empty_not_mem_parts (h : slotNames template ≠ []) : .text [] ∉ (code template).parts := by
  rw [parts_code, if_neg h, formatParts, List.mem_map]
  rintro ⟨piece, hpiece, heq⟩
  have hwhole := (isCut_iff.mpr rfl).wellFormed piece hpiece
  cases piece with
  | text chars =>
    cases heq
    exact hwhole.1 rfl
  | slot name => cases heq

/-- A template is cut at each of its slots and at no other place, and whatever is made of it keeps all of it. Slashes at
its ends hide no slot; filling it fails for the first slot without a value, and only then; filled with its own slots it is
what it was, without the slashes; and its code spells just that, too, with the variables in the order of the slots and
no empty text among them. -/
theorem cut_loses_nothing (template : String) (value? : String → Option String) :
    (∀ cut, IsCut template.toList cut ↔ cut = Template.pieces template) ∧
      slotNames (strip template) = slotNames template ∧
      ((∃ name, expand template value? = .error name) ↔ ∃ name ∈ slotNames template, value? name = none) ∧
      (∀ name, expand template value? = .error name ↔
        value? name = none ∧
          ∃ before after, slotNames template = before ++ name :: after ∧ ∀ other ∈ before, value? other ≠ none) ∧
      expand template (fun name => some ("\x7b" ++ name ++ "\x7d")) = .ok (strip template) ∧
      (code template).parts.flatMap FormatPart.spelling = (strip template).toList ∧
      (code template).parts.filterMap FormatPart.application? =
        (slotNames template).map (fun name => ("listify", localName name)) ∧
      (slotNames template ≠ [] → .text [] ∉ (code template).parts) := by
  refine ⟨fun _ => isCut_iff, slotNames_strip template, ?_, ?_, expand_slots template, spelling_code template,
    applications_code template, empty_not_mem_parts⟩
  · simp only [expand_eq_error, ← Option.isSome_iff_exists, List.find?_isSome, Option.isNone_iff_eq_none]
  · intro name
    simp only [expand_eq_error, List.find?_eq_some_iff_append, Option.isNone_iff_eq_none, Bool.not_eq_true',
      Option.isNone_eq_false_iff, Option.isSome_iff_ne_none, exists_and_right]

example : Template.pieces "/\x7b\x7ba\x7d\x7b\x7d/\x7bb c\x7d\x7bd\x7d\x7be" =
    [.text "/\x7b".toList, .slot "a", .text "\x7b\x7d/\x7bb c\x7d".toList, .slot "d", .text "\x7be".toList] := by
  decide

end Template

end ClientForge
