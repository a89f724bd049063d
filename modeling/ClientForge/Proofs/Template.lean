import ClientForge.Template
import Mathlib.Data.List.DropRight

namespace ClientForge

def distinctFrom (seen names : List String) : List String :=
  names.foldl (fun seen name => if seen.contains name then seen else seen ++ [name]) seen

theorem distinctFrom_cons_of_mem {seen : List String} {name : String} (names : List String)
    (h : name ∈ seen) : distinctFrom seen (name :: names) = distinctFrom seen names := by
  simp [distinctFrom, h]

theorem distinctFrom_cons_of_not_mem {seen : List String} {name : String} (names : List String)
    (h : name ∉ seen) :
    distinctFrom seen (name :: names) = distinctFrom (seen ++ [name]) names := by
  simp [distinctFrom, h]

@[simp]
theorem mem_distinctFrom {seen names : List String} {name : String} :
    name ∈ distinctFrom seen names ↔ name ∈ seen ∨ name ∈ names := by
  induction names generalizing seen with
  | nil => simp [distinctFrom]
  | cons first rest ih =>
    by_cases h : first ∈ seen
    · rw [distinctFrom_cons_of_mem rest h, ih, List.mem_cons]
      constructor
      · rintro (hs | hr)
        · exact .inl hs
        · exact .inr (.inr hr)
      · rintro (hs | rfl | hr)
        · exact .inl hs
        · exact .inl h
        · exact .inr hr
    · rw [distinctFrom_cons_of_not_mem rest h, ih]
      simp [or_assoc]

theorem nodup_distinctFrom {seen : List String} (names : List String) (h : seen.Nodup) :
    (distinctFrom seen names).Nodup := by
  induction names generalizing seen with
  | nil => exact h
  | cons first rest ih =>
    by_cases hs : first ∈ seen
    · rw [distinctFrom_cons_of_mem rest hs]
      exact ih h
    · rw [distinctFrom_cons_of_not_mem rest hs]
      apply ih
      rw [List.nodup_append]
      refine ⟨h, by simp, ?_⟩
      intro a ha b hb
      rw [List.mem_singleton] at hb
      rintro rfl
      exact hs (hb ▸ ha)

def Piece.spelling : Piece → List Char
  | .text chars => chars
  | .slot name => '\x7b' :: name.toList ++ ['\x7d']

def Piece.filled (value : String → String) : Piece → List Char
  | .text chars => chars
  | .slot name => (value name).toList

namespace Template

theorem mem_signature {template name : String} :
    name ∈ signature template ↔ name ∈ slotNames template := by
  change name ∈ distinctFrom [] (slotNames template) ↔ _
  simp

theorem signature_eq_nil {template : String} : signature template = [] ↔ slotNames template = [] := by
  simp only [List.eq_nil_iff_forall_not_mem, mem_signature]

theorem slots_consText (c : Char) (pieces : List Piece) :
    slots (consText c pieces) = slots pieces := by
  rcases pieces with _ | ⟨_ | _, _⟩ <;> rfl

theorem spelling_consText (c : Char) (pieces : List Piece) :
    (consText c pieces).flatMap Piece.spelling = c :: pieces.flatMap Piece.spelling := by
  rcases pieces with _ | ⟨_ | _, _⟩ <;> rfl

theorem isWord_slash : Text.isWord '/' = false := by
  decide

theorem slotName?_append_slash (text : List Char) : slotName? (text ++ ['/']) = slotName? text := by
  have hname : (text ++ ['/']).takeWhile Text.isWord = text.takeWhile Text.isWord := by
    rw [List.takeWhile_append]
    split
    · next h =>
      have hall : text.takeWhile Text.isWord = text :=
        (List.takeWhile_sublist Text.isWord).eq_of_length h
      simp [isWord_slash, hall]
    · rfl
  have hlen : (text.takeWhile Text.isWord).length ≤ text.length :=
    (List.takeWhile_sublist Text.isWord).length_le
  simp only [slotName?, hname, List.drop_append_of_le_length hlen]
  cases text.drop (text.takeWhile Text.isWord).length <;> simp

theorem slotName?_spelling {text name : List Char} (h : slotName? text = some name) :
    text = name ++ '\x7d' :: text.drop (name.length + 1) := by
  simp only [slotName?] at h
  split at h
  · next hn =>
    cases h
    rw [Bool.and_eq_true, beq_iff_eq] at hn
    have htake : text.takeWhile Text.isWord = text.take (text.takeWhile Text.isWord).length :=
      List.prefix_iff_eq_take.mp (List.takeWhile_prefix Text.isWord)
    have hdrop := List.cons_head?_tail hn.2
    rw [List.tail_drop] at hdrop
    calc text = text.take (text.takeWhile Text.isWord).length ++
          text.drop (text.takeWhile Text.isWord).length := (List.take_append_drop _ text).symm
      _ = _ := by rw [← htake, ← hdrop]
  · cases h

theorem slots_piecesFrom_append_slash (text : List Char) (skip : ℕ) :
    slots (piecesFrom skip (text ++ ['/'])) = slots (piecesFrom skip text) := by
  induction text generalizing skip with
  | nil => cases skip <;> rfl
  | cons c rest ih =>
    cases skip with
    | succ skip => simpa only [List.cons_append, piecesFrom] using ih skip
    | zero =>
      simp only [List.cons_append, piecesFrom, slotName?_append_slash]
      split
      · cases slotName? rest with
        | none => simpa only [slots_consText] using ih 0
        | some name => exact congrArg (String.ofList name :: ·) (ih (name.length + 1))
      · simpa only [slots_consText] using ih 0

theorem slots_piecesFrom_dropWhile (text : List Char) :
    slots (piecesFrom 0 (text.dropWhile (· == '/'))) = slots (piecesFrom 0 text) := by
  induction text with
  | nil => rfl
  | cons c rest ih =>
    rw [List.dropWhile_cons]
    split
    · next h =>
      rw [beq_iff_eq] at h
      subst h
      have hp : piecesFrom 0 ('/' :: rest) = consText '/' (piecesFrom 0 rest) := rfl
      rw [ih, hp, slots_consText]
    · rfl

theorem slotNames_strip (template : String) : slotNames (strip template) = slotNames template := by
  have hends (text : List Char) :
      slots (piecesFrom 0 (text.rdropWhile (· == '/'))) = slots (piecesFrom 0 text) := by
    induction text using List.reverseRecOn with
    | nil => rfl
    | append_singleton front last ih =>
      rw [List.rdropWhile_concat]
      split
      · next h =>
        rw [beq_iff_eq] at h
        rw [ih, h, slots_piecesFrom_append_slash]
      · rfl
  have hstrip : (strip template).toList = (template.toList.dropWhile (· == '/')).rdropWhile (· == '/') := by
    simp [strip, Text.stripBy, List.rdropWhile]
  simp only [slotNames, pieces, hstrip, hends, slots_piecesFrom_dropWhile]

theorem spelling_piecesFrom (text : List Char) (skip : ℕ) :
    (piecesFrom skip text).flatMap Piece.spelling = text.drop skip := by
  induction text generalizing skip with
  | nil => simp [piecesFrom]
  | cons c rest ih =>
    cases skip with
    | succ skip => simpa only [piecesFrom, List.drop_succ_cons] using ih skip
    | zero =>
      have hplain := spelling_consText c (piecesFrom 0 rest)
      rw [ih 0, List.drop_zero] at hplain
      simp only [piecesFrom, List.drop_zero]
      split
      · next hc =>
        subst hc
        split
        · next name hname =>
          rw [List.flatMap_cons, ih (name.length + 1), Piece.spelling, String.toList_ofList]
          simpa using (slotName?_spelling hname).symm
        · exact hplain
      · exact hplain

theorem fillPieces_eq {value? : String → Option String} {value : String → String}
    {pieces : List Piece} (h : ∀ name ∈ slots pieces, value? name = some (value name)) :
    fillPieces value? pieces = .ok (pieces.flatMap (Piece.filled value)) := by
  induction pieces with
  | nil => rfl
  | cons piece rest ih =>
    cases piece with
    | text chars =>
      rw [fillPieces, ih h]
      rfl
    | slot name =>
      rw [fillPieces, h name (by simp [slots]), ih fun other ho => h other (by simp_all [slots])]
      rfl

def fill (value : String → String) (template : String) : String :=
  String.ofList ((pieces (strip template)).flatMap (Piece.filled value))

theorem expand_eq {template : String} {value? : String → Option String} {value : String → String}
    (h : ∀ name ∈ slotNames template, value? name = some (value name)) :
    expand template value? = .ok (fill value template) := by
  have hslots : ∀ name ∈ slots (pieces (strip template)), value? name = some (value name) := by
    intro name hname
    apply h
    rwa [← slotNames_strip]
  rw [expand, fillPieces_eq hslots]
  rfl

theorem filled_eq_spelling {pieces : List Piece} (value : String → String) (h : slots pieces = []) :
    pieces.flatMap (Piece.filled value) = pieces.flatMap Piece.spelling := by
  induction pieces with
  | nil => rfl
  | cons piece rest ih =>
    cases piece with
    | text chars =>
      rw [List.flatMap_cons, List.flatMap_cons, ih h]
      rfl
    | slot name => cases h

theorem fill_of_slots_eq_nil {template : String} (value : String → String)
    (h : slots (pieces (strip template)) = []) : fill value template = strip template := by
  rw [fill, filled_eq_spelling value h, pieces, spelling_piecesFrom, List.drop_zero, String.ofList_toList]

theorem length_filled_le {value other : String → String}
    (h : ∀ name, (value name).length ≤ (other name).length) (pieces : List Piece) :
    (pieces.flatMap (Piece.filled value)).length ≤ (pieces.flatMap (Piece.filled other)).length := by
  induction pieces with
  | nil => exact le_rfl
  | cons piece rest ih =>
    rw [List.flatMap_cons, List.flatMap_cons, List.length_append, List.length_append]
    refine Nat.add_le_add ?_ ih
    cases piece with
    | text chars => exact le_rfl
    | slot name => simpa [Piece.filled, String.length_toList] using h name

theorem length_filled_lt {value other : String → String} {slot : String}
    (h : ∀ name, (value name).length ≤ (other name).length)
    (hslot : (value slot).length < (other slot).length) {pieces : List Piece}
    (hmem : slot ∈ slots pieces) :
    (pieces.flatMap (Piece.filled value)).length < (pieces.flatMap (Piece.filled other)).length := by
  induction pieces with
  | nil => cases hmem
  | cons piece rest ih =>
    rw [List.flatMap_cons, List.flatMap_cons, List.length_append, List.length_append]
    have hrest := length_filled_le h rest
    cases piece with
    | text chars => exact Nat.add_lt_add_left (ih hmem) _
    | slot name =>
      have hfirst : (Piece.filled value (.slot name)).length ≤ (Piece.filled other (.slot name)).length := by
        simpa [Piece.filled, String.length_toList] using h name
      rcases List.mem_cons.mp hmem with rfl | hrest
      · refine Nat.add_lt_add_of_lt_of_le ?_ hrest
        simpa [Piece.filled, String.length_toList] using hslot
      · exact Nat.add_lt_add_of_le_of_lt hfirst (ih hrest)

theorem fill_ne_fill {value other : String → String} {slot template : String}
    (h : ∀ name, (value name).length ≤ (other name).length)
    (hslot : (value slot).length < (other slot).length) (hmem : slot ∈ slotNames template) :
    fill value template ≠ fill other template := by
  rw [← slotNames_strip] at hmem
  intro heq
  have hlength := congrArg String.length heq
  simp only [fill, String.length_ofList] at hlength
  exact (length_filled_lt h hslot hmem).ne hlength

end Template

end ClientForge
