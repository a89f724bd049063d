import ClientForge.Parameter
import ClientForge.Proofs.Text.Chunks
import ClientForge.Proofs.Text.Fill

namespace ClientForge

open Text (Layout Filled isBlank words visible)

theorem Text.lines_intercalate {texts : List String} (hne : texts ≠ []) (h : ∀ text ∈ texts, '\n' ∉ text.toList) :
    Text.lines ("\n".intercalate texts) = texts := by
  rw [lines, String.toList_intercalate]
  change (splitOn (· == '\n') (['\n'].intercalate _)).map String.ofList = texts
  rw [splitOn_intercalate (by simpa using hne)]
  · simp [Function.comp_def]
  · intro chars hchars
    obtain ⟨text, htext, rfl⟩ := List.mem_map.mp hchars
    exact h text htext

namespace Parameter

variable {parameter : Parameter} {name : String} {options : List Value} {layout : Layout}

def entryLayout : Layout :=
  ⟨docWidth, [], indent, false⟩

def optionsLayout : Layout :=
  ⟨docWidth, indent, indent, true⟩

theorem length_indent_lt (h : layout = entryLayout ∨ layout = optionsLayout) (started : Bool) :
    (layout.indent started).length < layout.width := by
  rcases h with rfl | rfl <;> cases started <;> decide

theorem isBlank_of_mem_indent (h : layout = entryLayout ∨ layout = optionsLayout) (started : Bool) :
    ∀ c ∈ layout.indent started, isBlank c = true := by
  have hblank : (layout.indent started).all isBlank = true := by
    rcases h with rfl | rfl <;> cases started <;> decide
  exact List.all_eq_true.mp hblank

theorem break_not_mem_line {chunks lines : List (List Char)} {line : List Char}
    (hlayout : layout = entryLayout ∨ layout = optionsLayout) (h : Filled layout false chunks lines)
    (hchunks : '\n' ∉ chunks.flatten) (hline : line ∈ lines) : '\n' ∉ line := by
  intro hmem
  rcases h.mem_chunks hline hmem with ⟨started, hindent⟩ | hchunk
  · revert hindent
    rcases hlayout with rfl | rfl <;> cases started <;> decide
  · exact hchunks hchunk

def entryChunks (name : String) (parameter : Parameter) : List (List Char) :=
  (words (docText name parameter).toList).intersperse Text.space

theorem toList_ofList_map (lines : List (List Char)) : (lines.map String.ofList).map String.toList = lines := by
  simp [Function.comp_def]

theorem filled_docLines (name : String) (parameter : Parameter) :
    Filled entryLayout false (entryChunks name parameter) ((docLines name parameter).map String.toList) := by
  rw [docLines, toList_ofList_map]
  exact Text.filled_fill (length_indent_lt (.inl rfl)) (entryChunks name parameter)

theorem filled_optionLines (h : parameter.options = some options) (hne : options ≠ []) :
    Filled optionsLayout false (Text.chunks (Text.flattenBreaks (optionsText options).toList))
      ((optionLines parameter).map String.toList) := by
  obtain ⟨first, rest, rfl⟩ := List.exists_cons_of_ne_nil hne
  rw [optionLines, h]
  dsimp only
  rw [toList_ofList_map]
  exact Text.filled_fill (length_indent_lt (.inr rfl)) _

theorem spaced_entryChunks (name : String) (parameter : Parameter) : Text.Spaced (entryChunks name parameter) :=
  (Text.spaced_intersperse fun _ => Text.isUnbroken_of_mem_words).1

theorem words_docLines (name : String) (parameter : Parameter) :
    (docLines name parameter).flatMap (fun line => words line.toList) = words (docText name parameter).toList := by
  have hwords := (filled_docLines name parameter).words_eq rfl (isBlank_of_mem_indent (.inl rfl))
    (spaced_entryChunks name parameter)
  rw [List.flatMap_map] at hwords
  rw [hwords, entryChunks, (Text.spaced_intersperse fun _ => Text.isUnbroken_of_mem_words).2]

theorem words_docText_ne_nil (name : String) (parameter : Parameter) : words (docText name parameter).toList ≠ [] := by
  have hword : words ":arg".toList = [":arg".toList] := by decide
  obtain ⟨rest, hrest⟩ : ∃ rest, docText name parameter = ":arg " ++ rest := by
    simp only [docText, String.append_assoc]
    exact ⟨_, rfl⟩
  have hspace : (":arg " ++ rest).toList = ":arg".toList ++ ' ' :: rest.toList := by
    rw [String.toList_append]
    rfl
  rw [hrest, hspace, Text.words_append_blank (by decide), hword]
  exact List.cons_ne_nil _ _

theorem docLines_ne_nil (name : String) (parameter : Parameter) : docLines name parameter ≠ [] := by
  intro hnone
  have hwords := words_docLines name parameter
  rw [hnone] at hwords
  exact words_docText_ne_nil name parameter hwords.symm

theorem break_not_mem_docLines {line : String} (h : line ∈ docLines name parameter) : '\n' ∉ line.toList := by
  refine break_not_mem_line (.inl rfl) (filled_docLines name parameter) ?_ (List.mem_map_of_mem h)
  intro hmem
  obtain ⟨chunk, hchunk, hbreak⟩ := List.mem_flatten.mp hmem
  rcases (spaced_entryChunks name parameter).isUnbroken chunk hchunk with rfl | hword
  · revert hbreak
    decide
  · cases hword.2 '\n' hbreak

theorem optionLines_of_empty (h : parameter.options = none ∨ parameter.options = some []) : optionLines parameter = [] := by
  rcases h with h | h <;> rw [optionLines, h]

theorem exists_options_of_mem {line : String} (h : line ∈ optionLines parameter) :
    ∃ options, parameter.options = some options ∧ options ≠ [] := by
  cases hoptions : parameter.options with
  | none =>
    rw [optionLines_of_empty (.inl hoptions)] at h
    cases h
  | some options =>
    refine ⟨options, rfl, ?_⟩
    rintro rfl
    rw [optionLines_of_empty (.inr hoptions)] at h
    cases h

theorem break_not_mem_optionLines {line : String} (h : line ∈ optionLines parameter) : '\n' ∉ line.toList := by
  obtain ⟨options, hoptions, hne⟩ := exists_options_of_mem h
  refine break_not_mem_line (.inr rfl) (filled_optionLines hoptions hne) ?_ (List.mem_map_of_mem h)
  rw [Text.flatten_chunks]
  exact Text.break_not_mem_flattenBreaks _

theorem docLine_fits {line : String} (h : line ∈ docLines name parameter) :
    line.length ≤ docWidth ∨ (words line.toList).length = 1 := by
  rw [← String.length_toList]
  refine ((filled_docLines name parameter).length_le _ (List.mem_map_of_mem h)).imp_right ?_
  rintro ⟨-, started, chunk, hchunk, hline, hseen⟩
  rcases (spaced_entryChunks name parameter).isUnbroken chunk hchunk with rfl | hword
  · cases hseen
  · rw [hline, Text.words_blanks_append (isBlank_of_mem_indent (.inl rfl) started), Text.words_of_isUnbroken hword,
      List.length_singleton]

theorem docLines_indented (name : String) (parameter : Parameter) :
    ∀ line ∈ (docLines name parameter).tail, indent <+: line.toList := by
  intro line hline
  have hindented := (filled_docLines name parameter).indented.2
  rw [← List.map_tail] at hindented
  exact hindented _ (List.mem_map_of_mem hline)

theorem optionLine_fits {line : String} (h : line ∈ optionLines parameter) :
    indent <+: line.toList ∧ line.length ≤ docWidth := by
  obtain ⟨options, hoptions, hne⟩ := exists_options_of_mem h
  have hfilled := filled_optionLines hoptions hne
  have hmem : line.toList ∈ (optionLines parameter).map String.toList := List.mem_map_of_mem h
  refine ⟨hfilled.indented_alike rfl _ hmem, ?_⟩
  rw [← String.length_toList]
  refine (hfilled.length_le _ hmem).resolve_right ?_
  rintro ⟨hcuts, -⟩
  cases hcuts

theorem visible_optionLines (h : parameter.options = some options) (hne : options ≠ []) :
    visible ((optionLines parameter).flatMap String.toList) = visible (optionsText options).toList := by
  have hindent (started : Bool) : visible (optionsLayout.indent started) = [] :=
    Text.visible_eq_nil_iff.mpr (isBlank_of_mem_indent (.inr rfl) started)
  rw [List.flatMap_def, (filled_optionLines h hne).visible_eq hindent, Text.flatten_chunks, Text.visible_flattenBreaks]

/-- The documentation holds the words of its entry in order and unbroken, in lines that are indented from the second
on and hold one word only where they are too long; then, in lines that are indented and never too long, all that can
be seen of the options. -/
theorem doc_keeps_text (name : String) (parameter : Parameter) :
    Text.lines (doc name parameter) = docLines name parameter ++ optionLines parameter ∧
      (docLines name parameter).flatMap (fun line => words line.toList) = words (docText name parameter).toList ∧
      (∀ line ∈ (docLines name parameter).tail, "    ".toList <+: line.toList) ∧
      (∀ line ∈ docLines name parameter, line.length ≤ 79 ∨ (words line.toList).length = 1) ∧
      (∀ line ∈ optionLines parameter, "    ".toList <+: line.toList ∧ line.length ≤ 79) ∧
      match parameter.options with
      | none | some [] => optionLines parameter = []
      | some options => visible ((optionLines parameter).flatMap String.toList) =
          visible ("(options: " ++ ", ".intercalate (options.map Value.display) ++ ")").toList := by
  refine ⟨?_, words_docLines name parameter, docLines_indented name parameter, fun line => docLine_fits,
    fun line => optionLine_fits, ?_⟩
  · rw [doc, Text.lines_intercalate (List.append_ne_nil_of_left_ne_nil (docLines_ne_nil name parameter) _)]
    intro line hline
    rcases List.mem_append.mp hline with hentry | hoptions
    · exact break_not_mem_docLines hentry
    · exact break_not_mem_optionLines hoptions
  · split
    · next h => exact optionLines_of_empty (.inl h)
    · next h => exact optionLines_of_empty (.inr h)
    · next options hne h => exact visible_optionLines h hne

end Parameter

end ClientForge
