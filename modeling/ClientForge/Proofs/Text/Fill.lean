import ClientForge.Proofs.Text.Words
import ClientForge.Text.Fill
import Mathlib.Data.List.Chain

namespace ClientForge.Text

variable {layout : Layout} {started cuts : Bool} {room : Nat} {chunks taken rest lines : List (List Char)}

theorem isBlankChunk_iff {chunk : List Char} : isBlankChunk chunk = true ↔ ∀ c ∈ chunk, isBlank c = true :=
  List.all_eq_true

theorem takeFit_eq {line others : List (List Char)} (h : takeFit room chunks = (line, others)) :
    line ++ others = chunks ∧ line.flatten.length ≤ room ∧
      ∀ chunk ∈ others.head?, room < line.flatten.length + chunk.length := by
  induction chunks generalizing room line others with
  | nil =>
    cases h
    simp
  | cons chunk rest ih =>
    rw [takeFit] at h
    split at h
    · next hfits =>
      rcases htake : takeFit (room - chunk.length) rest with ⟨front, left⟩
      rw [htake] at h
      cases h
      obtain ⟨happend, hlength, hstops⟩ := ih htake
      rw [List.flatten_cons, List.length_append]
      refine ⟨congrArg (chunk :: ·) happend, by omega, fun last hlast => ?_⟩
      have hlong := hstops last hlast
      omega
    · next hlong =>
      cases h
      refine ⟨rfl, Nat.zero_le _, ?_⟩
      rintro _ ⟨⟩
      rw [List.flatten_nil, List.length_nil, Nat.zero_add]
      exact Nat.lt_of_not_le hlong

theorem lt_length_of_lastHyphen? {text : List Char} {i : Nat} (h : lastHyphen? text = some i) : i < text.length := by
  obtain ⟨j, hj, rfl⟩ := Option.map_eq_some_iff.mp h
  have hmem : j < text.reverse.length := (List.idxOf?_eq_some_iff.mp hj).1
  rw [List.length_reverse] at hmem
  omega

theorem cutPoint_le (room : Nat) (chunk : List Char) : cutPoint room chunk ≤ room := by
  rw [cutPoint]
  split
  · next i hi =>
    have hlength := lt_length_of_lastHyphen? hi
    rw [List.length_take] at hlength
    split <;> omega
  · exact Nat.le_refl _

theorem cutPoint_pos (hroom : 0 < room) (chunk : List Char) : 0 < cutPoint room chunk := by
  rw [cutPoint]
  split
  · split <;> omega
  · exact hroom

theorem dropBlankEnd_append (line : List (List Char)) :
    ∃ dropped, dropBlankEnd line ++ dropped = line ∧ ∀ chunk ∈ dropped, isBlankChunk chunk = true := by
  rcases List.eq_nil_or_concat line with rfl | ⟨front, last, rfl⟩
  · exact ⟨[], rfl, by simp⟩
  rw [List.concat_eq_append, dropBlankEnd, List.getLast?_concat]
  dsimp only
  split
  · next hblank => exact ⟨[last], by rw [List.dropLast_concat], by simpa using hblank⟩
  · exact ⟨[], List.append_nil _, by simp⟩

structure Takes (cuts : Bool) (chunks taken rest : List (List Char)) : Prop where
  text : taken.flatten ++ rest.flatten = chunks.flatten
  whole : cuts = false → taken ++ rest = chunks

theorem takes_append (cuts : Bool) (taken rest : List (List Char)) : Takes cuts (taken ++ rest) taken rest :=
  ⟨List.flatten_append.symm, fun _ => rfl⟩

theorem takes_part (taken rest : List (List Char)) (chunk : List Char) (cut : Nat) :
    Takes true (taken ++ chunk :: rest) (taken ++ [chunk.take cut]) (chunk.drop cut :: rest) := by
  refine ⟨?_, nofun⟩
  rw [List.flatten_append, List.flatten_singleton, List.append_assoc, List.flatten_cons,
    ← List.append_assoc (chunk.take cut), List.take_append_drop, List.flatten_append, List.flatten_cons]

theorem Takes.trans {dropped : List (List Char)} (h : Takes cuts chunks (taken ++ dropped) rest) :
    Takes cuts chunks taken (dropped ++ rest) := by
  refine ⟨?_, fun hcuts => ?_⟩
  · rw [List.flatten_append, ← List.append_assoc, ← List.flatten_append, h.text]
  · rw [← List.append_assoc, h.whole hcuts]

def weight (chunks : List (List Char)) : Nat :=
  chunks.length + chunks.flatten.length

theorem nextLine_takes (cuts : Bool) (hroom : 0 < room) (hne : chunks ≠ []) :
    ∃ taken, (nextLine cuts room chunks).1 = dropBlankEnd taken ∧ Takes cuts chunks taken (nextLine cuts room chunks).2 ∧
      (taken.flatten.length ≤ room ∨ cuts = false ∧ ∃ chunk, taken = [chunk]) ∧
      weight (nextLine cuts room chunks).2 < weight chunks := by
  rw [nextLine]
  rcases htake : takeFit room chunks with ⟨line, _ | ⟨chunk, rest⟩⟩
  · obtain ⟨happend, hfits, -⟩ := takeFit_eq htake
    obtain rfl : line = chunks := (List.append_nil line).symm.trans happend
    refine ⟨line, rfl, by simpa using takes_append cuts line [], .inl hfits, ?_⟩
    exact Nat.add_pos_left (List.length_pos_iff.mpr hne) _
  · obtain ⟨rfl, hfits, hstops⟩ := takeFit_eq htake
    replace hstops := hstops chunk rfl
    have hlighter (hline : line ≠ []) (part : List Char) (hpart : part.length ≤ chunk.length) :
        weight (part :: rest) < weight (line ++ chunk :: rest) := by
      have hpos := List.length_pos_iff.mpr hline
      simp only [weight, List.length_append, List.length_cons, List.flatten_append, List.flatten_cons]
      omega
    dsimp only
    split
    · next hshort =>
      have hline : line ≠ [] := by
        rintro rfl
        rw [List.flatten_nil, List.length_nil] at hstops
        omega
      exact ⟨line, rfl, takes_append cuts line _, .inl hfits, hlighter hline chunk (Nat.le_refl _)⟩
    next hlong =>
    split
    · next hcuts =>
      subst hcuts
      have hcut := cutPoint_le (room - line.flatten.length) chunk
      have hpos : line = [] → 0 < cutPoint (room - line.flatten.length) chunk := by
        rintro rfl
        exact cutPoint_pos (by simpa using hroom) chunk
      generalize cutPoint (room - line.flatten.length) chunk = cut at hcut hpos
      refine ⟨line ++ [chunk.take cut], rfl, takes_part line rest chunk cut, .inl ?_, ?_⟩
      · simp only [List.flatten_append, List.flatten_singleton, List.length_append, List.length_take]
        omega
      · by_cases hline : line = []
        · replace hpos := hpos hline
          subst hline
          simp only [weight, List.nil_append, List.length_cons, List.flatten_cons, List.length_append, List.length_drop]
          omega
        · exact hlighter hline _ (by simp)
    next hwhole =>
    rw [Bool.not_eq_true] at hwhole
    split
    · next hempty =>
      obtain rfl : line = [] := by simpa using hempty
      refine ⟨[chunk], rfl, takes_append cuts [chunk] rest, .inr ⟨hwhole, chunk, rfl⟩, ?_⟩
      simp only [weight, List.nil_append, List.length_cons, List.flatten_cons, List.length_append]
      omega
    · next hline =>
      exact ⟨line, rfl, takes_append cuts line _, .inl hfits, hlighter (by simpa using hline) chunk (Nat.le_refl _)⟩

namespace Layout

def indent (layout : Layout) (started : Bool) : List Char :=
  if started then layout.restIndent else layout.firstIndent

def Fits (layout : Layout) (started : Bool) (line : List (List Char)) : Prop :=
  (layout.indent started ++ line.flatten).length ≤ layout.width ∨
    layout.cutsChunks = false ∧ ∃ chunk, line = [chunk] ∧ isBlankChunk chunk = false

end Layout

/-- How chunks are set in lines: they go to one line after the other, and between the lines blanks may be dropped. -/
inductive Filled (layout : Layout) : Bool → List (List Char) → List (List Char) → Prop
  | nil (started : Bool) : Filled layout started [] []
  | drop {started : Bool} {chunks dropped rest lines : List (List Char)} : Takes layout.cutsChunks chunks dropped rest →
      (∀ chunk ∈ dropped, isBlankChunk chunk = true) → Filled layout started rest lines → Filled layout started chunks lines
  | line {started : Bool} {chunks taken rest lines : List (List Char)} : Takes layout.cutsChunks chunks taken rest →
      layout.Fits started taken → Filled layout true rest lines →
      Filled layout started chunks ((layout.indent started ++ taken.flatten) :: lines)

theorem filled_nextLine (hroom : (layout.indent started).length < layout.width) {fuel : Nat}
    (hrest : ∀ started rest, weight rest ≤ fuel → Filled layout started rest (fillFrom layout started fuel rest))
    (chunks : List (List Char)) (hfuel : weight chunks ≤ fuel + 1) :
    let next := nextLine layout.cutsChunks (layout.width - (layout.indent started).length) chunks
    Filled layout started chunks (if next.1.isEmpty then fillFrom layout started fuel next.2
      else (layout.indent started ++ next.1.flatten) :: fillFrom layout true fuel next.2) := by
  intro next
  by_cases hne : chunks = []
  · subst hne
    exact hrest started [] (Nat.zero_le _)
  obtain ⟨taken, hline, htakes, hfits, hweight⟩ :=
    nextLine_takes layout.cutsChunks (Nat.sub_pos_of_lt hroom) hne
  obtain ⟨dropped, hdropped, hblank⟩ := dropBlankEnd_append taken
  change next.1 = _ at hline
  have hnext : weight next.2 ≤ fuel := Nat.le_of_lt_succ (Nat.lt_of_lt_of_le hweight hfuel)
  rw [← hline] at hdropped
  subst hdropped
  split
  · next hempty =>
    rw [List.isEmpty_iff.mp hempty, List.nil_append] at htakes
    exact .drop htakes hblank (hrest started next.2 hnext)
  · next hempty =>
    rw [List.isEmpty_iff] at hempty
    refine .line htakes.trans ?_ (.drop (takes_append _ dropped next.2) hblank (hrest true next.2 hnext))
    rcases hfits with hfits | ⟨hwhole, chunk, hsingle⟩
    · left
      rw [List.flatten_append, List.length_append] at hfits
      rw [List.length_append]
      omega
    · right
      rw [hsingle, dropBlankEnd] at hline
      cases hchunk : isBlankChunk chunk with
      | true => exact absurd (by simpa [hchunk] using hline) hempty
      | false => exact ⟨hwhole, chunk, by simpa [hchunk] using hline, hchunk⟩

theorem filled_fillFrom (hroom : ∀ started, (layout.indent started).length < layout.width) (fuel : Nat)
    (hfuel : weight chunks ≤ fuel) : Filled layout started chunks (fillFrom layout started fuel chunks) := by
  -- a line makes the chunks lighter even where it only cuts the first of them, so the fuel lasts
  induction fuel generalizing started chunks with
  | zero =>
    obtain rfl : chunks = [] := List.length_eq_zero_iff.mp (by rw [weight] at hfuel; omega)
    exact .nil started
  | succ fuel ih =>
    cases chunks with
    | nil => exact .nil started
    | cons chunk chunks =>
      have hnext := filled_nextLine (hroom started) fun started rest => ih
      by_cases hskip : (started && isBlankChunk chunk) = true
      · rw [fillFrom, if_pos hskip]
        rw [Bool.and_eq_true] at hskip
        have hlighter : weight chunks ≤ fuel + 1 := by
          simp only [weight, List.length_cons, List.flatten_cons, List.length_append] at hfuel ⊢
          omega
        exact .drop (takes_append _ [chunk] chunks) (by simpa using hskip.2) (hnext chunks hlighter)
      · rw [fillFrom, if_neg hskip]
        exact hnext (chunk :: chunks) hfuel

theorem filled_fill (hroom : ∀ started, (layout.indent started).length < layout.width) (chunks : List (List Char)) :
    Filled layout false chunks (fill layout chunks) :=
  filled_fillFrom hroom _ (Nat.le_refl _)

namespace Filled

theorem visible_eq (h : Filled layout started chunks lines) (hindent : ∀ started, visible (layout.indent started) = []) :
    visible lines.flatten = visible chunks.flatten := by
  induction h with
  | nil => rfl
  | drop htakes hblank _ ih =>
    have hdropped := visible_eq_nil_iff.mpr fun c hc => by
      obtain ⟨chunk, hchunk, hc⟩ := List.mem_flatten.mp hc
      exact isBlankChunk_iff.mp (hblank chunk hchunk) c hc
    rw [← htakes.text, visible_append, hdropped, List.nil_append, ih]
  | line htakes _ _ ih =>
    rw [← htakes.text, visible_append, List.flatten_cons, visible_append, visible_append, hindent, List.nil_append, ih]

theorem mem_chunks {c : Char} {line : List Char} (h : Filled layout started chunks lines) (hline : line ∈ lines)
    (hmem : c ∈ line) : (∃ started, c ∈ layout.indent started) ∨ c ∈ chunks.flatten := by
  induction h with
  | nil => cases hline
  | drop htakes _ _ ih =>
    rw [← htakes.text, List.mem_append]
    exact (ih hline).imp_right .inr
  | line htakes _ _ ih =>
    rw [← htakes.text, List.mem_append]
    rcases List.mem_cons.mp hline with rfl | hline
    · rcases List.mem_append.mp hmem with hindent | htaken
      · exact .inl ⟨_, hindent⟩
      · exact .inr (.inl htaken)
    · exact (ih hline).imp_right .inr

theorem indented (h : Filled layout started chunks lines) :
    (∀ line ∈ lines.head?, layout.indent started <+: line) ∧ ∀ line ∈ lines.tail, layout.restIndent <+: line := by
  induction h with
  | nil => simp
  | drop _ _ _ ih => exact ih
  | @line started _ _ _ lines _ _ _ ih =>
    refine ⟨?_, fun line hline => ?_⟩
    · rintro _ ⟨⟩
      exact List.prefix_append _ _
    · cases lines with
      | nil => cases hline
      | cons first others =>
        rcases List.mem_cons.mp hline with rfl | hline
        · exact ih.1 line rfl
        · exact ih.2 line hline

theorem indented_alike (h : Filled layout started chunks lines) (halike : layout.firstIndent = layout.restIndent) :
    ∀ line ∈ lines, layout.restIndent <+: line := by
  have hindent : layout.indent started = layout.restIndent := by
    cases started with
    | false => exact halike
    | true => rfl
  obtain ⟨hfirst, hrest⟩ := h.indented
  cases lines with
  | nil => exact nofun
  | cons first others =>
    rw [List.forall_mem_cons]
    exact ⟨hindent ▸ hfirst first rfl, hrest⟩

theorem length_le (h : Filled layout started chunks lines) : ∀ line ∈ lines, line.length ≤ layout.width ∨
    layout.cutsChunks = false ∧
      ∃ started, ∃ chunk ∈ chunks, line = layout.indent started ++ chunk ∧ isBlankChunk chunk = false := by
  induction h with
  | nil => exact nofun
  | drop htakes _ _ ih =>
    intro line hline
    refine (ih line hline).imp_right ?_
    rintro ⟨hwhole, started, chunk, hchunk, hlong⟩
    exact ⟨hwhole, started, chunk, htakes.whole hwhole ▸ List.mem_append_right _ hchunk, hlong⟩
  | @line started _ _ _ _ htakes hfits _ ih =>
    rw [List.forall_mem_cons]
    refine ⟨hfits.imp_right ?_, fun line hline => (ih line hline).imp_right ?_⟩
    · rintro ⟨hwhole, chunk, rfl, hseen⟩
      refine ⟨hwhole, started, chunk, ?_, by rw [List.flatten_singleton], hseen⟩
      rw [← htakes.whole hwhole]
      exact List.mem_append_left _ (List.mem_singleton_self chunk)
    · rintro ⟨hwhole, started, chunk, hchunk, hlong⟩
      exact ⟨hwhole, started, chunk, htakes.whole hwhole ▸ List.mem_append_right _ hchunk, hlong⟩

end Filled

def space : List Char := [' ']

structure Spaced (chunks : List (List Char)) : Prop where
  isUnbroken : ∀ chunk ∈ chunks, chunk = space ∨ IsUnbroken chunk
  apart : chunks.IsChain fun chunk next => chunk = space ∨ next = space

theorem isBlankChunk_eq_false {chunk : List Char} (h : IsUnbroken chunk) : isBlankChunk chunk = false := by
  obtain ⟨c, others, rfl⟩ := List.exists_cons_of_ne_nil h.1
  rw [isBlankChunk, List.all_cons, h.2 c List.mem_cons_self, Bool.false_and]

theorem Spaced.left {others : List (List Char)} (h : Spaced (chunks ++ others)) : Spaced chunks :=
  ⟨fun chunk hchunk => h.isUnbroken chunk (List.mem_append_left _ hchunk), (List.isChain_append.mp h.apart).1⟩

theorem Spaced.right {others : List (List Char)} (h : Spaced (others ++ chunks)) : Spaced chunks :=
  ⟨fun chunk hchunk => h.isUnbroken chunk (List.mem_append_right _ hchunk), (List.isChain_append.mp h.apart).2.1⟩

theorem words_flatten (h : Spaced chunks) : words chunks.flatten = chunks.filter fun chunk => !isBlankChunk chunk := by
  induction chunks with
  | nil => rfl
  | cons chunk rest ih =>
    have hrest := ih (Spaced.right (show Spaced ([chunk] ++ rest) from h))
    rcases h.isUnbroken chunk List.mem_cons_self with rfl | hword
    · rw [List.flatten_cons, space, List.singleton_append, words_cons_blank (by decide), hrest]
      rfl
    · rw [List.filter_cons, isBlankChunk_eq_false hword, ← hrest, List.flatten_cons]
      cases rest with
      | nil => simpa [words_nil] using words_of_isUnbroken hword
      | cons next rest =>
        rcases (List.isChain_cons_cons.mp h.apart).1 with rfl | rfl
        · cases hword.2 ' ' (List.mem_singleton_self _)
        · rw [List.flatten_cons, space, List.singleton_append, words_append_blank (by decide), words_of_isUnbroken hword,
            words_cons_blank (by decide)]
          rfl

theorem Spaced.cons_space {word : List Char} (h : Spaced chunks) (hword : IsUnbroken word) :
    Spaced (word :: space :: chunks) := by
  constructor
  · rw [List.forall_mem_cons, List.forall_mem_cons]
    exact ⟨.inr hword, .inl rfl, h.isUnbroken⟩
  · rw [List.isChain_cons_cons, List.isChain_cons]
    exact ⟨.inr rfl, fun _ _ => .inl rfl, h.apart⟩

theorem spaced_intersperse {parts : List (List Char)} (h : ∀ part ∈ parts, IsUnbroken part) :
    Spaced (parts.intersperse space) ∧ (parts.intersperse space).filter (fun chunk => !isBlankChunk chunk) = parts := by
  induction parts with
  | nil => exact ⟨⟨nofun, .nil⟩, rfl⟩
  | cons part rest ih =>
    rw [List.forall_mem_cons] at h
    have hpart := isBlankChunk_eq_false h.1
    cases rest with
    | nil => exact ⟨⟨by simpa using Or.inr h.1, .singleton part⟩, by simp [hpart]⟩
    | cons second rest =>
      obtain ⟨hspaced, hfilter⟩ := ih h.2
      rw [List.intersperse_cons_cons]
      refine ⟨hspaced.cons_space h.1, ?_⟩
      rw [List.filter_cons, hpart, List.filter_cons, hfilter]
      rfl

theorem Filled.words_eq (h : Filled layout started chunks lines) (hwhole : layout.cutsChunks = false)
    (hindent : ∀ started, ∀ c ∈ layout.indent started, isBlank c = true) (hspaced : Spaced chunks) :
    lines.flatMap words = chunks.filter fun chunk => !isBlankChunk chunk := by
  induction h with
  | nil => rfl
  | @drop _ _ dropped _ _ htakes hblank _ ih =>
    have hchunks := htakes.whole hwhole
    have hnone : (dropped.filter fun chunk => !isBlankChunk chunk) = [] := by
      rw [List.filter_eq_nil_iff]
      simpa using hblank
    rw [← hchunks] at hspaced ⊢
    rw [ih hspaced.right, List.filter_append, hnone, List.nil_append]
  | line htakes _ _ ih =>
    have hchunks := htakes.whole hwhole
    rw [← hchunks] at hspaced ⊢
    rw [List.flatMap_cons, ih hspaced.right, words_blanks_append (hindent _), words_flatten hspaced.left,
      List.filter_append]

end ClientForge.Text
