import ClientForge.Arguments
import ClientForge.Proofs.Document
import ClientForge.Proofs.Except
import ClientForge.Proofs.Parameter

namespace ClientForge

namespace Arguments

open Value (overlay overlayAt IsLeaf IsObject)
open Parameter (AgreesOff Declared)

variable {params read : Entries Parameter} {entries corrections : Entries Value} {bad : BadCorrection} {name : String}
  {value entry : Value}

theorem readParams_eq_ok :
    readParams entries = .ok read ↔
      List.Forall₂ (fun p q => p.1 = q.1 ∧ Parameter.ofValue p.2 = .valid q.2) entries read := by
  induction entries generalizing read with
  | nil => cases read <;> simp [readParams]
  | cons first rest ih =>
    obtain ⟨name, value⟩ := first
    rw [readParams]
    cases hvalue : Parameter.ofValue value with
    | invalid issue others =>
      refine iff_of_false nofun ?_
      rintro (_ | ⟨⟨-, hread⟩, -⟩)
      cases hvalue.symm.trans hread
    | valid parameter =>
      rw [except_map_eq_ok]
      constructor
      · rintro ⟨others, hothers, rfl⟩
        exact .cons ⟨rfl, hvalue⟩ (ih.mp hothers)
      · rintro (_ | @⟨_, ⟨_, _⟩, _, others, ⟨rfl, hread⟩, hothers⟩)
        cases hvalue.symm.trans hread
        exact ⟨others, ih.mpr hothers, rfl⟩

theorem readParams_eq_error (h : readParams entries = .error bad) :
    ∃ before value after others, entries = before ++ (bad.name, value) :: after ∧
      (∀ p ∈ before, (Parameter.ofValue p.2).IsValid) ∧ Parameter.ofValue value = .invalid bad.issue others := by
  induction entries with
  | nil => cases h
  | cons first rest ih =>
    obtain ⟨name, value⟩ := first
    rw [readParams] at h
    cases hvalue : Parameter.ofValue value with
    | invalid issue others =>
      rw [hvalue] at h
      cases h
      exact ⟨[], value, rest, others, rfl, nofun, hvalue⟩
    | valid parameter =>
      rw [hvalue] at h
      obtain ⟨before, found, after, others, rfl, hbefore, hfound⟩ := ih (except_map_eq_error.mp h)
      refine ⟨(name, value) :: before, found, after, others, rfl, ?_, hfound⟩
      rw [List.forall_mem_cons]
      exact ⟨⟨parameter, hvalue⟩, hbefore⟩

theorem keys_of_readParams (h : readParams entries = .ok read) : Entries.keys read = Entries.keys entries := by
  rw [readParams_eq_ok] at h
  induction h with
  | nil => rfl
  | cons hfirst _ ih =>
    rw [Entries.keys] at ih
    simp only [Entries.keys, List.map_cons, hfirst.1, ih]

theorem get?_of_readParams (h : readParams entries = .ok read) (hget : Entries.get? entries name = some value) :
    ∃ parameter, Entries.get? read name = some parameter ∧ Parameter.ofValue value = .valid parameter := by
  rw [readParams_eq_ok] at h
  induction h with
  | nil => cases hget
  | @cons p q _ _ hfirst _ ih =>
    obtain ⟨hname, hread⟩ := hfirst
    rw [Entries.get?] at hget ⊢
    rw [← hname]
    by_cases hp : p.1 = name
    · rw [if_pos hp] at hget ⊢
      cases hget
      exact ⟨q.2, rfl, hread⟩
    · rw [if_neg hp] at hget ⊢
      exact ih hget

structure Proper (params : Entries Parameter) : Prop where
  nodup : (Entries.keys params).Nodup
  fields : ∀ p ∈ params, p.2.IsProper

def corrected (params : Entries Parameter) (name : String) (entry : Value) : Value :=
  overlayAt ((Entries.get? params name).map fun parameter => .object parameter.toEntries) entry

/-- A correction that leaves no parameter behind. -/
def Refused (params : Entries Parameter) (name : String) (entry : Value) : Prop :=
  ¬(corrected params name entry).IsObject Declared

def names (params : Entries Parameter) (corrections : Entries Value) : List String :=
  Entries.keys params ++ (Entries.keys corrections).filter fun name => name ∉ Entries.keys params

theorem refused_of_isLeaf (h : entry.IsLeaf) : Refused params name entry := by
  rw [Refused, corrected, Value.overlayAt_leaf _ h]
  rintro ⟨entries, rfl, -⟩
  exact h entries rfl

theorem keys_rawParams (params : Entries Parameter) : Entries.keys (rawParams params) = Entries.keys params := by
  rw [rawParams, Entries.keys, List.map_map]
  rfl

theorem get?_rawParams (params : Entries Parameter) (name : String) :
    Entries.get? (rawParams params) name =
      (Entries.get? params name).map fun parameter => .object parameter.toEntries :=
  Entries.get?_map (fun parameter : Parameter => Value.object parameter.toEntries) params name

theorem keys_overlay_rawParams (hcorrections : (Entries.keys corrections).Nodup) :
    Entries.keys (overlay (rawParams params) corrections) = names params corrections := by
  rw [Value.keys_overlay hcorrections, keys_rawParams, names]

theorem get?_of_correction (params : Entries Parameter) (hcorrections : (Entries.keys corrections).Nodup)
    (h : (name, entry) ∈ corrections) :
    Entries.get? (overlay (rawParams params) corrections) name = some (corrected params name entry) := by
  rw [Value.get?_overlay hcorrections, (Entries.get?_eq_some_iff hcorrections).mpr h, get?_rawParams, Option.map_some,
    Option.some_or, corrected]

theorem get?_of_no_correction (h : name ∉ Entries.keys corrections) :
    Entries.get? (overlay (rawParams params) corrections) name =
      (Entries.get? params name).map fun parameter => .object parameter.toEntries := by
  rw [Value.get?_overlay_of_not_mem h, get?_rawParams]

theorem ofValue_toEntries {parameter : Parameter} (h : parameter.IsProper) :
    Parameter.ofValue (.object parameter.toEntries) = .valid parameter :=
  Parameter.ofEntries_eq_valid.mpr h.reads_toEntries

theorem Proper.nodup_keys_overlay (h : Proper params) (hcorrections : (Entries.keys corrections).Nodup) :
    (Entries.keys (overlay (rawParams params) corrections)).Nodup := by
  apply Value.nodup_keys_overlay _ hcorrections
  rw [keys_rawParams]
  exact h.nodup

theorem Proper.eq_corrected (h : Proper params) (hcorrections : (Entries.keys corrections).Nodup)
    (hmem : (name, value) ∈ overlay (rawParams params) corrections) (hentry : (name, entry) ∈ corrections) :
    value = corrected params name entry := by
  rw [← Entries.get?_eq_some_iff (h.nodup_keys_overlay hcorrections),
    get?_of_correction params hcorrections hentry] at hmem
  exact (Option.some.inj hmem).symm

theorem Proper.isValid_iff (h : Proper params) (hcorrections : (Entries.keys corrections).Nodup)
    (hmem : (name, value) ∈ overlay (rawParams params) corrections) :
    (Parameter.ofValue value).IsValid ↔ ∀ entry, (name, entry) ∈ corrections → ¬Refused params name entry := by
  by_cases hname : name ∈ Entries.keys corrections
  · obtain ⟨⟨_, entry⟩, hentry, rfl⟩ := List.mem_map.mp hname
    rw [Definition.isValid_parameter]
    constructor
    · intro hdeclared other hother
      rw [Refused, not_not, ← h.eq_corrected hcorrections hmem hother]
      exact hdeclared
    · intro hall
      rw [h.eq_corrected hcorrections hmem hentry]
      exact not_not.mp (hall entry hentry)
  · rw [← Entries.get?_eq_some_iff (h.nodup_keys_overlay hcorrections), get?_of_no_correction hname] at hmem
    obtain ⟨parameter, hparameter, rfl⟩ := Option.map_eq_some_iff.mp hmem
    have hproper := h.fields _ (Entries.mem_of_get? hparameter)
    refine iff_of_true ⟨parameter, ofValue_toEntries hproper⟩ fun entry hentry => ?_
    exact absurd (List.mem_map_of_mem (f := Prod.fst) hentry) hname

theorem Proper.refused_of_error (h : Proper params) (hcorrections : (Entries.keys corrections).Nodup)
    (hbad : correct params corrections = .error bad) :
    ∃ before after entry others, names params corrections = before ++ bad.name :: after ∧
      (bad.name, entry) ∈ corrections ∧ Refused params bad.name entry ∧
      Parameter.ofValue (corrected params bad.name entry) = .invalid bad.issue others ∧
      ∀ p ∈ corrections, p.1 ∈ before → ¬Refused params p.1 p.2 := by
  obtain ⟨before, value, after, others, hmerged, hbefore, hvalue⟩ := readParams_eq_error hbad
  have hmem : (bad.name, value) ∈ overlay (rawParams params) corrections := by
    rw [hmerged]
    exact List.mem_append_right _ List.mem_cons_self
  have hrefused : ∃ entry, (bad.name, entry) ∈ corrections ∧ Refused params bad.name entry := by
    by_contra hnone
    have hvalid : (Parameter.ofValue value).IsValid := by
      rw [h.isValid_iff hcorrections hmem]
      exact fun entry hentry hrefused => hnone ⟨entry, hentry, hrefused⟩
    obtain ⟨parameter, hparameter⟩ := hvalid
    cases hvalue.symm.trans hparameter
  obtain ⟨entry, hentry, hrefused⟩ := hrefused
  refine ⟨Entries.keys before, Entries.keys after, entry, others, ?_, hentry, hrefused, ?_, ?_⟩
  · rw [← keys_overlay_rawParams hcorrections, hmerged, Entries.keys, List.map_append]
    rfl
  · rw [← h.eq_corrected hcorrections hmem hentry]
    exact hvalue
  · intro p hp hname
    obtain ⟨⟨_, found⟩, hfound, rfl⟩ := List.mem_map.mp hname
    have hmem : (p.1, found) ∈ overlay (rawParams params) corrections := by
      rw [hmerged]
      exact List.mem_append_left _ hfound
    exact (h.isValid_iff hcorrections hmem).mp (hbefore _ hfound) p.2 hp

theorem get?_of_correct (hread : correct params corrections = .ok read) (hcorrections : (Entries.keys corrections).Nodup)
    (h : (name, entry) ∈ corrections) :
    ∃ parameter, Entries.get? read name = some parameter ∧
      Parameter.ofValue (corrected params name entry) = .valid parameter :=
  get?_of_readParams hread (get?_of_correction params hcorrections h)

theorem Proper.exists_error_iff (h : Proper params) (hcorrections : (Entries.keys corrections).Nodup) :
    (∃ bad, correct params corrections = .error bad) ↔ ∃ p ∈ corrections, Refused params p.1 p.2 := by
  constructor
  · rintro ⟨bad, hbad⟩
    obtain ⟨-, -, entry, -, -, hentry, hrefused, -⟩ := h.refused_of_error hcorrections hbad
    exact ⟨_, hentry, hrefused⟩
  · rintro ⟨p, hp, hrefused⟩
    cases hread : correct params corrections with
    | error bad => exact ⟨bad, rfl⟩
    | ok read =>
      obtain ⟨parameter, -, hparameter⟩ := get?_of_correct hread hcorrections hp
      exact absurd (Definition.isValid_parameter.mp ⟨parameter, hparameter⟩) hrefused

theorem Proper.get?_of_not_named (h : Proper params) (hread : correct params corrections = .ok read)
    {p : String × Parameter} (hp : p ∈ params) (hname : p.1 ∉ Entries.keys corrections) :
    Entries.get? read p.1 = some p.2 := by
  have hget : Entries.get? (overlay (rawParams params) corrections) p.1 = some (.object p.2.toEntries) := by
    rw [get?_of_no_correction hname, (Entries.get?_eq_some_iff h.nodup).mpr hp, Option.map_some]
  obtain ⟨parameter, hparameter, hvalue⟩ := get?_of_readParams hread hget
  rw [ofValue_toEntries (h.fields p hp)] at hvalue
  rw [hparameter, Checked.valid.inj hvalue]

theorem Proper.agreesOff (h : Proper params) {old new : Parameter} {correction : Entries Value}
    (hold : (name, old) ∈ params) (hnew : Parameter.ofValue (corrected params name (.object correction)) = .valid new) :
    AgreesOff (Entries.keys correction) old new := by
  rw [corrected, (Entries.get?_eq_some_iff h.nodup).mpr hold, Option.map_some, Value.overlayAt_objects] at hnew
  exact (h.fields _ hold).agreesOff_of_overlay (Parameter.ofEntries_eq_valid.mp hnew)

/-- Corrections are refused only for what they make of the parameters they name, the first of them in the order of all
parameters is reported, and what they do not mention stays as it was declared. -/
theorem corrections_change_what_they_name (definition : Definition) (hparams : Proper definition.params)
    (hcorrections : (Entries.keys corrections).Nodup) :
    ((∃ bad, ofDefinition definition corrections = .error bad) ↔
      ∃ p ∈ corrections, Refused definition.params p.1 p.2) ∧
    (∀ name entry, IsLeaf entry → Refused definition.params name entry) ∧
    (∀ bad, ofDefinition definition corrections = .error bad →
      bad.failure =
        .configuration ("Invalid parameter override: " ++ bad.issue.kind.message) none (some bad.name) ∧
      ∃ before after entry others, names definition.params corrections = before ++ bad.name :: after ∧
        (bad.name, entry) ∈ corrections ∧ Refused definition.params bad.name entry ∧
        Parameter.ofValue (corrected definition.params bad.name entry) = .invalid bad.issue others ∧
        ∀ p ∈ corrections, p.1 ∈ before → ¬Refused definition.params p.1 p.2) ∧
    ∀ arguments, ofDefinition definition corrections = .ok arguments →
      Entries.keys arguments.params = names definition.params corrections ∧
      (∀ p ∈ definition.params, p.1 ∉ Entries.keys corrections → Entries.get? arguments.params p.1 = some p.2) ∧
      ∀ p ∈ corrections, ∃ parameter, Entries.get? arguments.params p.1 = some parameter ∧
        Parameter.ofValue (corrected definition.params p.1 p.2) = .valid parameter ∧
        ∀ old correction, (p.1, old) ∈ definition.params → p.2 = .object correction →
          AgreesOff (Entries.keys correction) old parameter := by
  simp only [ofDefinition, except_map_eq_error]
  refine ⟨hparams.exists_error_iff hcorrections, fun _ _ => refused_of_isLeaf, ?_, ?_⟩
  · intro bad hbad
    exact ⟨rfl, hparams.refused_of_error hcorrections hbad⟩
  · intro arguments harguments
    obtain ⟨read, hread, rfl⟩ := except_map_eq_ok.mp harguments
    refine ⟨?_, fun p => hparams.get?_of_not_named hread, ?_⟩
    · rw [← keys_overlay_rawParams hcorrections]
      exact keys_of_readParams hread
    · rintro ⟨name, entry⟩ hp
      obtain ⟨parameter, hparameter, hvalue⟩ := get?_of_correct hread hcorrections hp
      refine ⟨parameter, hparameter, hvalue, ?_⟩
      rintro old correction hold rfl
      exact hparams.agreesOff hold hvalue

theorem corrections_of_columns :
    let columns : Parameter := ⟨some "string", some "Columns", false, true, none, .null, [("since", .int 7)]⟩
    let verbose : Parameter := ⟨some "boolean", none, false, false, none, .bool false, []⟩
    let definition : Definition :=
      ⟨"cat.nodes", none, ⟨"/_cat/nodes", "GET", [], [], none, []⟩, [], [("h", columns), ("v", verbose)], none, none, none, []⟩
    let given : Entries Value := [("n", .object []), ("h", .object [("type", .text "list")])]
    let broken : Entries Value := [("v", .text "yes"), ("h", .object [("required", .int 2)])]
    Proper definition.params ∧ (Entries.keys given).Nodup ∧ (Entries.keys broken).Nodup ∧
      (∃ arguments, ofDefinition definition given = .ok arguments ∧
        Entries.keys arguments.params = ["h", "v", "n"] ∧ Entries.get? arguments.params "v" = some verbose ∧
        ∃ parameter, Entries.get? arguments.params "h" = some parameter ∧ parameter.type = some "list" ∧
          parameter.description = some "Columns") ∧
      ∃ bad, ofDefinition definition broken = .error bad ∧ bad.failure =
        .configuration "Invalid parameter override: Input should be a valid boolean, unable to interpret input" none
          (some "h") := by
  intro columns verbose definition given broken
  have hparams : Proper definition.params := ⟨by decide, by decide⟩
  have hgiven : (Entries.keys given).Nodup := by decide
  have hbroken : (Entries.keys broken).Nodup := by decide
  refine ⟨hparams, hgiven, hbroken, ?_, ?_⟩
  · obtain ⟨-, -, -, hok⟩ := corrections_change_what_they_name definition hparams hgiven
    obtain ⟨hkeys, hkept, hnamed⟩ := hok _ rfl
    refine ⟨_, rfl, hkeys, hkept ("v", verbose) (.tail _ (.head _)) (by decide), ?_⟩
    obtain ⟨parameter, hparameter, hread, hagrees⟩ := hnamed ("h", .object [("type", .text "list")]) (.tail _ (.head _))
    have hcolumns := hagrees columns [("type", .text "list")] (.head _) rfl
    refine ⟨parameter, hparameter, ?_, hcolumns.description (by decide)⟩
    cases hread
    rfl
  · obtain ⟨-, -, herror, -⟩ := corrections_change_what_they_name definition hparams hbroken
    obtain ⟨hfailure, -⟩ := herror ⟨"h", [.key "required"], .unreadableBool⟩ rfl
    exact ⟨_, rfl, hfailure⟩

end Arguments

end ClientForge
