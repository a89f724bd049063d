import ClientForge.Parameter
import ClientForge.Proofs.Checked
import ClientForge.Proofs.Value.Overlay

namespace ClientForge.Parameter

open Value (fieldOr others checkOptional checkText checkBool checkList overlay)

variable {entries : Entries Value} {parameter old new : Parameter}

structure Reads (entries : Entries Value) (parameter : Parameter) : Prop where
  type : fieldOr entries "type" none (checkOptional checkText) = .valid parameter.type
  description : fieldOr entries "description" none (checkOptional checkText) = .valid parameter.description
  required : fieldOr entries "required" false checkBool = .valid parameter.required
  deprecated : fieldOr entries "deprecated" false (fun value => .valid (deprecationFlag value)) = .valid parameter.deprecated
  options : fieldOr entries "options" none (checkOptional (checkList .valid)) = .valid parameter.options
  default : fieldOr entries "default" .null .valid = .valid parameter.default
  extra : others entries fields = parameter.extra

theorem ofEntries_eq_valid : ofEntries entries = .valid parameter ↔ Reads entries parameter := by
  simp only [ofEntries, Checked.seq_eq_valid, Checked.map_eq_valid]
  constructor
  · rintro ⟨_, extra, ⟨_, default, ⟨_, options, ⟨_, deprecated, ⟨_, required, ⟨_, description, ⟨type, htype, rfl⟩,
      hdescription, rfl⟩, hrequired, rfl⟩, hdeprecated, rfl⟩, hoptions, rfl⟩, hdefault, rfl⟩, hextra, rfl⟩
    exact ⟨htype, hdescription, hrequired, hdeprecated, hoptions, hdefault, Checked.valid.inj hextra⟩
  · intro h
    exact ⟨_, _, ⟨_, _, ⟨_, _, ⟨_, _, ⟨_, _, ⟨_, _, ⟨_, h.type, rfl⟩, h.description, rfl⟩, h.required, rfl⟩,
      h.deprecated, rfl⟩, h.options, rfl⟩, h.default, rfl⟩, congrArg _ h.extra, rfl⟩

def IsProper (parameter : Parameter) : Prop :=
  ∀ key ∈ Entries.keys parameter.extra, key ∉ fields

instance : Decidable parameter.IsProper :=
  inferInstanceAs (Decidable (∀ key ∈ Entries.keys parameter.extra, key ∉ fields))

theorem Reads.isProper (h : Reads entries parameter) : parameter.IsProper := by
  intro key hkey
  rw [← h.extra] at hkey
  obtain ⟨p, hp, rfl⟩ := List.mem_map.mp hkey
  simpa using (List.mem_filter.mp hp).2

theorem isProper_of_ofValue {value : Value} (h : ofValue value = .valid parameter) : parameter.IsProper := by
  obtain ⟨entries, rfl, hread⟩ := Value.checkModel_eq_valid.mp h
  exact (ofEntries_eq_valid.mp hread).isProper

def stated (parameter : Parameter) : Entries (Option Value) :=
  [("type", parameter.type.map .text),
   ("description", parameter.description.map .text),
   ("required", if parameter.required then some (.bool true) else none),
   ("deprecated", if parameter.deprecated then some (.bool true) else none),
   ("options", parameter.options.map .list),
   ("default", match parameter.default with
    | .null => none
    | value => some value)]

theorem keys_stated (parameter : Parameter) : Entries.keys parameter.stated = fields :=
  rfl

theorem toEntries_eq (parameter : Parameter) :
    parameter.toEntries = (parameter.stated.filterMap fun p => p.2.map (Prod.mk p.1)) ++ parameter.extra := by
  obtain ⟨type, description, required, deprecated, options, default, extra⟩ := parameter
  simp only [toEntries, stated, List.filterMap_eq_flatMap_toList, List.flatMap_cons, List.flatMap_nil, List.append_nil,
    List.append_assoc, Option.map_map]
  cases required <;> cases deprecated <;> cases default <;> rfl

theorem IsProper.get?_toEntries (h : parameter.IsProper) {key : String} (hkey : key ∈ fields) :
    Entries.get? parameter.toEntries key = (Entries.get? parameter.stated key).join := by
  have hnodup : (Entries.keys parameter.stated).Nodup := by
    rw [keys_stated]
    decide
  have hextra : Entries.get? parameter.extra key = none :=
    Entries.get?_eq_none_of_not_mem fun hmem => h key hmem hkey
  rw [toEntries_eq, Entries.get?_append, Entries.get?_filterMap hnodup, hextra, Option.or_none]

theorem IsProper.others_toEntries (h : parameter.IsProper) : others parameter.toEntries fields = parameter.extra := by
  rw [toEntries_eq, others, List.filter_append, List.filter_eq_nil_iff.mpr, List.filter_eq_self.mpr, List.nil_append]
  · intro p hp
    simpa using h _ (List.mem_map_of_mem hp)
  · intro p hp
    obtain ⟨field, hfield, hvalue⟩ := List.mem_filterMap.mp hp
    obtain ⟨value, -, rfl⟩ := Option.map_eq_some_iff.mp hvalue
    have hmem : field.1 ∈ fields := List.mem_map_of_mem (f := Prod.fst) hfield
    simpa using hmem

theorem IsProper.reads_toEntries (h : parameter.IsProper) : Reads parameter.toEntries parameter where
  type := by
    rw [fieldOr, h.get?_toEntries (by decide)]
    cases htype : parameter.type <;> simp [stated, htype, Entries.get?, checkOptional, checkText, Checked.map]
  description := by
    rw [fieldOr, h.get?_toEntries (by decide)]
    cases hdescription : parameter.description <;>
      simp [stated, hdescription, Entries.get?, checkOptional, checkText, Checked.map]
  required := by
    rw [fieldOr, h.get?_toEntries (by decide)]
    cases hrequired : parameter.required <;> simp [stated, hrequired, Entries.get?, checkBool]
  deprecated := by
    rw [fieldOr, h.get?_toEntries (by decide)]
    cases hdeprecated : parameter.deprecated <;>
      simp [stated, hdeprecated, Entries.get?, deprecationFlag, Value.isTruthy]
  options := by
    rw [fieldOr, h.get?_toEntries (by decide)]
    cases hoptions : parameter.options <;>
      simp [stated, hoptions, Entries.get?, checkOptional, Value.checkList_valid, Checked.map]
  default := by
    rw [fieldOr, h.get?_toEntries (by decide)]
    cases hdefault : parameter.default <;> simp [stated, hdefault, Entries.get?]
  extra := h.others_toEntries

structure AgreesOff (keys : List String) (old new : Parameter) : Prop where
  type : "type" ∉ keys → new.type = old.type
  description : "description" ∉ keys → new.description = old.description
  required : "required" ∉ keys → new.required = old.required
  deprecated : "deprecated" ∉ keys → new.deprecated = old.deprecated
  options : "options" ∉ keys → new.options = old.options
  default : "default" ∉ keys → new.default = old.default
  extra : (new.extra.filter fun p => p.1 ∉ keys) = old.extra.filter fun p => p.1 ∉ keys

theorem fieldOr_overlay {α : Type} {check : Value → Checked α} {default a b : α} {key : String} {base upper : Entries Value}
    (hkey : key ∉ Entries.keys upper) (hbase : fieldOr base key default check = .valid a)
    (hmerged : fieldOr (overlay base upper) key default check = .valid b) : b = a := by
  rw [Value.fieldOr_congr (Value.get?_overlay_of_not_mem hkey), hbase] at hmerged
  exact (Checked.valid.inj hmerged).symm

theorem IsProper.agreesOff_of_overlay (h : old.IsProper) {correction : Entries Value}
    (hnew : Reads (overlay old.toEntries correction) new) : AgreesOff (Entries.keys correction) old new where
  type hkey := fieldOr_overlay hkey h.reads_toEntries.type hnew.type
  description hkey := fieldOr_overlay hkey h.reads_toEntries.description hnew.description
  required hkey := fieldOr_overlay hkey h.reads_toEntries.required hnew.required
  deprecated hkey := fieldOr_overlay hkey h.reads_toEntries.deprecated hnew.deprecated
  options hkey := fieldOr_overlay hkey h.reads_toEntries.options hnew.options
  default hkey := fieldOr_overlay hkey h.reads_toEntries.default hnew.default
  extra := by
    rw [← hnew.extra, ← h.others_toEntries, others, others, List.filter_comm, List.filter_comm _ _ old.toEntries]
    congr 1
    apply Value.filter_overlay fun key => key ∉ Entries.keys correction
    intro key hkey
    simpa using hkey

end ClientForge.Parameter
