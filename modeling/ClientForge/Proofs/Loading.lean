import ClientForge.Proofs.Arguments
import ClientForge.Proofs.Json

namespace ClientForge

open Value (Distinct)

variable {document : Value} {entries : Entries Value} {name source : String} {definition : Definition}

theorem Definition.params_of_ofEntries (h : ofEntries name entries = .valid definition) :
    Value.fieldOr entries "params" [] paramsModel = .valid definition.params := by
  rw [ofEntries] at h
  split at h
  · cases h
  · simp only [Checked.seq_eq_valid, Checked.map_eq_valid] at h
    obtain ⟨_, extra, ⟨_, visibility, ⟨_, stability, ⟨_, body, ⟨_, params, ⟨_, routes, ⟨documentation, -, rfl⟩,
      -, rfl⟩, hparams, rfl⟩, -, rfl⟩, -, rfl⟩, -, rfl⟩, -, rfl⟩ := h
    exact hparams

namespace Arguments

theorem proper_of_checkEntries {params : Entries Parameter} {value : Value} (hvalue : Distinct value)
    (h : Value.checkEntries Parameter.ofValue value = .valid params) : Proper params := by
  obtain ⟨entries, rfl, hread⟩ := Value.checkEntries_eq_valid.mp h
  constructor
  · rw [keys_of_readParams (readParams_eq_ok.mpr hread)]
    exact (Value.distinct_object.mp hvalue).1
  · clear h hvalue
    induction hread with
    | nil => nofun
    | cons hfirst _ ih =>
      rw [List.forall_mem_cons]
      exact ⟨Parameter.isProper_of_ofValue hfirst.2, ih⟩

theorem proper_of_ofEntries (hentries : Distinct (.object entries))
    (h : Definition.ofEntries name entries = .valid definition) : Proper definition.params := by
  have hnil : Proper [] := ⟨List.nodup_nil, nofun⟩
  rcases Value.fieldOr_eq_valid.mp (Definition.params_of_ofEntries h) with ⟨-, hparams⟩ | ⟨value, hget, hread⟩
  · rw [← hparams]
    exact hnil
  · rw [Definition.paramsModel.eq_def] at hread
    split at hread
    · rw [← Checked.valid.inj hread]
      exact hnil
    · exact proper_of_checkEntries (hentries.of_get? hget) hread

theorem proper_of_ofDocument (hdocument : Distinct document)
    (h : Definition.ofDocument document source = .ok definition) : Proper definition.params := by
  rcases Definition.ofDocument_cases document source with ⟨name, entries, rfl⟩ | ⟨-, cause, herror⟩
  · simp only [Definition.ofDocument] at h
    split at h
    · next hread =>
      cases h
      exact proper_of_ofEntries ((Value.distinct_object.mp hdocument).2 _ List.mem_cons_self) hread
    · cases h
  · cases herror.symm.trans h

theorem proper_of_load {disk : Disk} {path : Disk.Path} (h : DefinitionFile.load disk path = .ok definition) :
    Proper definition.params := by
  obtain ⟨document, hdocument, h⟩ := bind_eq_ok.mp h
  obtain ⟨text, -, hread⟩ := bind_eq_ok.mp (mapError_eq_ok.mp hdocument)
  exact proper_of_ofDocument (Json.distinct_of_read (mapError_eq_ok.mp hread)) h

end Arguments

end ClientForge
