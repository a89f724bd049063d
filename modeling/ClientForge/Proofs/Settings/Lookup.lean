import ClientForge.Proofs.Disk.Reading
import ClientForge.Settings.Lookup

namespace ClientForge

open Disk (Path)

def Failure.IsValidation (failure : Failure) : Prop :=
  ∃ first others, failure = .invalid first others

namespace Text

end Text

namespace Settings

variable {readers : Readers} {disk : Disk} {path : Path} {failure : Failure} {tools : Value} {document : Entries Value}

theorem mem_lastSteps {odd : List (List String)} {key : String} : key ∈ lastSteps odd ↔ [key] ∈ odd := by
  rw [lastSteps, List.mem_filterMap]
  constructor
  · rintro ⟨steps, hsteps, hkey⟩
    split at hkey
    · cases hkey
      exact hsteps
    · cases hkey
  · intro h
    exact ⟨[key], h, rfl⟩

theorem validate_escapes {environment : Environment} {document : Yaml.Document} :
    validate environment document = .error failure ∧ ¬failure.IsValidation ↔
      failure = .unsuitable ∧ (∃ entries, document.value = .object entries) ∧ ∃ key, [key] ∈ document.oddKeys := by
  have hodd : (lastSteps document.oddKeys).isEmpty = false ↔ ∃ key, [key] ∈ document.oddKeys := by
    simp only [List.isEmpty_eq_false_iff_exists_mem, mem_lastSteps]
  have hissue (first : Issue) (others : List Issue) :
      ¬((.error (.invalid first others) : Except Failure Settings) = .error failure ∧ ¬failure.IsValidation) := by
    rintro ⟨⟨⟩, hother⟩
    exact hother ⟨first, others, rfl⟩
  rw [validate, ← hodd]
  split
  · next entries hvalue =>
    split
    · next hempty =>
      refine iff_of_false ?_ (by simp [hempty])
      split
      · exact hissue _ _
      · split
        · rintro ⟨⟨⟩, -⟩
        · exact hissue _ _
    · next hempty =>
      rw [Bool.not_eq_true] at hempty
      constructor
      · rintro ⟨⟨⟩, -⟩
        exact ⟨rfl, ⟨entries, hvalue⟩, hempty⟩
      · rintro ⟨rfl, -⟩
        refine ⟨rfl, ?_⟩
        rintro ⟨_, _, h⟩
        cases h
  · next hvalue =>
    refine iff_of_false (hissue _ _) ?_
    rintro ⟨-, ⟨entries, h⟩, -⟩
    exact hvalue entries h

end Settings

end ClientForge
