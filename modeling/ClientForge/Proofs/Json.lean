import ClientForge.Json.Reader
import ClientForge.Proofs.Except
import ClientForge.Proofs.Value.Overlay
import Mathlib.Data.Option.Basic

namespace ClientForge.Json

open Value (IsLeaf Distinct)

variable {text rest : List Char} {value : Value} {entries : Entries Value}

theorem isLeaf_of_word (h : word? text = some (value, rest)) : value.IsLeaf := by
  obtain ⟨⟨word, found⟩, hword, hfound⟩ := List.exists_of_findSome?_eq_some h
  have hleaf : ∀ p ∈ wordValues, p.2.IsLeaf := by
    simp [wordValues, IsLeaf]
  dsimp only at hfound
  split at hfound
  · cases hfound
    exact hleaf _ hword
  · cases hfound

theorem isLeaf_of_number (h : number? text = some (value, rest)) : value.IsLeaf := by
  unfold number? at h
  split at h
  extract_lets at h
  split at h
  · cases h
  · split at h
    split at h
    · cases h
      nofun
    · cases h
      nofun
    · cases h
      nofun

theorem isLeaf_of_readItems (fuel : Nat) (done : List Value) (text : List Char)
    (h : readItems fuel done text = .ok (value, rest)) : value.IsLeaf := by
  induction fuel generalizing done text with
  | zero => 
    rw [readItems] at h
    cases h
  | succ fuel ih =>
    rw [readItems] at h
    obtain ⟨⟨found, more⟩, -, h⟩ := bind_eq_ok.mp h
    dsimp only at h
    split at h
    · cases h
      nofun
    · exact ih _ _ h
    · cases h

theorem distinct_ofPairs (h : ∀ p ∈ entries, Distinct p.2) : Distinct (.object (Entries.ofPairs entries)) := by
  have hnil : (Entries.keys ([] : Entries Value)).Nodup := List.nodup_nil
  apply Distinct.object (Entries.nodup_keys_putAll hnil entries)
  intro p hp
  exact h p ((Entries.mem_putAll hp).resolve_left List.not_mem_nil)

def ReadsDistinct (fuel : Nat) : Prop :=
  (∀ text value rest, readValue fuel text = .ok (value, rest) → Distinct value) ∧
    ∀ done text value rest, (∀ p ∈ done, Distinct p.2) → readEntries fuel done text = .ok (value, rest) → Distinct value

theorem readsDistinct (fuel : Nat) : ReadsDistinct fuel := by
  induction fuel with
  | zero =>
    constructor
    · intro text value rest h
      rw [readValue] at h
      cases h
    · intro done text value rest _ h
      rw [readEntries] at h
      cases h
  | succ fuel ih =>
    obtain ⟨ihvalue, ihentries⟩ := ih
    constructor
    · intro text value rest h
      rw [readValue.eq_def] at h
      dsimp only at h
      split at h
      · obtain ⟨⟨s, more⟩, -, h⟩ := bind_eq_ok.mp h
        cases h
        exact .leaf nofun
      · split at h
        · cases h
          exact .object List.nodup_nil nofun
        · exact ihentries [] _ _ _ (by simp) h
      · split at h
        · cases h
          exact .leaf nofun
        · exact .leaf (isLeaf_of_readItems _ _ _ h)
      · split at h
        · next found hfound =>
          cases h
          rcases (Option.orElse_eq_some _ _ _).mp hfound with hword | ⟨-, hnumber⟩
          · exact .leaf (isLeaf_of_word hword)
          · exact .leaf (isLeaf_of_number hnumber)
        · cases h
    · intro done text value rest hdone h
      rw [readEntries.eq_def] at h
      dsimp only at h
      split at h
      · obtain ⟨⟨key, more⟩, -, h⟩ := bind_eq_ok.mp h
        dsimp only at h
        split at h
        · obtain ⟨⟨found, more⟩, hfound, h⟩ := bind_eq_ok.mp h
          have hmore : ∀ p ∈ (String.ofList key, found) :: done, Distinct p.2 := by
            rw [List.forall_mem_cons]
            exact ⟨ihvalue _ _ _ hfound, hdone⟩
          dsimp only at h
          split at h
          · cases h
            apply distinct_ofPairs
            exact fun p hp => hmore p (List.mem_reverse.mp hp)
          · exact ihentries _ _ _ _ hmore h
          · cases h
        · cases h
      · cases h

theorem distinct_of_read {text : String} (h : read text = .ok value) : Distinct value := by
  simp only [read] at h
  split at h
  · next found hfound =>
    cases h
    rw [readDocument] at hfound
    split at hfound
    · cases hfound
    · obtain ⟨⟨found, rest⟩, hread, hfound⟩ := bind_eq_ok.mp hfound
      dsimp only at hfound
      split at hfound
      · cases hfound
        exact (readsDistinct _).1 _ _ _ hread
      · cases hfound
  · cases h

end ClientForge.Json
