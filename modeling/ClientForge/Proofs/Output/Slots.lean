import ClientForge.Proofs.Disk.Plain
import ClientForge.Proofs.Output.WriteAll

namespace ClientForge.Slot

open Disk (Path place)

variable {root : Path} {slot other : Slot}

def parts (slot : Slot) : Path :=
  slot.directory ++ [slot.file]

theorem parts_injective (h : slot.parts = other.parts) : slot = other := by
  cases slot
  cases other
  simpa [parts] using List.append_inj' h rfl

def IsPlain (slot : Slot) : Prop :=
  ∀ part ∈ slot.parts, Path.IsPlain part

instance (slot : Slot) : Decidable slot.IsPlain :=
  inferInstanceAs (Decidable (∀ part ∈ slot.parts, Path.IsPlain part))

theorem isPlain_iff : slot.IsPlain ↔ (∀ part ∈ slot.directory, Path.IsPlain part) ∧ Path.IsPlain slot.file := by
  simp [IsPlain, parts, or_imp, forall_and]

theorem target_eq (h : slot.IsPlain) (root : Path) : slot.target root = root ++ slot.parts := by
  rw [isPlain_iff] at h
  rw [target, Path.foldl_join root h.1, Path.join_plain _ h.2, parts, List.append_assoc]

theorem place_target (h : slot.IsPlain) (root : Path) : place (slot.target root) = place root ++ slot.parts := by
  rw [target_eq h, Disk.place_append root h]

theorem join_key (h : slot.IsPlain) (root : Path) : root.join slot.key = slot.target root := by
  rw [target_eq h]
  exact Path.join_intercalate root h

theorem key_injective (h : slot.IsPlain) (hother : other.IsPlain) (hkey : slot.key = other.key) :
    slot = other := by
  apply parts_injective
  rw [← Path.ofString_intercalate h, ← Path.ofString_intercalate hother]
  exact congrArg Path.ofString hkey

theorem text_target_injective (h : slot.IsPlain) (hother : other.IsPlain)
    (htext : (slot.target root).text = (other.target root).text) : slot = other := by
  obtain ⟨front, hfront⟩ := Path.text_append root
  rw [target_eq h, target_eq hother, hfront _ (by simp [parts]) h, hfront _ (by simp [parts]) hother] at htext
  have hkey : Path.slash.intercalate slot.parts = Path.slash.intercalate other.parts := by simpa using htext
  exact key_injective h hother hkey

theorem place_target_injective (h : slot.IsPlain) (hother : other.IsPlain)
    (hplace : place (slot.target root) = place (other.target root)) : slot = other := by
  rw [place_target h, place_target hother] at hplace
  exact parts_injective (List.append_cancel_left hplace)

def staged (slot : Slot) : Slot :=
  ⟨slot.directory, "." ++ slot.file ++ ".tmp"⟩

theorem staged_isPlain (h : slot.IsPlain) : slot.staged.IsPlain := by
  rw [isPlain_iff] at h ⊢
  have hlong : 2 < slot.staged.file.toList.length := by
    simp only [staged, String.toList_append, List.length_append]
    have hend : ".tmp".toList.length = 4 := rfl
    omega
  have hne (text : String) (htext : text.toList.length ≤ 2) : slot.staged.file ≠ text := by
    intro heq
    rw [heq] at hlong
    omega
  refine ⟨h.1, hne _ (by decide), hne _ (by decide), hne _ (by decide), ?_⟩
  have hslash := h.2.no_slash
  simp [staged, hslash]

theorem staging_target (h : slot.IsPlain) (root : Path) :
    Output.staging (slot.target root) = slot.staged.target root := by
  have hfile : slot.file ≠ Path.slash := (isPlain_iff.mp h).2.ne_slash
  rw [target_eq (staged_isPlain h), target_eq h, Output.staging, parts, ← List.append_assoc, Path.sibling,
    Path.name, List.getLast?_concat, List.dropLast_concat]
  dsimp only
  rw [if_neg hfile, parts, ← List.append_assoc]
  rfl

theorem staged_injective (h : slot.staged = other.staged) : slot = other := by
  cases slot
  cases other
  simpa [staged] using h

def IsVisible (slot : Slot) : Prop :=
  slot.file.toList.head? ≠ some '.'

instance (slot : Slot) : Decidable slot.IsVisible :=
  inferInstanceAs (Decidable (slot.file.toList.head? ≠ some '.'))

theorem IsVisible.ne_staged (h : slot.IsVisible) (other : Slot) : slot ≠ other.staged := by
  rintro rfl
  exact h (by simp [staged])

end ClientForge.Slot
