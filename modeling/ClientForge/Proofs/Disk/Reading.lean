import ClientForge.Proofs.Disk.Place
import ClientForge.Workspace

namespace ClientForge.Disk

variable {disk other : Disk} {path : Path}

theorem readText_congr {q : Path} (h : disk.resolve path = .ok q) (h' : other.resolve path = .ok q)
    (hat : disk.at? q = other.at? q) : disk.readText path = other.readText path := by
  rw [readText, readText, readBytes, readBytes, h, h']
  dsimp only
  rw [hat]

theorem readText_eq {bytes : List UInt8} {text : String} (hread : disk.readBytes path = .ok bytes)
    (htext : Text.Utf8.decode bytes = .ok text) :
    disk.readText path = .ok (String.ofList (Text.unifyNewlines text.toList)) := by
  rw [readText, hread]
  change (Text.Utf8.decode bytes).mapError _ >>= _ = _
  rw [htext]
  rfl

theorem file_of_readText {content : String} (h : disk.readText path = .ok content) :
    ∃ bytes, disk.find? path = some (.file bytes) := by
  obtain ⟨bytes, hbytes, -⟩ := bind_eq_ok.mp h
  rw [mapError_eq_ok, readBytes] at hbytes
  cases hresolve : disk.resolve path with
  | error kind =>
    rw [hresolve] at hbytes
    cases hbytes
  | ok q =>
    obtain rfl := resolve_eq_ok hresolve
    rw [hresolve] at hbytes
    dsimp only at hbytes
    split at hbytes
    · cases hbytes
    · cases hbytes
    · next found hfound => exact ⟨found, find?_eq_some.mpr ⟨hresolve, hfound⟩⟩

theorem readText_eq_error {failure : Failure} (h : disk.readText path = .error failure) :
    (∃ fault, failure = .disk fault) ∨ ∃ fault, failure = .encoding fault := by
  rcases bind_eq_error.mp h with hbytes | ⟨bytes, -, h⟩
  · obtain ⟨fault, -, rfl⟩ := mapError_eq_error.mp hbytes
    exact .inl ⟨fault, rfl⟩
  rcases bind_eq_error.mp h with htext | ⟨text, -, h⟩
  · obtain ⟨fault, -, rfl⟩ := mapError_eq_error.mp htext
    exact .inr ⟨fault, rfl⟩
  · cases h

end ClientForge.Disk
