import ClientForge.Proofs.Disk.Reading
import ClientForge.Proofs.Output.Delivery
import ClientForge.Proofs.Text.Utf8

namespace ClientForge

open Disk (Path place)

namespace Text

theorem return_not_mem_unifyNewlines (text : List Char) : '\r' ∉ unifyNewlines text := by
  fun_induction unifyNewlines text with
  | case1 => exact List.not_mem_nil
  | case2 rest ih => simpa using ih
  | case3 c rest _ ih =>
    rw [List.mem_cons, not_or]
    refine ⟨?_, ih⟩
    split
    · decide
    · next hc => exact Ne.symm hc

theorem unifyNewlines_of_not_mem {text : List Char} (h : '\r' ∉ text) : unifyNewlines text = text := by
  fun_induction unifyNewlines text with
  | case1 => rfl
  | case2 rest => exact absurd List.mem_cons_self h
  | case3 c rest _ ih =>
    rw [List.mem_cons, not_or] at h
    rw [if_neg (Ne.symm h.1), ih h.2]

end Text

namespace Output

variable {root source : Path} {marksPackages : Bool} {slot : Slot} {entries : List (Slot × String)}
  {names : List String} {w after : Workspace}

theorem place_ne_place_staging (target : Path) : place target ≠ place (staging target) := by
  have hstaging : place (staging target) = place target.dropLast ++ ["." ++ target.name ++ ".tmp"] := by
    rw [staging, Path.sibling, Disk.place_concat _ (hidden_ne_above _)]
  rw [hstaging]
  rcases List.eq_nil_or_concat target with rfl | ⟨front, last, rfl⟩
  · exact List.cons_ne_nil _ _ |>.symm
  rw [List.concat_eq_append, List.dropLast_concat, Path.name, List.getLast?_concat]
  by_cases hup : last = ".."
  · subst hup
    rw [place, Disk.placeFrom_append, ← place, Disk.placeFrom, if_pos rfl, Disk.placeFrom]
    intro h
    split at h
    · exact hidden_ne_above _ (List.singleton_inj.mp (List.append_cancel_left h)).symm
    · have hlength := congrArg List.length h
      rw [List.length_dropLast, List.length_append, List.length_singleton] at hlength
      omega
  · rw [Disk.place_concat front hup]
    intro h
    have hlast := congrArg (·.toList.length) (List.singleton_inj.mp (List.append_cancel_left h))
    have hend : ".tmp".toList.length = 4 := rfl
    simp only [String.toList_append, List.length_append] at hlast
    split at hlast
    · next hslash =>
      rw [hslash] at hlast
      revert hlast
      decide
    · omega

theorem find?_of_write {content name : String}
    (h : ((files root marksPackages).write slot content).run w = (.ok name, after)) :
    after.disk.find? (slot.target root) = some (.file (Text.Utf8.encode content.toList)) := by
  obtain ⟨names, hwrite⟩ := write_ok h
  obtain ⟨opened, -, hfiles⟩ := writeAll_eq_ok hwrite
  obtain ⟨hrun, -⟩ := writeFiles_ok hfiles
  have hapart : ∀ a ∈ targets root [(slot, content)], ∀ b ∈ targets root [(slot, content)],
      place a.1 ≠ place (staging b.1) := by
    simpa [targets] using place_ne_place_staging (slot.target root)
  obtain ⟨hreplaced, hresolve⟩ := stageAndReplace_ok (separate_of_ok hrun hapart) hrun
  have hmem : (slot.target root, content) ∈ targets root [(slot, content)] := List.mem_singleton_self _
  exact Disk.find?_eq_some.mpr ⟨hresolve _ hmem, hreplaced.content _ hmem⟩

/-- A copy writes the text of its source with every line break as a line feed. The target holds the bytes of the
source then exactly where there is no carriage return among them. -/
theorem copyFile_verbatim_iff {bytes : List UInt8} {text : String} (hread : w.disk.readBytes source = .ok bytes)
    (htext : Text.Utf8.decode bytes = .ok text) :
    let output := files root marksPackages
    let content := String.ofList (Text.unifyNewlines text.toList)
    (output.copyFile source slot).run w = (output.write slot content).run w ∧
      ∀ name after, (output.write slot content).run w = (.ok name, after) →
        after.disk.find? (slot.target root) = some (.file (Text.Utf8.encode content.toList)) ∧
          (after.disk.find? (slot.target root) = some (.file bytes) ↔ 13 ∉ bytes) := by
  intro output content
  constructor
  · rw [copyFile, run_bind_ok (run_get w), Disk.readText_eq hread htext]
  · intro name after h
    have hfind := find?_of_write h
    have hbytes : Text.Utf8.encode text.toList = bytes := Text.Utf8.encode_decode htext
    refine ⟨hfind, ?_⟩
    rw [hfind, Option.some.injEq, Node.file.injEq, String.toList_ofList]
    constructor
    · intro hsame
      rw [← hsame, Text.Utf8.return_mem_encode]
      exact Text.return_not_mem_unifyNewlines _
    · intro hfree
      rw [← hbytes, Text.Utf8.return_mem_encode] at hfree
      rw [Text.unifyNewlines_of_not_mem hfree, hbytes]

theorem copyFile_verbatim_marked :
    let bytes : List UInt8 := [0xEF, 0xBB, 0xBF, 0x0A, 0x41, 0xC3, 0xA9, 0xF0, 0x9F, 0x98, 0x80, 0x0A]
    let w : Workspace := .ofDisk ⟨[(["helper.py"], .file bytes)]⟩
    w.disk.readBytes ["helper.py"] = .ok bytes ∧ Text.Utf8.decode bytes = .ok "\uFEFF\nAé😀\n" ∧
      ∃ name after, ((files ["out"] true).copyFile ["helper.py"] ⟨["tests"], "conftest.py"⟩).run w = (.ok name, after) ∧
        after.disk.find? (Slot.target ["out"] ⟨["tests"], "conftest.py"⟩) = some (.file bytes) := by
  intro bytes w
  have hread : w.disk.readBytes ["helper.py"] = .ok bytes := by decide +kernel
  have htext : Text.Utf8.decode bytes = .ok "\uFEFF\nAé😀\n" := by decide +kernel
  have hok : (((files ["out"] true).copyFile ["helper.py"] ⟨["tests"], "conftest.py"⟩).run w).1.isOk = true := by
    decide +kernel
  have hfree : 13 ∉ bytes := by decide
  clear_value bytes w
  obtain ⟨hcopy, hwritten⟩ :=
    @copyFile_verbatim_iff ["out"] ["helper.py"] true ⟨["tests"], "conftest.py"⟩ w bytes _ hread htext
  rcases hrun : ((files ["out"] true).copyFile ["helper.py"] ⟨["tests"], "conftest.py"⟩).run w with ⟨_ | name, after⟩
  · rw [hrun] at hok
    cases hok
  · exact ⟨hread, htext, name, after, rfl, (hwritten name after (hcopy.symm.trans hrun)).2.mpr hfree⟩

theorem copyFile_loses_return :
    let w : Workspace := .ofDisk ⟨[(["helper.py"], .file [0x41, 0x0D, 0x0A])]⟩
    w.disk.readBytes ["helper.py"] = .ok [0x41, 0x0D, 0x0A] ∧
      Text.Utf8.decode [0x41, 0x0D, 0x0A] = .ok "A\r\n" ∧
      ∃ name after, ((files ["out"] true).copyFile ["helper.py"] ⟨[], "copy.py"⟩).run w = (.ok name, after) ∧
        after.disk.find? (Slot.target ["out"] ⟨[], "copy.py"⟩) = some (.file [0x41, 0x0A]) := by
  intro w
  have hread : w.disk.readBytes ["helper.py"] = .ok [0x41, 0x0D, 0x0A] := by decide +kernel
  have htext : Text.Utf8.decode [0x41, 0x0D, 0x0A] = .ok "A\r\n" := by decide +kernel
  have hok : (((files ["out"] true).copyFile ["helper.py"] ⟨[], "copy.py"⟩).run w).1.isOk = true := by decide +kernel
  have hheld : (((files ["out"] true).copyFile ["helper.py"] ⟨[], "copy.py"⟩).run w).2.disk.find?
      (Slot.target ["out"] ⟨[], "copy.py"⟩) = some (.file [0x41, 0x0A]) := by
    decide +kernel
  clear_value w
  rcases hrun : ((files ["out"] true).copyFile ["helper.py"] ⟨[], "copy.py"⟩).run w with ⟨_ | name, after⟩
  · rw [hrun] at hok
    cases hok
  · rw [hrun] at hheld
    exact ⟨hread, htext, name, after, rfl, hheld⟩

end Output

end ClientForge
