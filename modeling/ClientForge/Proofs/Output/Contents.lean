import ClientForge.Proofs.Entries
import ClientForge.Proofs.Output.Success

namespace ClientForge.Output

open Disk (Path place)

def Holds (output : Output) (w : Workspace) (slot : Slot) (content : String) : Prop :=
  match output with
  | .memory => Entries.get? w.modules slot.key = some content
  | .files root _ => w.disk.find? (slot.target root) = some (.file (Text.Utf8.encode content.toList))

def nameOf (output : Output) (slot : Slot) : String :=
  match output with
  | .memory => slot.key
  | .files root _ => (slot.target root).text

theorem nameOf_injective {output : Output} {slot other : Slot} (h : slot.IsPlain) (hother : other.IsPlain)
    (hname : output.nameOf slot = output.nameOf other) : slot = other := by
  cases output with
  | memory => exact Slot.key_injective h hother hname
  | files root marksPackages => exact Slot.text_target_injective h hother hname

variable {output : Output} {entries : List (Slot × String)} {w after : Workspace}

def modulesOf (entries : List (Slot × String)) : Entries String :=
  entries.map fun entry => (entry.1.key, entry.2)

theorem run_writeAll_memory (entries : List (Slot × String)) (w : Workspace) :
    (writeAll .memory entries).run w =
      (.ok (entries.map (·.1.key)), { w with modules := Entries.putAll w.modules (modulesOf entries) }) := by
  induction entries generalizing w with
  | nil => rfl
  | cons entry rest ih =>
    obtain ⟨slot, content⟩ := entry
    have hfirst : (do modify fun w => { w with modules := Entries.put w.modules slot.key content }
                      return slot.key : Work String).run w =
        (.ok slot.key, { w with modules := Entries.put w.modules slot.key content }) := rfl
    have hrest := ih { w with modules := Entries.put w.modules slot.key content }
    rw [writeAll] at hrest ⊢
    rw [List.mapM_cons]
    exact (run_bind_ok hfirst _).trans (run_bind_ok hrest _)

theorem Proper.nodup_keys (h : Proper entries) : (Entries.keys (modulesOf entries)).Nodup := by
  have hmap : ((entries.map (·.1)).map Slot.key).Nodup := by
    apply h.nodup.map_on
    intro a ha b hb
    obtain ⟨first, hfirst, rfl⟩ := List.mem_map.mp ha
    obtain ⟨second, hsecond, rfl⟩ := List.mem_map.mp hb
    exact Slot.key_injective (h.plain first hfirst) (h.plain second hsecond)
  simpa [Entries.keys, modulesOf, Function.comp_def] using hmap

theorem Proper.key_not_mem (h : Proper entries) {slot : Slot} (hslot : slot.IsPlain)
    (hmem : slot ∉ entries.map (·.1)) : slot.key ∉ Entries.keys (modulesOf entries) := by
  intro hkey
  have hkeys : Entries.keys (modulesOf entries) = entries.map (·.1.key) := by
    simp [Entries.keys, modulesOf, Function.comp_def]
  rw [hkeys] at hkey
  obtain ⟨entry, hentry, heq⟩ := List.mem_map.mp hkey
  apply hmem
  rw [← Slot.key_injective (h.plain entry hentry) hslot heq]
  exact List.mem_map_of_mem hentry

theorem holds_of_writeAll {names : List String} (hproper : Proper entries)
    (h : (output.writeAll entries).run w = (.ok names, after)) :
    names = entries.map (fun entry => output.nameOf entry.1) ∧
      (∀ entry ∈ entries, output.Holds after entry.1 entry.2) ∧
      ∀ slot content, slot.IsPlain → slot.IsVisible → slot ∉ entries.map (·.1) →
        output.Holds w slot content → output.Holds after slot content := by
  cases output with
  | memory =>
    rw [run_writeAll_memory] at h
    cases h
    refine ⟨rfl, ?_, ?_⟩
    · intro entry hentry
      exact Entries.get?_putAll_of_mem hproper.nodup_keys (List.mem_map_of_mem hentry)
    · intro slot content hplain _ hmem hold
      rw [Holds, Entries.get?_putAll_of_not_mem (hproper.key_not_mem hplain hmem)]
      exact hold
  | files root marksPackages =>
    obtain ⟨hwritten, hnames⟩ := hproper.written h
    refine ⟨hnames, hwritten.content, ?_⟩
    intro slot content hplain hvisible hmem hold
    obtain ⟨hresolve, hat⟩ := Disk.find?_eq_some.mp hold
    refine Disk.find?_eq_some.mpr ⟨Disk.resolve_mono hwritten.directories hresolve, ?_⟩
    apply hwritten.others _ _ hat
    intro entry hentry
    have hentryPlain := hproper.plain entry hentry
    constructor
    · intro hplace
      apply hmem
      rw [Slot.place_target_injective hplain hentryPlain hplace]
      exact List.mem_map_of_mem hentry
    · intro hplace
      exact hvisible.ne_staged _
        (Slot.place_target_injective hplain (Slot.staged_isPlain hentryPlain) hplace)

theorem write_ok {slot : Slot} {content name : String}
    (h : (output.write slot content).run w = (.ok name, after)) :
    ∃ names, (output.writeAll [(slot, content)]).run w = (.ok names, after) := by
  obtain ⟨names, next, hwrite, hrest⟩ := run_bind_eq_ok.mp h
  cases hrest
  exact ⟨names, hwrite⟩

theorem copyFile_ok {source : Path} {slot : Slot} {name : String}
    (h : (output.copyFile source slot).run w = (.ok name, after)) :
    ∃ content, w.disk.readText source = .ok content ∧
      (output.write slot content).run w = (.ok name, after) := by
  rw [copyFile, run_bind_ok (run_get w)] at h
  split at h
  · next content hread => exact ⟨content, hread, h⟩
  · cases h
  · cases h

def reported (output : Output) (w : Workspace) : List String :=
  match output with
  | .memory => Entries.keys w.modules
  | .files _ _ => w.written

theorem reported_notes (output : Output) (w : Workspace) (disk : Disk) (notes : List Note) :
    output.reported { w with disk, notes } = output.reported w := by
  cases output <;> rfl

def SameWritten (w after : Workspace) : Prop :=
  after.written = w.written

theorem leads_openAll_written (root : Path) (marksPackages : Bool) (entries : List (Slot × String)) :
    Leads SameWritten (openAll root marksPackages entries) := by
  obtain ⟨step, hstep⟩ := local_openAll root marksPackages entries
  intro w
  rw [SameWritten, hstep]

theorem written_of_writeFiles {targets : List (Path × String)} {result : Except Failure (List String)}
    (h : (writeFiles targets).run w = (result, after)) : after.written = w.written ++ result.toOption.getD [] := by
  rw [writeFiles, run_bind_ok (run_get w)] at h
  rcases hrun : (stageAndReplace targets).run w.disk with ⟨stop | _, disk⟩
  · rw [hrun] at h
    dsimp only at h
    rw [run_bind_ok (run_set _ _), run_bind, Work.run_onDisk] at h
    cases hresult : ((stop.staged.forM Disk.unlink).run disk).1 <;>
    · dsimp only at h
      rw [hresult] at h
      cases h
      exact (List.append_nil _).symm
  · rw [hrun] at h
    cases h
    rfl

theorem mem_reported_of_writeAll {names : List String} {name : String}
    (h : (output.writeAll entries).run w = (.ok names, after)) :
    name ∈ output.reported after ↔
      name ∈ output.reported w ∨ ∃ slot ∈ entries.map (·.1), name = output.nameOf slot := by
  cases output with
  | memory =>
    rw [run_writeAll_memory] at h
    cases h
    rw [reported, Entries.mem_keys_putAll]
    simp [reported, Entries.keys, modulesOf, nameOf, eq_comm]
  | files root marksPackages =>
    obtain ⟨opened, hopen, hwrite⟩ := writeAll_eq_ok h
    have hopened := leads_openAll_written root marksPackages entries w
    rw [hopen] at hopened
    obtain ⟨-, rfl⟩ := writeFiles_ok hwrite
    rw [reported, written_of_writeFiles hwrite, hopened]
    simp [targets, Except.toOption, reported, nameOf, eq_comm]

theorem reported_of_writeAll_error {failure : Failure}
    (h : (output.writeAll entries).run w = (.error failure, after)) : output.reported after = output.reported w := by
  cases output with
  | memory =>
    rw [run_writeAll_memory] at h
    cases h
  | files root marksPackages =>
    have hopened := leads_openAll_written root marksPackages entries w
    rw [writeAll_files, run_bind] at h
    rcases hopen : (openAll root marksPackages entries).run w with ⟨_ | opening, opened⟩
    · rw [hopen] at h hopened
      cases h
      exact hopened
    · rw [hopen] at h hopened
      rw [reported, written_of_writeFiles h]
      exact (List.append_nil _).trans hopened

theorem reported_of_write_error {slot : Slot} {content : String} {failure : Failure}
    (h : (output.write slot content).run w = (.error failure, after)) : output.reported after = output.reported w := by
  rw [write, run_bind] at h
  rcases hwrite : (output.writeAll [(slot, content)]).run w with ⟨_ | names, next⟩
  · rw [hwrite] at h
    cases h
    exact reported_of_writeAll_error hwrite
  · rw [hwrite] at h
    cases h

theorem reported_of_copyFile_error {source : Path} {slot : Slot} {failure : Failure}
    (h : (output.copyFile source slot).run w = (.error failure, after)) :
    output.reported after = output.reported w := by
  rw [copyFile, run_bind_ok (run_get w)] at h
  split at h
  · exact reported_of_write_error h
  · cases h
    rfl
  · cases h
    rfl

end ClientForge.Output
