import ClientForge.Proofs.Disk.Reading
import ClientForge.Proofs.Output.Contents

namespace ClientForge

open Disk (Path place)

def Disk.Path.Below (directory path : Path) : Prop :=
  ∃ part rest, Path.IsPlain part ∧ path = directory ++ part :: rest

theorem Slot.below_place {slot : Slot} (h : slot.IsPlain) (root : Path) :
    Path.Below (place root) (place (slot.target root)) := by
  rw [Slot.place_target h]
  cases hparts : slot.parts with
  | nil => simp [Slot.parts] at hparts
  | cons part rest => exact ⟨part, rest, h part (by rw [hparts]; exact List.mem_cons_self), rfl⟩

namespace Output

inductive Operation
  | write (slot : Slot) (content : String)
  | writeAll (entries : List (Slot × String))
  | copyFile (source : Path) (slot : Slot)

namespace Operation

def perform (output : Output) : Operation → Work Unit
  | write slot content => discard (output.write slot content)
  | writeAll entries => discard (output.writeAll entries)
  | copyFile source slot => discard (output.copyFile source slot)

def slots : Operation → List Slot
  | write slot _ => [slot]
  | writeAll entries => entries.map (·.1)
  | copyFile _ slot => [slot]

def sources : Operation → List Path
  | copyFile source _ => [source]
  | _ => []

def stores (disk : Disk) : Operation → Except Failure (List (Slot × String))
  | write slot content => .ok [(slot, content)]
  | writeAll entries => .ok entries
  | copyFile source slot => (disk.readText source).map fun content => [(slot, content)]

structure Proper (operation : Operation) : Prop where
  plain : ∀ slot ∈ operation.slots, slot.IsPlain
  visible : ∀ slot ∈ operation.slots, slot.IsVisible
  nodup : operation.slots.Nodup

instance (operation : Operation) : Decidable operation.Proper :=
  decidable_of_iff ((∀ slot ∈ operation.slots, slot.IsPlain) ∧ (∀ slot ∈ operation.slots, slot.IsVisible) ∧
      operation.slots.Nodup)
    ⟨fun ⟨h, h', h''⟩ => ⟨h, h', h''⟩, fun h => ⟨h.plain, h.visible, h.nodup⟩⟩

variable {operation : Operation} {output : Output} {w after : Workspace} {disk : Disk}
  {stored : List (Slot × String)}

theorem slots_of_stores (h : operation.stores disk = .ok stored) :
    stored.map (·.1) = operation.slots := by
  cases operation with
  | write slot content =>
    cases h
    rfl
  | writeAll entries =>
    cases h
    rfl
  | copyFile source slot =>
    obtain ⟨content, -, rfl⟩ := except_map_eq_ok.mp h
    rfl

theorem Proper.of_stores (hproper : operation.Proper) (h : operation.stores disk = .ok stored) :
    Output.Proper stored := by
  have hslots := slots_of_stores h
  refine ⟨?_, ?_, hslots ▸ hproper.nodup⟩
  · intro entry hentry
    exact hproper.plain _ (hslots ▸ List.mem_map_of_mem hentry)
  · intro entry hentry
    exact hproper.visible _ (hslots ▸ List.mem_map_of_mem hentry)

theorem perform_ok (h : (operation.perform output).run w = (.ok (), after)) :
    ∃ stored names, operation.stores w.disk = .ok stored ∧
      (output.writeAll stored).run w = (.ok names, after) := by
  cases operation with
  | write slot content =>
    obtain ⟨name, hwrite⟩ := discard_ok h
    obtain ⟨names, hwrite⟩ := write_ok hwrite
    exact ⟨_, names, rfl, hwrite⟩
  | writeAll entries =>
    obtain ⟨names, hwrite⟩ := discard_ok h
    exact ⟨_, names, rfl, hwrite⟩
  | copyFile source slot =>
    obtain ⟨name, hcopy⟩ := discard_ok h
    obtain ⟨content, hread, hwrite⟩ := copyFile_ok hcopy
    obtain ⟨names, hwrite⟩ := write_ok hwrite
    exact ⟨_, names, except_map_eq_ok.mpr ⟨content, hread, rfl⟩, hwrite⟩

theorem run_perform_memory (h : operation.stores w.disk = .ok stored) :
    (operation.perform .memory).run w =
      (.ok (), { w with modules := Entries.putAll w.modules (modulesOf stored) }) := by
  have hwrite (slot : Slot) (content : String) : (Output.memory.write slot content).run w =
      (.ok slot.key, { w with modules := Entries.putAll w.modules (modulesOf [(slot, content)]) }) :=
    run_bind_ok (run_writeAll_memory [(slot, content)] w) _
  cases operation with
  | write slot content =>
    cases h
    exact run_bind_ok (hwrite slot content) _
  | writeAll stored =>
    cases h
    exact run_bind_ok (run_writeAll_memory _ w) _
  | copyFile source slot =>
    obtain ⟨content, hread, rfl⟩ := except_map_eq_ok.mp h
    have hcopy : (Output.memory.copyFile source slot).run w = (Output.memory.write slot content).run w := by
      rw [Output.copyFile, run_bind_ok (run_get w), hread]
    exact run_bind_ok (hcopy.trans (hwrite slot content)) _

end Operation

variable {root : Path} {marksPackages : Bool} {start : Disk} {slots : List Slot} {w dry after : Workspace}
  {stored : List (Slot × String)} {names : List String}

/-- A workspace whose disk has below `root` what a dry run has in memory, and empty markers. -/
structure Mirrors (root : Path) (start : Disk) (slots : List Slot) (w dry : Workspace) : Prop where
  disk_eq : dry.disk = start
  outside : ∀ p bytes, ¬Path.Below (place root) p → w.disk.at? p = some (.file bytes) →
    start.at? p = some (.file bytes)
  holds : ∀ slot content, slot.IsPlain → slot.IsVisible → Output.memory.Holds dry slot content →
    (Output.files root false).Holds w slot content
  keys : ∀ key ∈ Entries.keys dry.modules, ∃ slot ∈ slots, slot.IsPlain ∧ slot.IsVisible ∧ key = slot.key
  files : ∀ p bytes, Path.Below (place root) p → w.disk.at? p = some (.file bytes) →
    (∃ slot : Slot, slot.IsPlain ∧ slot.key ∈ Entries.keys dry.modules ∧ p = place (slot.target root)) ∨
      bytes = [] ∧ ∃ slot ∈ slots, ∃ marker, Marks slot marker ∧ p = place (marker.target root)

theorem Marks.isPlain {slot marker : Slot} (h : Marks slot marker) (hplain : slot.IsPlain) :
    marker.IsPlain := by
  rw [Slot.isPlain_iff] at hplain ⊢
  refine ⟨fun part hpart => hplain.1 part (h.2.2.subset hpart), ?_⟩
  rw [h.1]
  constructor <;> decide

theorem Mirrors.writeAll (h : Mirrors root start slots w dry) (hproper : Proper stored)
    (hslots : ∀ entry ∈ stored, entry.1 ∈ slots)
    (hrun : (writeAll (.files root marksPackages) stored).run w = (.ok names, after)) :
    Mirrors root start slots after
      { dry with modules := Entries.putAll dry.modules (modulesOf stored) } := by
  obtain ⟨hwritten, -⟩ := hproper.written hrun
  obtain ⟨-, hstored, hothers⟩ := holds_of_writeAll hproper hrun
  constructor
  · exact h.disk_eq
  · intro p bytes hp hbytes
    rcases hwritten.files p bytes hbytes with ⟨entry, hentry, rfl⟩ | hold | ⟨-, entry, hentry, marker, hmarks, rfl⟩
    · exact absurd (Slot.below_place (hproper.plain entry hentry) root) hp
    · exact h.outside p bytes hp hold
    · exact absurd (Slot.below_place (hmarks.isPlain (hproper.plain entry hentry)) root) hp
  · intro slot content hplain hvisible hheld
    -- a slot that is written now has the new content in both, any other slot what it had
    by_cases hmem : slot ∈ stored.map (·.1)
    · obtain ⟨entry, hentry, rfl⟩ := List.mem_map.mp hmem
      have hkept : Entries.get? (Entries.putAll dry.modules (modulesOf stored)) entry.1.key = some entry.2 :=
        Entries.get?_putAll_of_mem hproper.nodup_keys (List.mem_map_of_mem hentry)
      obtain rfl : content = entry.2 := Option.some.inj (hheld.symm.trans hkept)
      exact hstored entry hentry
    · rw [Holds, Entries.get?_putAll_of_not_mem (hproper.key_not_mem hplain hmem)] at hheld
      exact hothers slot content hplain hvisible hmem (h.holds slot content hplain hvisible hheld)
  · intro key hkey
    rcases Entries.mem_keys_putAll.mp hkey with hold | hnew
    · exact h.keys key hold
    · simp only [Entries.keys, modulesOf, List.map_map, List.mem_map, Function.comp_apply] at hnew
      obtain ⟨entry, hentry, rfl⟩ := hnew
      exact ⟨entry.1, hslots entry hentry, hproper.plain entry hentry, hproper.visible entry hentry, rfl⟩
  · intro p bytes hp hbytes
    rcases hwritten.files p bytes hbytes with ⟨entry, hentry, rfl⟩ | hold | ⟨hempty, entry, hentry, hmarker⟩
    · refine .inl ⟨entry.1, hproper.plain entry hentry, Entries.mem_keys_putAll.mpr (.inr ?_), rfl⟩
      exact List.mem_map_of_mem (f := Prod.fst) (List.mem_map_of_mem hentry)
    · rcases h.files p bytes hp hold with ⟨slot, hplain, hkey, rfl⟩ | hmarker
      · exact .inl ⟨slot, hplain, Entries.mem_keys_putAll.mpr (.inl hkey), rfl⟩
      · exact .inr hmarker
    · exact .inr ⟨hempty, entry.1, hslots entry hentry, hmarker⟩

theorem Mirrors.stores_eq (h : Mirrors root start slots w dry) {operation : Operation}
    (houtside : ∀ source ∈ operation.sources, ¬Path.Below (place root) (place source))
    (hreachable : ∀ source ∈ operation.sources, start.resolve source = .ok (place source))
    (hstored : operation.stores w.disk = .ok stored) : operation.stores dry.disk = .ok stored := by
  cases operation with
  | write slot content => exact hstored
  | writeAll entries => exact hstored
  | copyFile source slot =>
    have hmem : source ∈ (Operation.copyFile source slot).sources := List.mem_singleton_self source
    obtain ⟨content, hread, rfl⟩ := except_map_eq_ok.mp hstored
    obtain ⟨bytes, hfile⟩ := Disk.file_of_readText hread
    obtain ⟨hresolve, hat⟩ := Disk.find?_eq_some.mp hfile
    have hsame : start.at? (place source) = some (.file bytes) := h.outside _ _ (houtside source hmem) hat
    refine except_map_eq_ok.mpr ⟨content, ?_, rfl⟩
    rw [h.disk_eq, ← hread]
    exact Disk.readText_congr (hreachable source hmem) hresolve (hsame.trans hat.symm)

theorem Mirrors.perform (h : Mirrors root start slots w dry) {operation : Operation}
    (hproper : operation.Proper) (hslots : operation.slots ⊆ slots)
    (houtside : ∀ source ∈ operation.sources, ¬Path.Below (place root) (place source))
    (hreachable : ∀ source ∈ operation.sources, start.resolve source = .ok (place source))
    (hrun : (operation.perform (.files root marksPackages)).run w = (.ok (), after)) :
    ∃ next, (operation.perform .memory).run dry = (.ok (), next) ∧ Mirrors root start slots after next := by
  obtain ⟨stored, names, hstored, hwrite⟩ := Operation.perform_ok hrun
  have hdry := h.stores_eq houtside hreachable hstored
  refine ⟨_, Operation.run_perform_memory hdry, h.writeAll (hproper.of_stores hstored) ?_ hwrite⟩
  intro entry hentry
  apply hslots
  rw [← Operation.slots_of_stores hstored]
  exact List.mem_map_of_mem hentry

theorem Mirrors.run (h : Mirrors root start slots w dry) {operations : List Operation}
    (hproper : ∀ operation ∈ operations, operation.Proper ∧ operation.slots ⊆ slots)
    (hsources : ∀ operation ∈ operations, ∀ source ∈ operation.sources,
      ¬Path.Below (place root) (place source) ∧ start.resolve source = .ok (place source))
    (hrun : (operations.forM (Operation.perform (.files root marksPackages))).run w = (.ok (), after)) :
    ∃ final, (operations.forM (Operation.perform .memory)).run dry = (.ok (), final) ∧
      Mirrors root start slots after final := by
  induction operations generalizing w dry with
  | nil =>
    cases hrun
    exact ⟨dry, rfl, h⟩
  | cons operation rest ih =>
    rw [List.forall_mem_cons] at hproper hsources
    obtain ⟨middle, hfirst, hrest⟩ := run_forM_cons_eq_ok.mp hrun
    obtain ⟨next, hnext, hmirrors⟩ := h.perform hproper.1.1 hproper.1.2
      (fun source hsource => (hsources.1 source hsource).1)
      (fun source hsource => (hsources.1 source hsource).2) hfirst
    obtain ⟨final, hfinal, hlast⟩ := ih hmirrors hproper.2 hsources.2 hrest
    exact ⟨final, run_forM_cons_eq_ok.mpr ⟨next, hnext, hfinal⟩, hlast⟩

/-- A dry run agrees with the disk, where below the root there is nothing at first and the paths of the
sources can be followed from the start: it succeeds, too, each of its modules is in the file of that name
below the root, and every other file there is the empty marker of a package on the way to some slot. -/
theorem dry_run_agrees {operations : List Operation} {disk : Disk} {final : Workspace}
    (hempty : ∀ p, Path.Below (place root) p → disk.at? p = none)
    (hproper : ∀ operation ∈ operations, operation.Proper)
    (hsources : ∀ operation ∈ operations, ∀ source ∈ operation.sources,
      ¬Path.Below (place root) (place source) ∧ disk.resolve source = .ok (place source))
    (h : (operations.forM (Operation.perform (.files root marksPackages))).run (.ofDisk disk) =
      (.ok (), final)) :
    ∃ dry, (operations.forM (Operation.perform .memory)).run (.ofDisk disk) = (.ok (), dry) ∧
      (∀ key content, Entries.get? dry.modules key = some content →
        final.disk.find? (root.join key) = some (.file (Text.Utf8.encode content.toList))) ∧
      ∀ p bytes, Path.Below (place root) p → final.disk.at? p = some (.file bytes) →
        (∃ key ∈ Entries.keys dry.modules, p = place (root.join key)) ∨
          bytes = [] ∧ ∃ operation ∈ operations, ∃ slot ∈ operation.slots, ∃ inner ≠ [],
            inner <+: slot.directory ∧ p = place root ++ inner ++ [packageMarker] := by
  have hslots (operation : Operation) (hoperation : operation ∈ operations) :
      operation.slots ⊆ operations.flatMap Operation.slots :=
    fun slot hslot => List.mem_flatMap.mpr ⟨operation, hoperation, hslot⟩
  have hstart : Mirrors root disk (operations.flatMap Operation.slots) (.ofDisk disk) (.ofDisk disk) := by
    refine ⟨rfl, fun _ _ _ hbytes => hbytes, ?_, ?_, ?_⟩
    · intro slot content _ _ hheld
      cases hheld
    · intro key hkey
      cases hkey
    · intro p bytes hp hbytes
      exact absurd (hempty p hp) (by rw [show disk.at? p = _ from hbytes]; simp)
  obtain ⟨dry, hdry, hmirrors⟩ := hstart.run
    (fun operation hoperation => ⟨hproper operation hoperation, hslots operation hoperation⟩) hsources h
  refine ⟨dry, hdry, ?_, ?_⟩
  · intro key content hkey
    have hmem : key ∈ Entries.keys dry.modules := by
      rw [← Entries.contains_iff, Entries.contains, hkey]
      rfl
    obtain ⟨slot, -, hplain, hvisible, rfl⟩ := hmirrors.keys key hmem
    rw [Slot.join_key hplain]
    exact hmirrors.holds slot content hplain hvisible hkey
  · intro p bytes hp hbytes
    rcases hmirrors.files p bytes hp hbytes with ⟨slot, hplain, hkey, rfl⟩ | ⟨rfl, slot, hslot, marker, hmarks, rfl⟩
    · exact .inl ⟨slot.key, hkey, by rw [Slot.join_key hplain]⟩
    · obtain ⟨operation, hoperation, hmem⟩ := List.mem_flatMap.mp hslot
      refine .inr ⟨rfl, operation, hoperation, slot, hmem, marker.directory, hmarks.2.1, hmarks.2.2, ?_⟩
      rw [Slot.place_target (hmarks.isPlain ((hproper operation hoperation).plain slot hmem)), Slot.parts,
        hmarks.1, List.append_assoc]

theorem not_below_out {source : Path} (h : place source = ["helper.py"]) :
    ¬Path.Below (place ["out"]) (place source) := by
  rintro ⟨part, rest, -, hplace⟩
  rw [h] at hplace
  exact absurd (List.cons.inj hplace).1 (by decide)

theorem dry_run_of_nested_packages :
    let disk : Disk := ⟨[(["helper.py"], .file (Text.Utf8.encode "HELPER = 1\n".toList))]⟩
    let operations : List Operation :=
      [.writeAll [(⟨["cat"], "nodes.py"⟩, "NODES = 1\n"), (⟨["tests", "api", "cat"], "test_nodes.py"⟩, "")],
        .write ⟨["cat"], "__init__.py"⟩ "CAT = 1\n", .copyFile ["helper.py"] ⟨["tests"], "conftest.py"⟩]
    let final := ((operations.forM (Operation.perform (.files ["out"] true))).run (.ofDisk disk)).2
    ∃ dry, (operations.forM (Operation.perform .memory)).run (.ofDisk disk) = (.ok (), dry) ∧
      (∀ key content, Entries.get? dry.modules key = some content →
        final.disk.find? (Path.join ["out"] key) = some (.file (Text.Utf8.encode content.toList))) ∧
      Entries.get? dry.modules "cat/__init__.py" = some "CAT = 1\n" := by
  intro disk operations final
  have hempty : ∀ p, Path.Below (place ["out"]) p → disk.at? p = none := by
    rintro _ ⟨part, rest, -, rfl⟩
    rfl
  have hsources : ∀ operation ∈ operations, ∀ source ∈ operation.sources,
      ¬Path.Below (place ["out"]) (place source) ∧ disk.resolve source = .ok (place source) := by
    intro operation hoperation source hsource
    have hhelper : ∀ operation ∈ operations, ∀ source ∈ operation.sources, source = ["helper.py"] := by
      decide +kernel
    obtain rfl := hhelper operation hoperation source hsource
    exact ⟨not_below_out rfl, by decide +kernel⟩
  have hrun := run_of_isOk (by decide +kernel :
    ((operations.forM (Operation.perform (.files ["out"] true))).run (.ofDisk disk)).1.isOk = true)
  obtain ⟨dry, hdry, hfiles, -⟩ := dry_run_agrees hempty (by decide +kernel) hsources hrun
  refine ⟨dry, hdry, hfiles, ?_⟩
  have hmodules : Entries.get? ((operations.forM (Operation.perform .memory)).run (.ofDisk disk)).2.modules
      "cat/__init__.py" = some "CAT = 1\n" := by
    decide +kernel
  rwa [hdry] at hmodules

theorem dry_run_stops_behind_missing_root :
    let disk : Disk := ⟨[(["helper.py"], .file (Text.Utf8.encode "HELPER = 1\n".toList))]⟩
    let operations : List Operation :=
      [.write ⟨[], "a.py"⟩ "A = 1\n", .copyFile ["out", "..", "helper.py"] ⟨["tests"], "conftest.py"⟩]
    (∀ p, Path.Below (place ["out"]) p → disk.at? p = none) ∧
      (∀ operation ∈ operations, operation.Proper) ∧
      (∀ operation ∈ operations, ∀ source ∈ operation.sources,
        ¬Path.Below (place ["out"]) (place source)) ∧
      ((operations.forM (Operation.perform (.files ["out"] true))).run (.ofDisk disk)).1.isOk = true ∧
      ((operations.forM (Operation.perform .memory)).run (.ofDisk disk)).1.isOk = false := by
  intro disk operations
  refine ⟨?_, by decide +kernel, ?_, by decide +kernel, by decide +kernel⟩
  · rintro _ ⟨part, rest, -, rfl⟩
    rfl
  · intro operation hoperation source hsource
    have hhelper : ∀ operation ∈ operations, ∀ source ∈ operation.sources,
        place source = ["helper.py"] := by
      decide +kernel
    exact not_below_out (hhelper operation hoperation source hsource)

end Output

end ClientForge
