import ClientForge.Proofs.Generation.Kept
import ClientForge.Proofs.Output.Replay

namespace ClientForge

open Disk (Path place)
open DefinitionFile (IsNamed isDefinitionName)
open Output (AllSettled Continues Replays)

theorem Slot.ofEndpoint_isModule {segments : List String} {name : String}
    (hsegments : ∀ segment ∈ segments, IsWord segment) (hname : IsWord name) : (ofEndpoint segments name).IsModule := by
  obtain ⟨hplain, hvisible⟩ := ofEndpoint_plain hsegments hname
  exact ⟨hplain, hvisible, fun segment hsegment => (hsegments segment hsegment).head?_ne, name, rfl⟩

theorem Slot.testHelper_isModule : testHelper.IsModule :=
  ⟨by decide +kernel, by decide +kernel, by simp [testHelper], "conftest", by decide⟩

namespace Endpoint.Located

variable {extended : Bool} {endpoint : Endpoint}

theorem slot_isModule (h : endpoint.Located extended) : endpoint.slot.IsModule := by
  obtain ⟨hmodules, hfunction⟩ := Location.isWord_of_resolve h
  exact Slot.ofEndpoint_isModule hmodules hfunction

theorem testSlot_isModule (h : endpoint.Located extended) : endpoint.testSlot.IsModule := by
  obtain ⟨hmodules, hfunction⟩ := Location.isWord_of_resolve h
  exact Slot.ofEndpoint_isModule (isWord_testDirectory hmodules) (isWord_test hfunction)

end Endpoint.Located

theorem DefinitionFile.isNamed_of_mem_list {disk : Disk} {directory path : Path} {files : List Path}
    (h : list disk directory = .ok files) (hpath : path ∈ files) : IsNamed (place path) := by
  rw [list] at h
  split at h
  · cases h
    obtain ⟨name, hname, rfl⟩ := List.mem_map.mp hpath
    rw [Text.sorted, List.mem_mergeSort, List.mem_filter, Bool.and_eq_true] at hname
    have hup : name ≠ ".." := by
      rintro rfl
      exact absurd hname.2.1 (by decide +kernel)
    have hplace : place (directory ++ [name]) = place directory ++ [name] := by
      rw [place, Disk.placeFrom_append, Disk.placeFrom, if_neg hup]
      rfl
    exact ⟨name, by rw [hplace, List.getLast?_concat], hname.2.1⟩
  · cases h

namespace Plan

variable {plan : Plan} {path : Path} {progress next reached : Progress} {root : Path} {marksPackages : Bool}
  {disk before other : Disk} {slots written : List Slot}

def placed (plan : Plan) (made : List Generated) : List Slot :=
  made.flatMap fun endpointMade => plan.slots endpointMade.endpoint

theorem placed_append (made : List Generated) (endpointMade : Generated) :
    plan.placed (made ++ [endpointMade]) = plan.placed made ++ plan.slots endpointMade.endpoint := by
  simp [placed]

theorem modules_isModule {endpoint : Endpoint} (h : endpoint.Located plan.extended) (source testSource : String) :
    ∀ entry ∈ plan.modules endpoint source testSource, entry.1.IsModule := by
  rw [modules]
  split
  · simpa using ⟨h.slot_isModule, h.testSlot_isModule⟩
  · simpa using h.slot_isModule

theorem generateOne_writes (h : (plan.generateOne path).run progress = (.ok (), next)) :
    ∃ endpoint source testSource notes names,
      plan.read progress.workspace.disk path = .ok (endpoint, plan.modules endpoint source testSource) ∧
      endpoint.Located plan.extended ∧
      (plan.output.writeAll (plan.modules endpoint source testSource)).run { progress.workspace with notes } =
        (.ok names, next.workspace) ∧
      next = plan.recorded { progress with workspace := next.workspace }
        (generated path.text endpoint (plan.modules endpoint source testSource) names) := by
  obtain ⟨endpointMade, hgenerate, hnext⟩ := generateOne_ok h
  obtain ⟨endpoint, rendered, notes, names, hread, hwrite, rfl⟩ := generateEndpoint_ok hgenerate
  obtain ⟨hlocated, source, testSource, rfl⟩ := read_eq_ok hread
  exact ⟨endpoint, source, testSource, notes, names, hread, hlocated, hwrite, hnext⟩

theorem run_generateOne_of_ok {endpointMade : Generated} {after : Workspace}
    (h : (plan.generateEndpoint path).run progress.workspace = (.ok endpointMade, after)) :
    (plan.generateOne path).run progress =
      (.ok (), plan.recorded { progress with workspace := after } endpointMade) := by
  have hinside : (inWorkspace (plan.generateEndpoint path)).run progress =
      (.ok endpointMade, { progress with workspace := after }) := by
    rw [run_inWorkspace, h]
  rw [generateOne, run_bind_ok hinside, run_record]

theorem placed_of_generateOne {endpoint : Endpoint} {source testSource : String} {names : List String}
    (h : next = plan.recorded { progress with workspace := next.workspace }
      (generated path.text endpoint (plan.modules endpoint source testSource) names)) :
    plan.placed next.generated =
      plan.placed progress.generated ++ (plan.modules endpoint source testSource).map (·.1) := by
  rw [congrArg Progress.generated h, slots_of_modules]
  exact placed_append _ _

theorem prefix_of_files {files : List Path} (h : (files.forM plan.generateOne).run progress = (.ok (), reached)) :
    progress.generated <+: reached.generated := by
  induction files generalizing progress with
  | nil =>
    cases h
    exact List.prefix_rfl
  | cons path rest ih =>
    obtain ⟨middle, hfirst, hrest⟩ := run_forM_cons_eq_ok.mp h
    obtain ⟨endpointMade, -, hmiddle⟩ := generateOne_ok hfirst
    refine List.IsPrefix.trans ?_ (ih hrest)
    rw [congrArg Progress.generated hmiddle]
    exact List.prefix_append _ _

section Files

variable (houtput : plan.output = .files root marksPackages)
include houtput

theorem settled_files {files : List Path} (h : (files.forM plan.generateOne).run progress = (.ok (), reached))
    (hsettled : AllSettled root marksPackages (plan.placed progress.generated) progress.workspace.disk) :
    AllSettled root marksPackages (plan.placed reached.generated) reached.workspace.disk := by
  induction files generalizing progress with
  | nil =>
    cases h
    exact hsettled
  | cons path rest ih =>
    obtain ⟨middle, hfirst, hrest⟩ := run_forM_cons_eq_ok.mp h
    obtain ⟨endpoint, source, testSource, notes, names, -, hlocated, hwrite, hmiddle⟩ := generateOne_writes hfirst
    apply ih hrest
    rw [houtput] at hwrite
    rw [placed_of_generateOne hmiddle]
    exact AllSettled.writeAll (w := { progress.workspace with notes }) hsettled (proper_modules hlocated _ _)
      (modules_isModule hlocated _ _) hwrite

theorem continues_files {files : List Path} (h : (files.forM plan.generateOne).run progress = (.ok (), reached)) :
    Continues progress.workspace.disk reached.workspace.disk := by
  induction files generalizing progress with
  | nil =>
    cases h
    exact Continues.refl _
  | cons path rest ih =>
    obtain ⟨middle, hfirst, hrest⟩ := run_forM_cons_eq_ok.mp h
    obtain ⟨endpoint, source, testSource, notes, names, -, hlocated, hwrite, -⟩ := generateOne_writes hfirst
    rw [houtput] at hwrite
    exact (Output.continues_of_writeAll (proper_modules hlocated _ _) (modules_isModule hlocated _ _) hwrite).trans
      (ih hrest)

end Files

theorem read_again (h : Replays root slots written disk before other)
    (hsettled : AllSettled root marksPackages slots disk) (hcontinues : Continues before disk)
    (hnamed : IsNamed (place path)) {endpoint : Endpoint} {rendered : List (Slot × String)}
    (hread : plan.read before path = .ok (endpoint, rendered)) : plan.read other path = .ok (endpoint, rendered) := by
  obtain ⟨definition, hload, hprepare⟩ := bind_eq_ok.mp hread
  obtain ⟨bytes, hfile⟩ := DefinitionFile.file_of_load hload
  obtain ⟨hresolve, hat⟩ := Disk.find?_eq_some.mp hfile
  have hother : other.resolve path = .ok (place path) :=
    Disk.resolve_mono (h.keepsDirectories hsettled) (Disk.resolve_mono hcontinues.directories hresolve)
  have hsame : before.at? (place path) = other.at? (place path) := by
    rw [h.others, hcontinues.definitions.at? hnamed hat, hat]
    intro slot hslot hplace
    exact (hsettled.modules slot hslot).not_named root (hplace ▸ hnamed)
  rw [read, ← DefinitionFile.load_congr hresolve hother hsame, hload]
  exact hprepare

/-- A run that has come as far as the one before, over the disk that this has left in the end. -/
structure Repeats (plan : Plan) (root : Path) (slots : List Slot) (disk : Disk) (progress again : Progress) : Prop where
  generated : again.generated = progress.generated
  tree : again.tree = progress.tree
  replays : Replays root slots (plan.placed progress.generated) disk progress.workspace.disk again.workspace.disk

variable {again : Progress}

theorem Repeats.generateOne (h : plan.Repeats root slots disk progress again)
    (houtput : plan.output = .files root marksPackages) (hsettled : AllSettled root marksPackages slots disk)
    (hcontinues : Continues progress.workspace.disk disk) (hnamed : IsNamed (place path))
    (hrun : (plan.generateOne path).run progress = (.ok (), next)) (hslots : plan.placed next.generated ⊆ slots) :
    ∃ repeated, (plan.generateOne path).run again = (.ok (), repeated) ∧ plan.Repeats root slots disk next repeated := by
  obtain ⟨endpoint, source, testSource, notes, names, hread, hlocated, hwrite, hnext⟩ := generateOne_writes hrun
  have hreadAgain := read_again h.replays hsettled hcontinues hnamed hread
  obtain ⟨others, hgenerate⟩ := run_generateEndpoint_of_written hreadAgain
  rw [placed_of_generateOne hnext, List.append_subset] at hslots
  rw [houtput] at hwrite hgenerate
  have hreplays : Replays root slots (plan.placed progress.generated) disk
      ({ progress.workspace with notes } : Workspace).disk ({ again.workspace with notes := others } : Workspace).disk :=
    h.replays
  obtain ⟨after, hafter, hstored⟩ :=
    hreplays.writeAll hsettled (proper_modules hlocated _ _) hslots.2 hslots.1 hwrite
  refine ⟨_, run_generateOne_of_ok (hgenerate _ _ hafter), ?_, ?_, ?_⟩
  · rw [congrArg Progress.generated hnext]
    exact congrArg (· ++ _) h.generated
  · rw [congrArg Progress.tree hnext]
    simp only [recorded, h.tree]
  · rw [placed_of_generateOne hnext]
    exact hstored

theorem Repeats.files {files : List Path} (h : plan.Repeats root slots disk progress again)
    (houtput : plan.output = .files root marksPackages) (hsettled : AllSettled root marksPackages slots disk)
    (hcontinues : Continues reached.workspace.disk disk) (hnamed : ∀ path ∈ files, IsNamed (place path))
    (hrun : (files.forM plan.generateOne).run progress = (.ok (), reached))
    (hslots : plan.placed reached.generated ⊆ slots) :
    ∃ repeated, (files.forM plan.generateOne).run again = (.ok (), repeated) ∧
      plan.Repeats root slots disk reached repeated := by
  induction files generalizing progress again with
  | nil =>
    cases hrun
    exact ⟨again, rfl, h⟩
  | cons path rest ih =>
    rw [List.forall_mem_cons] at hnamed
    have hall := continues_files houtput hrun
    obtain ⟨middle, hfirst, hrest⟩ := run_forM_cons_eq_ok.mp hrun
    have hmiddle : plan.placed middle.generated ⊆ slots := by
      obtain ⟨more, hmore⟩ := prefix_of_files hrest
      refine List.Subset.trans ?_ hslots
      rw [← hmore, placed, placed, List.flatMap_append]
      exact List.subset_append_left _ _
    obtain ⟨half, hhalf, hrepeats⟩ := h.generateOne houtput hsettled (hall.trans hcontinues) hnamed.1 hfirst hmiddle
    obtain ⟨repeated, hrepeated, hdone⟩ := ih hrepeats hnamed.2 hrest
    exact ⟨repeated, run_forM_cons_eq_ok.mpr ⟨half, hhalf, hrepeated⟩, hdone⟩

theorem proper_testHelper (content : String) : Output.Proper [(Slot.testHelper, content)] := by
  have hmodule := Slot.testHelper_isModule
  exact ⟨by simpa using hmodule.plain, by simpa using hmodule.visible, by simp⟩

theorem supply_again {w after again : Workspace} {name : String} (houtput : plan.output = .files root marksPackages)
    (hhelper : ∀ helper, plan.settings.testHelper = some helper →
      ¬Path.Below (place root) (place (Path.ofString helper)))
    (h : Replays root slots written after.disk w.disk again.disk)
    (hsettled : AllSettled root marksPackages slots after.disk) (hwritten : written ⊆ slots)
    (hslot : Slot.testHelper ∈ slots) (hrun : plan.supply.run w = (.ok name, after)) :
    ∃ repeated next, plan.supply.run again = (.ok repeated, next) ∧
      Replays root slots (written ++ [Slot.testHelper]) after.disk after.disk next.disk := by
  have hwrites {content : String} (hwrite : (plan.output.write Slot.testHelper content).run w = (.ok name, after)) :
      ∃ repeated next, (plan.output.write Slot.testHelper content).run again = (.ok repeated, next) ∧
        Replays root slots (written ++ [Slot.testHelper]) after.disk after.disk next.disk := by
    obtain ⟨names, hall⟩ := Output.write_ok hwrite
    rw [houtput] at hall ⊢
    obtain ⟨next, hnext, hreplays⟩ :=
      h.writeAll hsettled (proper_testHelper content) (by simpa using hslot) hwritten hall
    exact ⟨_, next, run_bind_ok hnext _, hreplays⟩
  rw [supply] at hrun ⊢
  split at hrun
  · next helper hfilter =>
    obtain ⟨content, hread, hwrite⟩ := Output.copyFile_ok hrun
    have houtside := hhelper helper (Option.filter_eq_some_iff.mp hfilter).1
    obtain ⟨names, hall⟩ := Output.write_ok hwrite
    rw [houtput] at hall
    obtain ⟨hfirst, -⟩ := (proper_testHelper content).written hall
    obtain ⟨bytes, hfile⟩ := Disk.file_of_readText hread
    obtain ⟨hresolve, hat⟩ := Disk.find?_eq_some.mp hfile
    have hoff (slot : Slot) (hplain : slot.IsPlain) : place (Path.ofString helper) ≠ place (slot.target root) :=
      fun hplace => houtside (hplace ▸ Slot.below_place hplain root)
    have hagain : again.disk.resolve (Path.ofString helper) = .ok (place (Path.ofString helper)) :=
      Disk.resolve_mono (h.keepsDirectories hsettled) (Disk.resolve_mono hfirst.directories hresolve)
    have hsame : w.disk.at? (place (Path.ofString helper)) = again.disk.at? (place (Path.ofString helper)) := by
      rw [h.others _ fun slot hslot => hoff slot (hsettled.modules slot hslot).plain, hat, hfirst.others _ _ hat]
      have hplain := Slot.testHelper_isModule.plain
      simpa using ⟨hoff _ hplain, hoff _ (Slot.staged_isPlain hplain)⟩
    obtain ⟨repeated, next, hnext, hreplays⟩ := hwrites hwrite
    refine ⟨repeated, next, ?_, hreplays⟩
    rw [Output.copyFile, run_bind_ok (run_get again), ← Disk.readText_congr hresolve hagain hsame, hread]
    exact hnext
  · exact hwrites hrun

theorem Repeats.copyTestHelper (h : plan.Repeats root slots next.workspace.disk progress again)
    (houtput : plan.output = .files root marksPackages)
    (hhelper : ∀ helper, plan.settings.testHelper = some helper →
      ¬Path.Below (place root) (place (Path.ofString helper)))
    (hsettled : AllSettled root marksPackages slots next.workspace.disk)
    (hslots : plan.placed progress.generated ++ [Slot.testHelper] ⊆ slots)
    (hrun : plan.copyTestHelper.run progress = (.ok (), next)) :
    ∃ repeated, plan.copyTestHelper.run again = (.ok (), repeated) ∧ repeated.generated = next.generated ∧
      repeated.tree = next.tree ∧ Replays root slots (plan.placed progress.generated ++ [Slot.testHelper])
        next.workspace.disk next.workspace.disk repeated.workspace.disk := by
  obtain ⟨name, hsupply, hnext⟩ := copyTestHelper_eq_ok.mp hrun
  obtain ⟨hplaced, hhelperSlot⟩ := List.append_subset.mp hslots
  obtain ⟨repeated, after, hafter, hreplays⟩ := supply_again houtput hhelper h.replays hsettled hplaced
    (hhelperSlot (List.mem_singleton_self _)) hsupply
  refine ⟨supported again after, copyTestHelper_eq_ok.mpr ⟨repeated, hafter, rfl⟩, ?_, ?_, hreplays⟩
  · rw [congrArg Progress.generated hnext]
    exact h.generated
  · rw [congrArg Progress.tree hnext]
    simp only [supported, h.tree]

theorem run_runLinter (h : plan.settings.linter.getD [] = []) (progress : Progress) :
    plan.runLinter.run progress = (.ok (), progress) := by
  rw [runLinter]
  cases hlinter : plan.settings.linter with
  | none => rfl
  | some command =>
    rw [hlinter] at h
    obtain rfl : command = [] := h
    rfl

theorem begin_repeats (hsettled : AllSettled root marksPackages slots disk) (start : Disk) (files : List Path) :
    plan.Repeats root slots disk (plan.begin start files) (plan.begin disk files) :=
  ⟨rfl, rfl, hsettled.replays start⟩

theorem settled_begin (plan : Plan) (start : Disk) (files : List Path) :
    AllSettled root marksPackages (plan.placed (plan.begin start files).generated)
      (plan.begin start files).workspace.disk :=
  ⟨nofun, nofun⟩

/-- A generation that is done again, without a linter and with the test support taken from outside its output,
is done again in full: it gives the same endpoints, and leaves the disk as it finds it. -/
theorem run_repeats {first : Progress} (houtput : plan.output = .files root marksPackages)
    (hlinter : plan.settings.linter.getD [] = [])
    (hhelper : ∀ helper, plan.settings.testHelper = some helper →
      ¬Path.Below (place root) (place (Path.ofString helper)))
    (h : plan.run disk = (.ok (), first)) :
    ∃ second, plan.run first.workspace.disk = (.ok (), second) ∧ second.generated = first.generated ∧
      second.tree = first.tree ∧ ∀ p, second.workspace.disk.at? p = first.workspace.disk.at? p := by
  obtain ⟨files, hlist, hall⟩ := list_of_run_ok h
  obtain ⟨reached, done, hfiles, hsupport, hdone⟩ := generateAll_eq_ok.mp hall
  rw [run_runLinter hlinter] at hdone
  cases hdone
  have hreached : AllSettled root marksPackages (plan.placed reached.generated) reached.workspace.disk :=
    settled_files houtput hfiles (settled_begin plan disk files)
  have hbegin : Continues disk reached.workspace.disk := continues_files houtput hfiles
  have hnamed : ∀ path ∈ files, IsNamed (place path) := fun path hpath => DefinitionFile.isNamed_of_mem_list hlist hpath
  -- nothing that a run makes is called like a definition file, so the second run finds the same listing
  have hrelist (hcontinues : Continues reached.workspace.disk first.workspace.disk) :
      plan.run first.workspace.disk = (plan.generateAll files).run (plan.begin first.workspace.disk files) := by
    have hkept := hbegin.trans hcontinues
    exact run_eq (hkept.definitions.list_eq hkept.directories hlist)
  rcases hsupport with ⟨htests, rfl⟩ | ⟨htests, hcopy⟩
  · obtain ⟨second, hsecond, hrepeats⟩ := (begin_repeats hreached disk files).files houtput hreached
      (Continues.refl _) hnamed hfiles (List.Subset.refl _)
    refine ⟨second, ?_, hrepeats.generated, hrepeats.tree, hrepeats.replays.at?_eq⟩
    rw [hrelist (Continues.refl _)]
    exact generateAll_eq_ok.mpr ⟨second, second, hsecond, .inl ⟨htests, rfl⟩, run_runLinter hlinter second⟩
  · obtain ⟨content, names, hwrite, -⟩ := copyTestHelper_ok hcopy
    rw [houtput] at hwrite
    have hproper := proper_testHelper content
    have hmodules : ∀ entry ∈ [(Slot.testHelper, content)], entry.1.IsModule := by
      simpa using Slot.testHelper_isModule
    have hcontinues := Output.continues_of_writeAll hproper hmodules hwrite
    have hsettled : AllSettled root marksPackages (plan.placed reached.generated ++ [Slot.testHelper])
        first.workspace.disk := hreached.writeAll hproper hmodules hwrite
    obtain ⟨half, hhalf, hrepeats⟩ := (begin_repeats hsettled disk files).files houtput hsettled hcontinues hnamed
      hfiles (List.subset_append_left _ _)
    obtain ⟨second, hsecond, hgenerated, htree, hreplays⟩ :=
      hrepeats.copyTestHelper houtput hhelper hsettled (List.Subset.refl _) hcopy
    refine ⟨second, ?_, hgenerated, htree, hreplays.at?_eq⟩
    rw [hrelist hcontinues]
    exact generateAll_eq_ok.mpr ⟨half, second, hhalf, .inr ⟨htests, hsecond⟩, run_runLinter hlinter second⟩

theorem run_repeats_over_shared_module :
    let disk := Disk.ofDirectory "in" [("a.json", DefinitionFile.document "info" "/_info"),
      ("b.json", DefinitionFile.document "xpack.info" "/_xpack/info"), ("helper.py", "HELPER = 1\n")]
    let settings := { Settings.standard with
      api := ⟨"in", "out", ""⟩, testHelper := some "in/helper.py", linter := none }
    let plan := onDisk settings false true Tool.shell
    ∃ first second : Progress, plan.run disk = (.ok (), first) ∧
      first.workspace.written = ["out/info.py", "out/tests/api/test_info.py", "out/info.py",
        "out/tests/api/test_info.py", "out/tests/conftest.py"] ∧
      plan.run first.workspace.disk = (.ok (), second) ∧ second.generated = first.generated ∧
      ∀ p, second.workspace.disk.at? p = first.workspace.disk.at? p := by
  intro disk settings plan
  have hlist : DefinitionFile.list disk (Path.ofString plan.surface.input) =
      .ok [["in", "a.json"], ["in", "b.json"]] := by
    rw [(by decide +kernel : Path.ofString plan.surface.input = ["in"])]
    exact DefinitionFile.list_of_sorted rfl (by decide +kernel)
      (by decide +kernel : ["a.json", "b.json"].Pairwise (· ≤ ·))
  have hcheck : ((plan.generateAll [["in", "a.json"], ["in", "b.json"]]).run
        (plan.begin disk [["in", "a.json"], ["in", "b.json"]])).map Except.isOk (·.workspace.written) =
      (true, ["out/info.py", "out/tests/api/test_info.py", "out/info.py", "out/tests/api/test_info.py",
        "out/tests/conftest.py"]) := by
    decide +kernel
  have houtput : plan.output = .files (Path.ofString "out") true := rfl
  have hlinter : plan.settings.linter.getD [] = [] := rfl
  have hhelper : ∀ helper, plan.settings.testHelper = some helper →
      ¬Path.Below (place (Path.ofString "out")) (place (Path.ofString helper)) := by
    rintro _ ⟨⟩ ⟨part, rest, -, hplace⟩
    rw [(by decide +kernel : place (Path.ofString "in/helper.py") = ["in", "helper.py"]),
      (by decide +kernel : place (Path.ofString "out") = ["out"])] at hplace
    exact absurd (List.cons.inj hplace).1 (by decide)
  rw [← run_eq hlist] at hcheck
  clear_value disk plan
  obtain ⟨_, first, hend, hwritten⟩ := ok_of_check hcheck
  obtain ⟨second, hagain, hgenerated, -, hdisk⟩ := run_repeats houtput hlinter hhelper hend
  exact ⟨first, second, hend, hwritten, hagain, hgenerated, hdisk⟩

end Plan

end ClientForge
