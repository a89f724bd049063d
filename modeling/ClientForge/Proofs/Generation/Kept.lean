import ClientForge.Proofs.Generation.Steps
import ClientForge.Proofs.Location
import ClientForge.Proofs.Output.Contents

namespace ClientForge

open Disk (Path)

theorem IsWord.isPlain {text : String} (h : IsWord text) : Path.IsPlain text := by
  refine ⟨h.1, ?_, ?_, fun hslash => (h.2 _ hslash).2 rfl⟩
  · rintro rfl
    exact (h.2 '.' (by decide)).1 rfl
  · rintro rfl
    exact (h.2 '.' (by decide)).1 rfl

theorem IsWord.isPlain_file {text : String} (h : IsWord text) : Path.IsPlain (text ++ ".py") := by
  have hne (other : String) (hother : 'p' ∉ other.toList) : text ++ ".py" ≠ other := by
    rintro rfl
    exact hother (by simp)
  refine ⟨hne _ (by decide), hne _ (by decide), hne _ (by decide), ?_⟩
  intro hslash
  rw [String.toList_append, List.mem_append] at hslash
  rcases hslash with hslash | hslash
  · exact (h.2 _ hslash).2 rfl
  · exact absurd hslash (by decide)

theorem IsWord.head?_ne {text : String} (h : IsWord text) : text.toList.head? ≠ some '.' :=
  fun hhead => (h.2 _ (List.mem_of_head? hhead)).1 rfl

theorem isWord_test {text : String} (h : IsWord text) : IsWord ("test_" ++ text) :=
  isWord_append (by decide) h

theorem isWord_testDirectory {segments : List String} (h : ∀ segment ∈ segments, IsWord segment) :
    ∀ segment ∈ "tests" :: "api" :: segments, IsWord segment := by
  simpa using ⟨by decide, by decide, h⟩

namespace Slot

variable {segments : List String} {name : String}

theorem ofEndpoint_plain (hsegments : ∀ segment ∈ segments, IsWord segment) (hname : IsWord name) :
    (ofEndpoint segments name).IsPlain ∧ (ofEndpoint segments name).IsVisible := by
  constructor
  · exact isPlain_iff.mpr ⟨fun segment hsegment => (hsegments segment hsegment).isPlain, hname.isPlain_file⟩
  · change (name ++ ".py").toList.head? ≠ _
    rw [String.toList_append, List.head?_append_of_ne_nil _ (by simpa using hname.1)]
    exact hname.head?_ne

theorem ofTest_plain (hsegments : ∀ segment ∈ segments, IsWord segment) (hname : IsWord name) :
    (ofTest segments name).IsPlain ∧ (ofTest segments name).IsVisible :=
  ofEndpoint_plain (isWord_testDirectory hsegments) (isWord_test hname)

theorem ofEndpoint_ne_ofTest (segments : List String) (name : String) :
    ofEndpoint segments name ≠ ofTest segments name := by
  intro heq
  have hlength := congrArg (fun slot => slot.directory.length) heq
  simp only [ofEndpoint, ofTest, List.length_cons] at hlength
  omega

end Slot

def Endpoint.Located (extended : Bool) (endpoint : Endpoint) : Prop :=
  Location.resolve endpoint.definition.name extended = .ok endpoint.location

theorem Endpoint.Located.slot_plain {extended : Bool} {endpoint : Endpoint} (h : endpoint.Located extended) :
    endpoint.slot.IsPlain ∧ endpoint.slot.IsVisible := by
  obtain ⟨hmodules, hfunction⟩ := Location.isWord_of_resolve h
  exact Slot.ofEndpoint_plain hmodules hfunction

theorem Endpoint.Located.testSlot_plain {extended : Bool} {endpoint : Endpoint} (h : endpoint.Located extended) :
    endpoint.testSlot.IsPlain ∧ endpoint.testSlot.IsVisible := by
  obtain ⟨hmodules, hfunction⟩ := Location.isWord_of_resolve h
  exact Slot.ofTest_plain hmodules hfunction

theorem Endpoint.Located.slot_eq_iff {extended : Bool} {endpoint other : Endpoint} (h : endpoint.Located extended)
    (hother : other.Located extended) :
    endpoint.slot = other.slot ↔ Location.Alike extended endpoint.definition.name other.definition.name := by
  rw [← Location.place_eq_iff h hother]
  constructor
  · intro hslot
    have hfile : endpoint.location.functionName ++ ".py" = other.location.functionName ++ ".py" :=
      congrArg Slot.file hslot
    exact ⟨congrArg Slot.directory hslot, by simpa using hfile⟩
  · rintro ⟨hmodules, hfunction⟩
    rw [Endpoint.slot, Endpoint.slot, hmodules, Endpoint.functionName, Endpoint.functionName, hfunction]

def Tool.LeavesDisk (tool : Tool) : Prop :=
  ∀ command disk outcome after, tool command disk = some (outcome, after) → after = disk

theorem Tool.LeavesDisk.result {tool : Tool} (h : tool.LeavesDisk) (command : List String) (disk : Disk) :
    (tool.result command disk).2 = disk := by
  rw [Tool.result]
  cases hrun : tool command disk with
  | none => rfl
  | some made => exact h _ _ _ _ hrun

theorem Tool.leavesDisk_shell : shell.LeavesDisk := by
  intro command disk outcome after h
  obtain ⟨_, -, hmade⟩ := Option.map_eq_some_iff.mp h
  cases hmade
  rfl

theorem Tool.run_run (tool : Tool) (command : List String) (w : Workspace) :
    ∃ notes, (tool.run command).run w =
      (.ok (tool.result command w.disk).1, { w with disk := (tool.result command w.disk).2, notes }) := by
  rw [Tool.run, run_bind_ok (run_get _)]
  dsimp only
  rw [run_bind_ok (run_set _ _)]
  cases (tool.result command w.disk).1 with
  | none => exact ⟨w.notes, rfl⟩
  | some failure => exact ⟨_, rfl⟩

namespace Plan

variable {plan : Plan} {path : Path} {progress next : Progress}

def slots (plan : Plan) (endpoint : Endpoint) : List Slot :=
  endpoint.slot :: if plan.withTests then [endpoint.testSlot] else []

theorem slots_of_modules (plan : Plan) (endpoint : Endpoint) (source testSource : String) :
    (plan.modules endpoint source testSource).map (·.1) = plan.slots endpoint := by
  rw [modules, slots]
  split <;> rfl

theorem proper_modules {endpoint : Endpoint} (h : endpoint.Located plan.extended) (source testSource : String) :
    Output.Proper (plan.modules endpoint source testSource) := by
  have hslot := h.slot_plain
  have htest := h.testSlot_plain
  have hne : endpoint.slot ≠ endpoint.testSlot := Slot.ofEndpoint_ne_ofTest _ _
  rw [modules]
  split
  · constructor
    · simpa using ⟨hslot.1, htest.1⟩
    · simpa using ⟨hslot.2, htest.2⟩
    · simpa using hne
  · constructor
    · simpa using hslot.1
    · simpa using hslot.2
    · simp

theorem read_eq_ok {disk : Disk} {endpoint : Endpoint} {rendered : List (Slot × String)}
    (h : plan.read disk path = .ok (endpoint, rendered)) :
    endpoint.Located plan.extended ∧ ∃ source testSource, rendered = plan.modules endpoint source testSource := by
  obtain ⟨definition, -, hprepare⟩ := bind_eq_ok.mp h
  obtain ⟨hresolve, hrender⟩ := prepare_eq_ok.mp hprepare
  have hresolved := Endpoint.resolve_eq_ok.mp hresolve
  refine ⟨?_, render_eq_ok hrender⟩
  rw [Endpoint.Located, hresolved.definition_eq]
  exact hresolved.location

theorem generated_modules (plan : Plan) {endpoint : Endpoint} (h : endpoint.Located plan.extended) (name source testSource : String) :
    let rendered := plan.modules endpoint source testSource
    let endpointMade := generated name endpoint rendered (rendered.map fun entry => plan.output.nameOf entry.1)
    endpointMade.endpointFile = plan.output.nameOf endpoint.slot ∧
      Entries.get? endpointMade.sources endpointMade.endpointFile = some source := by
  intro rendered endpointMade
  refine ⟨rfl, ?_⟩
  have hne : plan.output.nameOf endpoint.testSlot ≠ plan.output.nameOf endpoint.slot := by
    intro heq
    have hslots := Output.nameOf_injective h.testSlot_plain.1 h.slot_plain.1 heq
    exact Slot.ofEndpoint_ne_ofTest _ _ hslots.symm
  change Entries.get? (Entries.ofPairs ((rendered.map fun entry => plan.output.nameOf entry.1).zip
    (rendered.map (·.2)))) (plan.output.nameOf endpoint.slot) = some source
  cases htests : plan.withTests with
  | false => simp [rendered, modules, htests, Entries.ofPairs, Entries.putAll, Entries.put, Entries.get?]
  | true =>
    have hput : Entries.ofPairs ((rendered.map fun entry => plan.output.nameOf entry.1).zip (rendered.map (·.2))) =
        Entries.put (Entries.put [] (plan.output.nameOf endpoint.slot) source)
          (plan.output.nameOf endpoint.testSlot) testSource := by
      simp [rendered, modules, htests, Entries.ofPairs, Entries.putAll]
    rw [hput, Entries.get?_put_of_ne _ _ hne, Entries.get?_put_self]

def Stores (plan : Plan) (w : Workspace) (endpointMade : Generated) : Prop :=
  ∃ source, Entries.get? endpointMade.sources endpointMade.endpointFile = some source ∧
    plan.output.Holds w endpointMade.endpoint.slot source

structure Kept (plan : Plan) (progress : Progress) : Prop where
  located : ∀ endpointMade ∈ progress.generated, endpointMade.endpoint.Located plan.extended ∧
    endpointMade.endpointFile = plan.output.nameOf endpointMade.endpoint.slot
  stores : ∀ before endpointMade after, progress.generated = before ++ endpointMade :: after →
    (∀ later ∈ after, endpointMade.endpoint.slot ∉ plan.slots later.endpoint) →
      plan.Stores progress.workspace endpointMade

theorem holds_notes {output : Output} {w : Workspace} {notes : List Note} {slot : Slot} {content : String} :
    output.Holds { w with notes } slot content ↔ output.Holds w slot content := by
  cases output <;> rfl

theorem Kept.generateOne (h : plan.Kept progress) (hrun : (plan.generateOne path).run progress = (.ok (), next)) :
    plan.Kept next := by
  obtain ⟨endpointMade, hgenerate, hnext⟩ := generateOne_ok hrun
  replace hnext : next.generated = progress.generated ++ [endpointMade] := congrArg Progress.generated hnext
  obtain ⟨endpoint, rendered, notes, names, hread, hwrite, rfl⟩ := generateEndpoint_ok hgenerate
  obtain ⟨hlocated, source, testSource, rfl⟩ := read_eq_ok hread
  obtain ⟨rfl, hstored, hothers⟩ := Output.holds_of_writeAll (proper_modules hlocated source testSource) hwrite
  obtain ⟨hfile, hsource⟩ := generated_modules plan hlocated path.text source testSource
  rw [slots_of_modules] at hothers
  constructor
  · rw [hnext]
    intro made hmade
    rcases List.mem_append.mp hmade with hmade | hmade
    · exact h.located made hmade
    · rw [List.mem_singleton.mp hmade]
      exact ⟨hlocated, hfile⟩
  · intro before made after hsplit hafter
    rw [hnext] at hsplit
    -- the endpoint was just made, or it was there before and the one just made is the last of the later ones
    rcases List.eq_nil_or_concat after with rfl | ⟨others, last, rfl⟩
    · obtain ⟨-, hlast⟩ := List.append_inj' hsplit rfl
      cases hlast
      exact ⟨source, hsource, hstored _ List.mem_cons_self⟩
    · rw [List.concat_eq_append, ← List.cons_append, ← List.append_assoc] at hsplit
      obtain ⟨hbefore, hlast⟩ := List.append_inj' hsplit rfl
      cases hlast
      rw [List.concat_eq_append, List.forall_mem_append] at hafter
      obtain ⟨kept, hkept, hholds⟩ := h.stores before made others hbefore hafter.1
      obtain ⟨hmade, -⟩ := h.located made (by rw [hbefore]; simp)
      have hplain := hmade.slot_plain
      have hslot := hafter.2 _ (List.mem_singleton_self _)
      exact ⟨kept, hkept, hothers _ _ hplain.1 hplain.2 hslot (holds_notes.mpr hholds)⟩

theorem Kept.run {files : List Path} (h : plan.Kept progress)
    (hrun : (files.forM plan.generateOne).run progress = (.ok (), next)) : plan.Kept next := by
  induction files generalizing progress with
  | nil =>
    cases hrun
    exact h
  | cons path rest ih =>
    obtain ⟨middle, hfirst, hrest⟩ := run_forM_cons_eq_ok.mp hrun
    exact ih (h.generateOne hfirst) hrest

theorem note_ok {level : Level} {text : String}
    (h : (inWorkspace (Work.note level text)).run progress = (.ok (), next)) :
    ∃ notes, next = { progress with workspace := { progress.workspace with notes } } := by
  rw [run_inWorkspace, run_note] at h
  cases h
  exact ⟨_, rfl⟩

def supported (progress : Progress) (workspace : Workspace) : Progress :=
  { progress with
    workspace
    tree := progress.tree.addFile Slot.testHelper.directory Slot.testHelper.file }

def supply (plan : Plan) : Work String :=
  match plan.settings.testHelper.filter (· ≠ "") with
  | some helper => plan.output.copyFile (Path.ofString helper) Slot.testHelper
  | none => plan.output.write Slot.testHelper TestSupport.text

theorem supply_ok {w after : Workspace} {name : String} (h : plan.supply.run w = (.ok name, after)) :
    ∃ content names, (plan.output.writeAll [(Slot.testHelper, content)]).run w = (.ok names, after) := by
  rw [supply] at h
  split at h
  · obtain ⟨content, -, hwrite⟩ := Output.copyFile_ok h
    exact ⟨content, Output.write_ok hwrite⟩
  · exact ⟨_, Output.write_ok h⟩

theorem run_copyTestHelper (plan : Plan) (progress : Progress) :
    plan.copyTestHelper.run progress =
      match plan.supply.run progress.workspace with
      | (.ok _, after) => (.ok (), supported progress after)
      | (.error failure, after) => (.error failure, { progress with workspace := after }) := by
  rw [copyTestHelper, supply]
  cases plan.settings.testHelper.filter (· ≠ "") with
  | none =>
    dsimp only
    rw [run_bind, run_discard, run_inWorkspace]
    rcases (plan.output.write Slot.testHelper TestSupport.text).run progress.workspace with ⟨_ | _, after⟩ <;> rfl
  | some helper =>
    dsimp only
    rw [run_bind, run_discard, run_inWorkspace]
    rcases (plan.output.copyFile (Path.ofString helper) Slot.testHelper).run progress.workspace with
      ⟨_ | _, after⟩ <;> rfl

theorem copyTestHelper_eq_ok : plan.copyTestHelper.run progress = (.ok (), next) ↔
    ∃ name, plan.supply.run progress.workspace = (.ok name, next.workspace) ∧
      next = supported progress next.workspace := by
  rw [run_copyTestHelper]
  constructor
  · intro h
    rcases hsupply : plan.supply.run progress.workspace with ⟨failure | name, after⟩
    · rw [hsupply] at h
      cases h
    · rw [hsupply] at h
      cases h
      exact ⟨name, rfl, rfl⟩
  · rintro ⟨name, hsupply, hnext⟩
    rw [hsupply, hnext]
    rfl

theorem copyTestHelper_ok (h : plan.copyTestHelper.run progress = (.ok (), next)) :
    ∃ content names, (plan.output.writeAll [(Slot.testHelper, content)]).run progress.workspace =
        (.ok names, next.workspace) ∧ next = supported progress next.workspace := by
  obtain ⟨name, hsupply, hnext⟩ := copyTestHelper_eq_ok.mp h
  obtain ⟨content, names, hwrite⟩ := supply_ok hsupply
  exact ⟨content, names, hwrite, hnext⟩

theorem runLinter_ok (h : plan.runLinter.run progress = (.ok (), next)) :
    next.generated = progress.generated ∧ ∃ disk notes,
      next.workspace = { progress.workspace with disk, notes } ∧
        (plan.settings.linter.getD [] = [] ∨ plan.tool.LeavesDisk → disk = progress.workspace.disk) := by
  rw [runLinter] at h
  split at h
  · cases h
    exact ⟨rfl, _, _, rfl, fun _ => rfl⟩
  · cases h
    exact ⟨rfl, _, _, rfl, fun _ => rfl⟩
  · next linter hnone hlinter =>
    obtain ⟨_, noted, hnote, hrest⟩ := run_bind_eq_ok.mp h
    obtain ⟨notes, rfl⟩ := note_ok hnote
    obtain ⟨failed, ran, htool, hrest⟩ := run_bind_eq_ok.mp hrest
    obtain ⟨later, hrun⟩ := plan.tool.run_run (linter ++ [plan.surface.output]) { progress.workspace with notes }
    rw [run_inWorkspace, hrun] at htool
    cases htool
    cases hrest
    refine ⟨rfl, _, _, rfl, ?_⟩
    rintro (hempty | hleaves)
    · rw [hlinter] at hempty
      exact absurd hempty hnone
    · exact hleaves.result _ _

theorem generateAll_eq_ok {files : List Path} {final : Progress} :
    (plan.generateAll files).run progress = (.ok (), final) ↔ ∃ reached supported : Progress,
      (files.forM plan.generateOne).run progress = (.ok (), reached) ∧
      (plan.withTests = false ∧ supported = reached ∨
        plan.withTests = true ∧ plan.copyTestHelper.run reached = (.ok (), supported)) ∧
      plan.runLinter.run supported = (.ok (), final) := by
  constructor
  · intro h
    obtain ⟨_, reached, hfiles, h⟩ := run_bind_eq_ok.mp h
    cases htests : plan.withTests with
    | false =>
      rw [htests, if_neg Bool.false_ne_true] at h
      exact ⟨reached, reached, hfiles, .inl ⟨rfl, rfl⟩, h⟩
    | true =>
      rw [htests, if_pos rfl] at h
      obtain ⟨_, supported, hhelper, hlinter⟩ := run_bind_eq_ok.mp h
      exact ⟨reached, supported, hfiles, .inr ⟨rfl, hhelper⟩, hlinter⟩
  · rintro ⟨reached, supported, hfiles, ⟨htests, rfl⟩ | ⟨htests, hhelper⟩, hlinter⟩
    · rw [generateAll, run_bind_ok hfiles, htests]
      exact hlinter
    · rw [generateAll, run_bind_ok hfiles, htests, if_pos rfl, run_bind_ok hhelper]
      exact hlinter

theorem list_of_run_ok {disk : Disk} {final : Progress} (h : plan.run disk = (.ok (), final)) :
    ∃ files, DefinitionFile.list disk (Path.ofString plan.surface.input) = .ok files ∧
      (plan.generateAll files).run (plan.begin disk files) = (.ok (), final) := by
  cases hlist : DefinitionFile.list disk (Path.ofString plan.surface.input) with
  | error cause =>
    rw [run, generate, run_bind_ok (run_get _), start, Workspace.ofDisk, hlist] at h
    cases h
  | ok files => exact ⟨files, rfl, (run_eq hlist).symm.trans h⟩

theorem run_ok {disk : Disk} {final : Progress} (h : plan.run disk = (.ok (), final)) :
    ∃ (files : List Path) (reached supported : Progress),
      (files.forM plan.generateOne).run (plan.begin disk files) = (.ok (), reached) ∧
      (plan.withTests = false ∧ supported = reached ∨
        plan.withTests = true ∧ plan.copyTestHelper.run reached = (.ok (), supported)) ∧
      plan.runLinter.run supported = (.ok (), final) := by
  obtain ⟨files, -, hall⟩ := list_of_run_ok h
  exact ⟨files, generateAll_eq_ok.mp hall⟩

theorem Stores.copyTestHelper {endpointMade : Generated} (h : plan.Stores progress.workspace endpointMade)
    (hlocated : endpointMade.endpoint.Located plan.extended) (hslot : endpointMade.endpoint.slot ≠ Slot.testHelper)
    (hrun : plan.copyTestHelper.run progress = (.ok (), next)) : plan.Stores next.workspace endpointMade := by
  obtain ⟨source, hsource, hholds⟩ := h
  obtain ⟨content, names, hwrite, -⟩ := copyTestHelper_ok hrun
  have hproper : Output.Proper [(Slot.testHelper, content)] := by
    constructor
    · simpa using (by decide +kernel : Slot.testHelper.IsPlain)
    · simpa using (by decide +kernel : Slot.testHelper.IsVisible)
    · simp
  have hplain := hlocated.slot_plain
  obtain ⟨-, -, hothers⟩ := Output.holds_of_writeAll hproper hwrite
  exact ⟨source, hsource, hothers _ _ hplain.1 hplain.2 (by simpa using hslot) hholds⟩

theorem head?_of_mem_tests {endpoint : Endpoint} (others : List Endpoint)
    (h : endpoint.slot ∈ Slot.testHelper :: others.map Endpoint.testSlot) :
    endpoint.location.packageModules.head? = some "tests" := by
  rcases List.mem_cons.mp h with hhelper | htest
  · exact congrArg (fun slot => slot.directory.head?) hhelper
  · obtain ⟨other, -, hslot⟩ := List.mem_map.mp htest
    exact congrArg (fun slot => slot.directory.head?) hslot.symm

/-- The linter cannot get at the modules: they are kept in memory, there is no linter, or it only looks at the disk. -/
def SparesModules (plan : Plan) : Prop :=
  plan.output = .memory ∨ plan.settings.linter.getD [] = [] ∨ plan.tool.LeavesDisk

theorem SparesModules.holds (hplan : plan.SparesModules) (hlinter : plan.runLinter.run progress = (.ok (), next))
    {slot : Slot} {content : String} (h : plan.output.Holds progress.workspace slot content) :
    plan.output.Holds next.workspace slot content := by
  obtain ⟨-, disk, notes, hworkspace, hdisk⟩ := runLinter_ok hlinter
  rw [hworkspace]
  rcases hplan with hmemory | hspares
  · rw [hmemory] at h ⊢
    exact h
  · rw [hdisk hspares]
    exact holds_notes.mpr h

/-- When a run is done, the module of every endpoint is where it was written, as it was generated, unless
the place is also that of a later module: of an endpoint that comes after it, of the tests of one, or of the
test support. Only the linter could change it, where it does more than to look at the disk. Two endpoints are
written to one file just if their names are alike, and tests go to the place of an endpoint only below a package
that is called as theirs. -/
theorem run_keeps_modules {disk : Disk} {final : Progress} (h : plan.run disk = (.ok (), final))
    {before after : List Generated} {endpointMade : Generated}
    (hmade : final.generated = before ++ endpointMade :: after) :
    endpointMade.endpointFile = plan.output.nameOf endpointMade.endpoint.slot ∧
      ((∀ later ∈ after, endpointMade.endpoint.slot ∉ plan.slots later.endpoint) →
        (plan.withTests = true → endpointMade.endpoint.slot ≠ Slot.testHelper) →
        plan.SparesModules → plan.Stores final.workspace endpointMade) ∧
      (∀ other ∈ final.generated, other.endpointFile = endpointMade.endpointFile ↔
        Location.Alike plan.extended other.endpoint.definition.name endpointMade.endpoint.definition.name) ∧
      (endpointMade.endpoint.slot ∈ Slot.testHelper :: final.generated.map (·.endpoint.testSlot) →
        endpointMade.endpoint.location.packageModules.head? = some "tests") := by
  obtain ⟨files, reached, supported, hfiles, hsupport, hlinter⟩ := run_ok h
  obtain ⟨hgenerated, -⟩ := runLinter_ok hlinter
  have hkept : plan.Kept reached := by
    refine Kept.run ⟨?_, ?_⟩ hfiles
    · intro made hnone
      cases hnone
    · intro before made after hsplit
      simp [begin, start] at hsplit
  have hsupported : supported.generated = reached.generated := by
    rcases hsupport with ⟨-, rfl⟩ | ⟨-, hcopy⟩
    · rfl
    · obtain ⟨-, -, -, hsame⟩ := copyTestHelper_ok hcopy
      exact (congrArg Progress.generated hsame).trans rfl
  rw [hgenerated, hsupported] at hmade ⊢
  have hmem : endpointMade ∈ reached.generated := by
    rw [hmade]
    simp
  obtain ⟨hlocated, hfile⟩ := hkept.located endpointMade hmem
  refine ⟨hfile, ?_, ?_, ?_⟩
  · intro hlater hhelper hspares
    have hreached := hkept.stores before endpointMade after hmade hlater
    have hstores : plan.Stores supported.workspace endpointMade := by
      rcases hsupport with ⟨-, rfl⟩ | ⟨htests, hcopy⟩
      · exact hreached
      · exact hreached.copyTestHelper hlocated (hhelper htests) hcopy
    obtain ⟨source, hsource, hholds⟩ := hstores
    exact ⟨source, hsource, hspares.holds hlinter hholds⟩
  · intro other hother
    obtain ⟨hlocatedOther, hfileOther⟩ := hkept.located other hother
    rw [hfile, hfileOther, ← hlocatedOther.slot_eq_iff hlocated]
    exact ⟨Output.nameOf_injective hlocatedOther.slot_plain.1 hlocated.slot_plain.1, congrArg _⟩
  · intro htests
    apply head?_of_mem_tests (reached.generated.map (·.endpoint))
    rwa [List.map_map]

theorem run_keeps_modules_of_packages :
    let disk := Disk.ofDirectory "in" [("a.json", DefinitionFile.document "info" "/_info"),
      ("b.json", DefinitionFile.document "ml.info" "/_ml/info")]
    let plan : Plan :=
      onDisk { Settings.standard with extended := ⟨"in", "out", ""⟩, linter := some ["true"] } true true Tool.shell
    ∃ (final : Progress) (first second : Generated), plan.run disk = (.ok (), final) ∧ plan.SparesModules ∧
      final.generated = [first, second] ∧ first.endpointFile = "out/info.py" ∧
      second.endpointFile = "out/machine_learning/info.py" ∧ plan.Stores final.workspace first := by
  intro disk plan
  have hcheck : (plan.run disk).map Except.isOk (fun final =>
        final.generated.map fun made => (made.endpointFile, plan.slots made.endpoint)) =
      (true, [("out/info.py", [⟨[], "info.py"⟩, ⟨["tests", "api"], "test_info.py"⟩]),
        ("out/machine_learning/info.py", [⟨["machine_learning"], "info.py"⟩,
          ⟨["tests", "api", "machine_learning"], "test_info.py"⟩])]) :=
    run_pair_check rfl (by decide +kernel)
  have hspares : plan.SparesModules := .inr (.inr Tool.leavesDisk_shell)
  clear_value disk plan
  obtain ⟨_, final, hend, hview⟩ := ok_of_check hcheck
  simp only [List.map_eq_cons_iff, List.map_eq_nil_iff, Prod.mk.injEq] at hview
  obtain ⟨first, _, hgenerated, ⟨hfirst, hslots⟩, second, _, rfl, ⟨hsecond, hothers⟩, rfl⟩ := hview
  have hslot : first.endpoint.slot = ⟨[], "info.py"⟩ := (List.cons.inj hslots).1
  have hlater : ∀ later ∈ [second], first.endpoint.slot ∉ plan.slots later.endpoint := by
    intro later hlater
    rw [List.mem_singleton.mp hlater, hothers, hslot]
    decide
  have hhelper : first.endpoint.slot ≠ Slot.testHelper := by
    rw [hslot]
    decide
  have hsplit : final.generated = [] ++ first :: [second] := hgenerated
  obtain ⟨-, hstores, -⟩ := run_keeps_modules hend hsplit
  exact ⟨final, first, second, hend, hspares, hgenerated, hfirst, hsecond, hstores hlater (fun _ => hhelper) hspares⟩

theorem run_loses_module_behind_marker :
    let disk := Disk.ofDirectory "in" [("a.json", DefinitionFile.document "info" "/_info"),
      ("b.json", DefinitionFile.document "xpack.info" "/_xpack/info")]
    let plan : Plan := ⟨{ Settings.standard with api := ⟨"in", "out", ""⟩ }, false, false, .memory, Tool.shell⟩
    ∃ (final : Progress) (first second : Generated), plan.run disk = (.ok (), final) ∧
      final.generated = [first, second] ∧ first.endpoint.definition.name = "info" ∧
      second.endpoint.definition.name = "xpack.info" ∧ first.endpointFile = second.endpointFile ∧
      ¬plan.Stores final.workspace first := by
  intro disk plan
  have hcheck : (plan.run disk).map Except.isOk (fun final =>
        final.generated.map fun made => (made.endpoint.definition.name, made.endpointFile,
          decide (Entries.get? made.sources made.endpointFile =
            Entries.get? final.workspace.modules made.endpoint.slot.key))) =
      (true, [("info", "info.py", false), ("xpack.info", "info.py", true)]) :=
    run_pair_check rfl (by decide +kernel)
  have houtput : plan.output = .memory := rfl
  clear_value disk plan
  obtain ⟨_, final, hend, hview⟩ := ok_of_check hcheck
  simp only [List.map_eq_cons_iff, List.map_eq_nil_iff, Prod.mk.injEq, decide_eq_false_iff_not] at hview
  obtain ⟨first, _, hgenerated, ⟨hname, hfile, hlost⟩, second, _, rfl, ⟨hother, hsame, -⟩, rfl⟩ := hview
  refine ⟨final, first, second, hend, hgenerated, hname, hother, hfile.trans hsame.symm, ?_⟩
  rintro ⟨source, hsource, hholds⟩
  rw [houtput] at hholds
  exact hlost (hsource.trans hholds.symm)

end Plan

end ClientForge
