import ClientForge.Endpoint.TestModule
import ClientForge.Proofs.Choice.Rendering
import ClientForge.Proofs.Endpoint.Call
import ClientForge.Proofs.Endpoint.Coverage
import Mathlib.Data.List.Find

namespace ClientForge

open Code Template

namespace PathChoice

variable {name : String} {templates supplied : List String} {choice : PathChoice}

def route (choice : PathChoice) : List String :=
  match choice.branches with
  | branch :: _ => branch.needed
  | [] => choice.names.filter fun name => !Entries.contains choice.defaults name

theorem route_subset_names (choice : PathChoice) : choice.route ⊆ choice.names := by
  intro slot hslot
  rw [route] at hslot
  split at hslot
  · next branch rest hbranches =>
    apply mem_names_of_needed _ hslot
    rw [hbranches]
    exact List.mem_cons_self
  · exact List.mem_of_mem_filter hslot

theorem covers_of_applies (h : resolve name templates = .ok choice) {branch : PathBranch}
    (hbranch : branch ∈ choice.branches) (happly : branch.applies supplied = true) :
    choice.Covers supplied branch.template := by
  have hcovers (hneeded : branch.needed = signature branch.template) :
      choice.Covers supplied branch.template := by
    intro slot hslot
    simp only [PathBranch.applies, List.all_eq_true, List.contains_iff_mem, hneeded] at happly
    exact .inl (happly slot (mem_signature.mpr hslot))
  rcases form_of_resolve h with ⟨only, -, rfl⟩ | ⟨first, rest, -, -, rfl⟩ | hirregular
  · cases hbranch
  · rcases List.mem_cons.mp hbranch with rfl | hwalk
    · exact hcovers rfl
    · exact hcovers (PathStep.branch_of_walk hwalk).1
  · exact irregular_branch_covers hirregular hbranch happly

theorem select_of_route (h : resolve name templates = .ok choice) (hroute : choice.route ⊆ supplied) :
    ∃ template ∈ choice.templates, choice.select supplied = some template ∧
      choice.Covers supplied template := by
  rw [route] at hroute
  split at hroute
  · next first rest hbranches =>
    have happly : first.applies supplied = true := by
      simp only [PathBranch.applies, List.all_eq_true, List.contains_iff_mem]
      exact fun slot hslot => hroute hslot
    have hfirst : first ∈ choice.branches := by
      rw [hbranches]
      exact List.mem_cons_self
    refine ⟨first.template, List.mem_append_left _ (List.mem_map_of_mem hfirst), ?_,
      covers_of_applies h hfirst happly⟩
    rw [select, hbranches, List.find?_cons, happly]
  · next hbranches =>
    obtain ⟨template, htemplate⟩ : ∃ template, choice.fallback = some template :=
      Option.ne_none_iff_exists'.mp ((offers_of_resolve h).resolve_left (absurd hbranches))
    have hmem : template ∈ choice.templates :=
      List.mem_append_right _ (by rw [htemplate]; exact List.mem_singleton_self _)
    refine ⟨template, hmem, ?_, ?_⟩
    · rw [select, hbranches, htemplate]
      rfl
    · intro slot hslot
      -- the samples leave out the variables that have a default
      by_cases hdefault : Entries.contains choice.defaults slot = true
      · exact .inr hdefault
      · refine .inl (hroute (List.mem_filter.mpr ⟨mem_names_of_template hmem hslot, ?_⟩))
        simpa using hdefault

end PathChoice

namespace Arguments

theorem nodup_requiredNames (name : String) {templates : List String} (bodyRequired : Bool)
    (h : ∀ template ∈ templates, "body" ∉ slotNames template) :
    (requiredNames name templates bodyRequired).Nodup := by
  rw [requiredNames]
  split
  · exact List.nodup_nil
  · have hcommon : (commonVariables templates).Nodup := by
      cases templates with
      | nil => exact List.nodup_nil
      | cons first rest => exact (nodup_distinctFrom (slotNames first) List.nodup_nil).filter _
    have hbody : "body" ∉ commonVariables templates := by
      cases templates with
      | nil => exact List.not_mem_nil
      | cons first rest =>
        rw [mem_commonVariables (List.cons_ne_nil _ _)]
        exact fun hall => h first List.mem_cons_self (hall first List.mem_cons_self)
    cases bodyRequired with
    | false => exact hcommon
    | true => exact List.nodup_cons.mpr ⟨hbody, hcommon⟩

theorem requiredNames_subset (name : String) {templates : List String} (bodyRequired : Bool)
    (hne : templates ≠ []) {slot : String} (hslot : slot ∈ requiredNames name templates bodyRequired) :
    slot = "body" ∨ ∀ template ∈ templates, slot ∈ slotNames template := by
  rw [requiredNames] at hslot
  split at hslot
  · cases hslot
  · rcases List.mem_append.mp hslot with hbody | hcommon
    · cases bodyRequired with
      | false => cases hbody
      | true => exact .inl (List.mem_singleton.mp hbody)
    · exact .inr ((mem_commonVariables hne).mp hcommon)

end Arguments

namespace Endpoint

variable {surroundings : Surroundings} {definition : Definition} {endpoint : Endpoint}

theorem mem_sampleArguments {name : String} :
    name ∈ endpoint.sampleArguments ↔
      name ∈ endpoint.arguments.required ∨ name ∈ endpoint.path.route := by
  change name ∈ distinctFrom endpoint.arguments.required endpoint.path.route ↔ _
  exact mem_distinctFrom

theorem nodup_sampleArguments (h : endpoint.arguments.required.Nodup) : endpoint.sampleArguments.Nodup :=
  nodup_distinctFrom endpoint.path.route h

theorem Resolved.not_mem_sampleArguments (h : Resolved surroundings definition endpoint)
    {slot : String} (htemplates : ∀ template ∈ definition.templates, slot ∉ slotNames template)
    (hbody : slot ≠ "body") (hslot : slot ∉ ["index", "id", "endpoint"]) :
    slot ∉ endpoint.sampleArguments := by
  rw [mem_sampleArguments, h.required]
  rintro (hrequired | hroute)
  · rcases Arguments.requiredNames_subset _ _ (List.cons_ne_nil _ _) hrequired with heq | hall
    · exact hbody heq
    · have hroute := List.mem_cons_self (a := definition.route.template)
        (l := definition.otherRoutes.map (·.template))
      exact htemplates _ hroute (hall _ hroute)
  · exact PathChoice.not_mem_names h.path htemplates hslot (endpoint.path.route_subset_names hroute)

theorem Resolved.samplePath_ok (h : Resolved surroundings definition endpoint) :
    ∃ template ∈ endpoint.path.templates, endpoint.path.select endpoint.sampleArguments = some template ∧
      endpoint.path.Covers endpoint.sampleArguments template ∧
      ∃ path, expand template endpoint.sampleSlot? = .ok path ∧ endpoint.samplePath = .ok path := by
  obtain ⟨template, hmem, hselect, hcovers⟩ := PathChoice.select_of_route h.path
    fun slot hslot => mem_sampleArguments.mpr (.inr hslot)
  have hslots : ∀ name ∈ slotNames template,
      endpoint.sampleSlot? name = some ((endpoint.sampleSlot? name).getD "") := by
    intro name hname
    have hsome : (endpoint.sampleSlot? name).isSome = true := by
      rw [sampleSlot?]
      rcases hcovers name hname with hsample | hdefault
      · rw [if_pos (List.contains_iff_mem.mpr hsample)]
        rfl
      · split
        · rfl
        · exact hdefault
    obtain ⟨text, htext⟩ := Option.isSome_iff_exists.mp hsome
    rw [htext]
    rfl
  have hexpand := expand_eq hslots
  refine ⟨template, hmem, hselect, hcovers, _, hexpand, ?_⟩
  rw [samplePath, hselect]
  dsimp only
  rw [hexpand]
  rfl

theorem moduleCode_ok {function : Stmt} (h : endpoint.function = .ok function) :
    ∃ code, endpoint.moduleCode = .ok code ∧ function ∈ code := by
  rw [moduleCode, h]
  exact ⟨_, rfl, by simp⟩

theorem testCode_ok {path : String} (h : endpoint.samplePath = .ok path) :
    ∃ test, endpoint.testCode = .ok test ∧ endpoint.requestTest path ∈ test := by
  rw [testCode, h]
  exact ⟨_, rfl, by simp⟩

variable {α : Type}

def sampleDatum (argument : String) : Datum α :=
  if argument = "body" then .mapping [] else .text (sampleText argument)

def sampleEntries (endpoint : Endpoint) : Entries (Datum α) :=
  endpoint.sampleArguments.map fun argument => (argument, sampleDatum argument)

theorem eval_sampleValue (world : World α) (frame : Frame α) (argument : String) :
    ((sampleValue argument).eval world []).run frame = (.ok (sampleDatum argument), frame) := by
  rw [sampleValue, sampleDatum]
  split
  · rfl
  · exact eval_text world [] _

theorem evalKeywords_samples (world : World α) (frame : Frame α) (names : List String) :
    (evalKeywords world [] (names.map fun name => (some name, sampleValue name))).run frame =
      (.ok (names.map fun name => (some name, sampleDatum name)), frame) := by
  induction names with
  | nil => exact evalKeywords_nil world
  | cons name rest ih =>
    exact evalKeywords_cons (some name) (eval_sampleValue world frame name) ih

theorem get?_sampleEntries (endpoint : Endpoint) (argument : String) :
    Entries.get? (endpoint.sampleEntries : Entries (Datum α)) argument =
      if argument ∈ endpoint.sampleArguments then some (sampleDatum argument) else none :=
  Entries.get?_map_of_injective Function.injective_id _ _ _

theorem isNone_sampleDatum (argument : String) : (sampleDatum argument : Datum α).isNone = false := by
  rw [sampleDatum]
  split <;> rfl

theorem not_lacks_sample (endpoint : Endpoint) :
    endpoint.arguments.required.find? (lacks (endpoint.sampleEntries : Entries (Datum α))) = none := by
  rw [List.find?_eq_none]
  intro argument hargument
  rw [lacks, get?_sampleEntries, if_pos (mem_sampleArguments.mpr (.inl hargument)), Option.getD_some,
    isNone_sampleDatum]
  exact Bool.false_ne_true

theorem contains_supplied {argument : String} (htaken : argument ∈ "body" :: endpoint.takenArguments)
    (hdefault : Entries.get? endpoint.path.defaults argument = none) :
    (endpoint.supplied (endpoint.sampleEntries : Entries (Datum α))).contains argument =
      endpoint.sampleArguments.contains argument := by
  rw [endpoint.names_supplied _ argument htaken, valueOf, valueIn, get?_sampleEntries, hdefault]
  by_cases hsample : argument ∈ endpoint.sampleArguments
  · rw [if_pos hsample, Option.getD_some, isNone_sampleDatum, List.contains_iff_mem.mpr hsample]
    rfl
  · rw [if_neg hsample]
    simpa [Datum.isNone] using hsample

theorem Resolved.select_supplied (h : Resolved surroundings definition endpoint) :
    endpoint.path.select (endpoint.supplied (endpoint.sampleEntries : Entries (Datum α))) =
      endpoint.path.select endpoint.sampleArguments := by
  apply PathChoice.select_congr
  intro branch hbranch slot hslot
  have hname := PathChoice.mem_names_of_needed hbranch hslot
  -- no branch asks for an argument that has a default, so the defaults of the call do not matter
  exact contains_supplied (List.mem_cons_of_mem _ (mem_takenArguments.mpr (.inl hname)))
    (PathChoice.defaults_of_needed h.path hbranch hslot)

theorem Resolved.method_supplied (h : Resolved surroundings definition endpoint) :
    endpoint.method.select (endpoint.supplied (endpoint.sampleEntries : Entries (Datum α))) =
      endpoint.method.select endpoint.sampleArguments := by
  have hfind : endpoint.method.branches.find? (fun branch =>
        (endpoint.supplied (endpoint.sampleEntries : Entries (Datum α))).contains branch.argument) =
      endpoint.method.branches.find? fun branch =>
        endpoint.sampleArguments.contains branch.argument := by
    apply List.find?_congr
    intro branch hbranch
    apply contains_supplied
    · by_cases hbody : branch.argument = "body"
      · rw [hbody]
        exact List.mem_cons_self
      · exact List.mem_cons_of_mem _ (mem_takenArguments.mpr (.inr ⟨hbody, branch, hbranch, rfl⟩))
    · rw [h.method] at hbranch
      apply PathChoice.default_eq_none h.path
      rcases MethodChoice.argument_of_resolve hbranch with hid | hbody
      · rw [hid]
        decide
      · rw [hbody]
        decide
  rw [MethodChoice.select, MethodChoice.select, hfind]

theorem sampleSlot?_eq {listify : Datum α → String} (hlistify : ∀ s, listify (.text s) = s)
    {slot : String} (hbody : slot ≠ "body")
    (hslot : slot ∈ endpoint.sampleArguments ∨ Entries.contains endpoint.path.defaults slot = true) :
    endpoint.sampleSlot? slot = some (listify (endpoint.valueOf endpoint.sampleEntries slot)) := by
  rw [sampleSlot?, valueOf, valueIn, get?_sampleEntries]
  by_cases hsample : slot ∈ endpoint.sampleArguments
  · rw [if_pos (List.contains_iff_mem.mpr hsample), if_pos hsample, Option.getD_some, sampleDatum,
      if_neg hbody, hlistify]
  · rw [if_neg (mt List.contains_iff_mem.mp hsample), if_neg hsample]
    obtain ⟨text, htext⟩ := Option.isSome_iff_exists.mp (hslot.resolve_left hsample)
    rw [htext]
    exact congrArg some (hlistify text).symm

def expectation (function : String) (keywords : List (Option String × Expr)) (method path : String) :
    Stmt :=
  .define ("test_" ++ function ++ "_performs_request") ["client"] none [
    .expr (.call (.name function) [.name "client"] keywords),
    .assign (.name "request")
      (.item (.attribute (.name "client") "calls") (.negative (.constant (.int 1)))),
    checkEqual "method" method,
    checkEqual "path" path]

theorem requestTest_eq (endpoint : Endpoint) (path : String) :
    endpoint.requestTest path = expectation endpoint.functionName
      (endpoint.sampleArguments.map fun argument => (some argument, sampleValue argument))
      (endpoint.method.select endpoint.sampleArguments) path :=
  rfl

def sampleCall (endpoint : Endpoint) (h : endpoint.sampleArguments.Nodup) : Keywords α :=
  ⟨endpoint.sampleEntries, by simpa [Entries.keys, sampleEntries, Function.comp_def] using h⟩

theorem keys_sampleCall (h : endpoint.sampleArguments.Nodup) :
    Entries.keys (endpoint.sampleCall h : Keywords α).entries = endpoint.sampleArguments := by
  simp [Entries.keys, sampleCall, sampleEntries, Function.comp_def]

theorem Resolved.call_samples (h : Resolved surroundings definition endpoint)
    (hslots : ∀ template ∈ definition.templates, ∀ name ∈ ["body", "headers", "client"],
      name ∉ slotNames template)
    {listify : Datum α → String} (hlistify : ∀ s, listify (.text s) = s) (answer : Sent α → Datum α)
    (hnodup : endpoint.sampleArguments.Nodup) {function : Stmt}
    (hfunction : endpoint.function = .ok function) {path : String}
    (hpath : endpoint.samplePath = .ok path) :
    ∃ sent, callFunction (endpoint.world listify answer) function (endpoint.sampleCall hnodup) =
        (.returned (answer sent), [sent]) ∧
      sent.method = .text (endpoint.method.select endpoint.sampleArguments) ∧ sent.path = .text path := by
  have hbody (t : String) (ht : t ∈ definition.templates) : "body" ∉ slotNames t :=
    hslots t ht "body" (by decide)
  have hclient : "client" ∉ Entries.keys (endpoint.sampleCall hnodup : Keywords α).entries := by
    rw [keys_sampleCall]
    exact h.not_mem_sampleArguments (fun t ht => hslots t ht "client" (by decide)) (by decide) (by decide)
  have hapart := h.apart (fun t ht => ⟨hbody t ht, hslots t ht "headers" (by decide)⟩)
    (endpoint.sampleCall hnodup : Keywords α).entries
  have hcall := h.call_eq listify answer (endpoint.sampleCall hnodup) hclient hfunction
  rw [hapart.held_eq, sampleCall, not_lacks_sample] at hcall
  dsimp only at hcall
  obtain ⟨template, hmem, hselect, hcovers, filled, hexpand, hfilled⟩ := h.samplePath_ok
  rw [hpath] at hfilled
  cases hfilled
  have hsame : expand template endpoint.sampleSlot? =
      .ok (fill (fun name => listify (endpoint.valueOf endpoint.sampleEntries name)) template) := by
    apply expand_eq
    intro slot hslot
    apply sampleSlot?_eq hlistify _ (hcovers slot hslot)
    rintro rfl
    exact PathChoice.not_mem_names h.path hbody (by decide)
      (PathChoice.mem_names_of_template hmem hslot)
  rw [outcome, suppliedOf_valueOf, h.select_supplied, hselect] at hcall
  refine ⟨_, hcall, congrArg Datum.text h.method_supplied, ?_⟩
  exact congrArg Datum.text (Except.ok.inj (hsame.symm.trans hexpand))

/-- The modules of an endpoint can always be written, and the call in its test sends the request that
the test expects: the function lets it pass, and chooses the same method and path for it. -/
theorem test_expects_what_function_sends (h : resolve surroundings definition = .ok endpoint) :
    ∃ code test function keywords method path,
      endpoint.moduleCode = .ok code ∧ endpoint.testCode = .ok test ∧
      endpoint.function = .ok function ∧ function ∈ code ∧
      expectation endpoint.functionName keywords method path ∈ test ∧
      (∀ branch ∈ endpoint.path.branches, branch.needed ≠ []) ∧
      (∃ template, endpoint.path.select endpoint.sampleArguments = some template ∧
        expand template endpoint.sampleSlot? = .ok path) ∧
      ((∀ template ∈ definition.templates, ∀ name ∈ ["body", "headers", "client"],
          name ∉ slotNames template) →
        ∀ (listify : Datum α → String) (answer : Sent α → Datum α), (∀ s, listify (.text s) = s) →
          ∃ (given : Keywords α) (sent : Sent α),
            (∀ world frame, (evalKeywords world [] keywords).run frame =
              (.ok (given.entries.map fun entry => (some entry.1, entry.2)), frame)) ∧
            callFunction (endpoint.world listify answer) function given =
              (.returned (answer sent), [sent]) ∧
            sent.method = .text method ∧ sent.path = .text path) := by
  have hresolved := resolve_eq_ok.mp h
  obtain ⟨body, hfunction⟩ := hresolved.function_ok
  obtain ⟨template, -, hselect, -, path, hexpand, hpath⟩ := hresolved.samplePath_ok
  obtain ⟨code, hcode, hdefine⟩ := moduleCode_ok hfunction
  obtain ⟨test, htest, hrequest⟩ := testCode_ok hpath
  rw [requestTest_eq] at hrequest
  refine ⟨code, test, _, _, _, path, hcode, htest, hfunction, hdefine, hrequest,
    (PathChoice.writable_of_resolve hresolved.path).needed_ne_nil, ⟨template, hselect, hexpand⟩, ?_⟩
  intro hslots listify answer hlistify
  have hnodup : endpoint.sampleArguments.Nodup := by
    apply nodup_sampleArguments
    rw [hresolved.required]
    exact Arguments.nodup_requiredNames _ _ fun t ht => hslots t ht "body" (by decide)
  obtain ⟨sent, hcall, hmethod, hsent⟩ :=
    hresolved.call_samples hslots hlistify answer hnodup hfunction hpath
  refine ⟨endpoint.sampleCall hnodup, sent, ?_, hcall, hmethod, hsent⟩
  intro world frame
  rw [evalKeywords_samples]
  simp [sampleCall, sampleEntries, Function.comp_def]

theorem test_expects_term_vectors :
    let listify : Datum Unit → String := fun | .text s => s | _ => ""
    let definition := Definition.ofTemplates "termvectors" "/\x7bindex\x7d/_termvectors/\x7bid\x7d"
      ["/\x7bindex\x7d/_termvectors"]
    ∃ endpoint test function keywords given sent,
      resolve ⟨false, [], "", "helpers"⟩ definition = .ok endpoint ∧
      endpoint.testCode = .ok test ∧ endpoint.function = .ok function ∧
      (∀ template ∈ definition.templates, ∀ name ∈ ["body", "headers", "client"],
        name ∉ slotNames template) ∧
      (∃ method, expectation "termvectors" keywords method "test_index/_termvectors/test_id" ∈ test) ∧
      callFunction (endpoint.world listify Sent.path) function given =
        (.returned (.text "test_index/_termvectors/test_id"), [sent]) := by
  intro listify definition
  have hlocation : Location.resolve "termvectors" false = .ok ⟨[], "termvectors"⟩ := by decide
  have hresolve := resolve_ofTemplates hlocation rfl PathChoice.resolve_term_vectors
  have hslots : ∀ template ∈ definition.templates, ∀ name ∈ ["body", "headers", "client"],
      name ∉ slotNames template := by
    decide
  obtain ⟨code, test, function, keywords, method, path, -, htest, hfunction, -, hmem, -,
    ⟨template, hselect, hexpand⟩, hsends⟩ := test_expects_what_function_sends (α := Unit) hresolve
  obtain ⟨given, sent, -, hcall, -, hsent⟩ := hsends hslots listify Sent.path fun _ => rfl
  have htemplate : some "\x7bindex\x7d/\x7bendpoint\x7d/\x7bid\x7d" = some template := hselect
  cases htemplate
  have hvalue : Except.ok "test_index/_termvectors/test_id" = Except.ok (ε := String) path := by
    rw [← hexpand]
    decide
  cases hvalue
  rw [hsent] at hcall
  exact ⟨_, test, function, keywords, given, sent, hresolve, htest, hfunction, hslots, ⟨method, hmem⟩, hcall⟩

end Endpoint

end ClientForge
