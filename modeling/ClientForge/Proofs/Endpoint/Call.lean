import ClientForge.Proofs.Choice.Chain
import ClientForge.Proofs.Choice.Rendering
import ClientForge.Proofs.Endpoint.Execution
import ClientForge.Proofs.Endpoint.Resolve

namespace ClientForge

open Code Template

namespace PathChoice

variable {name : String} {templates : List String} {choice : PathChoice}

theorem writable_of_resolve (h : resolve name templates = .ok choice) : choice.Writable :=
  ⟨fun _ hbranch => (needed_of_resolve h hbranch).1, offers_of_resolve h⟩

theorem mem_names_of_resolve (h : resolve name templates = .ok choice) {slot : String}
    (hslot : slot ∈ choice.names) : ∃ template ∈ choice.templates, slot ∈ slotNames template := by
  change slot ∈ distinctFrom [] _ at hslot
  rw [mem_distinctFrom, List.mem_append, List.mem_flatMap, List.mem_flatMap] at hslot
  rcases hslot with hslot | ⟨branch, hbranch, hneeded⟩ | htemplate
  · cases hslot
  · refine ⟨branch.template, ?_, (needed_of_resolve h hbranch).2 hneeded⟩
    exact List.mem_append_left _ (List.mem_map_of_mem hbranch)
  · exact htemplate

theorem irregular_names (h : Irregular.paths.lookup name = some choice) :
    choice.names = ["index", "id", "endpoint"] := by
  rw [irregular_eq h]
  decide

theorem not_mem_names {slot : String} (h : resolve name templates = .ok choice)
    (htemplates : ∀ template ∈ templates, slot ∉ slotNames template)
    (hslot : slot ∉ ["index", "id", "endpoint"]) : slot ∉ choice.names := by
  intro hmem
  cases hname : Irregular.paths.lookup name with
  | none =>
    obtain ⟨template, htemplate, hin⟩ := mem_names_of_resolve h hmem
    exact htemplates template (templates_of_resolve hname h htemplate) hin
  | some irregular =>
    rcases resolve_cases h with ⟨only, rfl, rfl⟩ | ⟨-, hirregular⟩ | ⟨-, hnone, -⟩
    · obtain ⟨template, htemplate, hin⟩ := mem_names_of_resolve h hmem
      exact htemplates template htemplate hin
    · rw [irregular_names hirregular] at hmem
      exact hslot hmem
    · rw [hname] at hnone
      cases hnone

theorem defaults_of_resolve (h : resolve name templates = .ok choice) :
    choice.defaults = [] ∨ choice.defaults = [("endpoint", "_termvectors")] := by
  rcases form_of_resolve h with ⟨template, -, rfl⟩ | ⟨first, rest, -, -, rfl⟩ | hirregular
  · exact .inl rfl
  · exact .inl rfl
  · rw [irregular_eq hirregular]
    exact .inr rfl

theorem default_eq_none (h : resolve name templates = .ok choice) {slot : String}
    (hslot : slot ≠ "endpoint") : Entries.get? choice.defaults slot = none := by
  rcases defaults_of_resolve h with hnil | hone
  · rw [hnil]
    rfl
  · rw [hone, Entries.get?, if_neg hslot.symm]
    rfl

theorem defaults_of_needed (h : resolve name templates = .ok choice) {branch : PathBranch}
    (hbranch : branch ∈ choice.branches) {slot : String} (hslot : slot ∈ branch.needed) :
    Entries.get? choice.defaults slot = none := by
  rcases form_of_resolve h with ⟨only, -, rfl⟩ | ⟨first, rest, -, -, rfl⟩ | hirregular
  · rfl
  · rfl
  · rw [irregular_eq hirregular] at hbranch ⊢
    rw [List.mem_singleton] at hbranch
    subst hbranch
    simp only [List.mem_cons, List.not_mem_nil, or_false] at hslot
    rcases hslot with rfl | rfl <;> decide

end PathChoice

theorem MethodChoice.argument_of_resolve {name first : String} {branch : MethodBranch}
    (h : branch ∈ (MethodChoice.resolve name first).branches) :
    branch.argument = "id" ∨ branch.argument = "body" := by
  simp only [MethodChoice.resolve, Irregular.methods, List.lookup_cons, List.lookup_nil] at h
  split at h
  · rw [Option.getD_some, List.mem_singleton] at h
    exact .inl (by rw [h])
  · split at h
    · rw [Option.getD_some, List.mem_singleton] at h
      exact .inr (by rw [h])
    · cases h

namespace Endpoint

variable {surroundings : Surroundings} {definition : Definition} {endpoint : Endpoint}

theorem mem_takenArguments {name : String} :
    name ∈ endpoint.takenArguments ↔ name ∈ endpoint.path.names ∨
      name ≠ "body" ∧ ∃ branch ∈ endpoint.method.branches, branch.argument = name := by
  rw [takenArguments]
  generalize endpoint.path.names = names
  induction endpoint.method.branches generalizing names with
  | nil => simp
  | cons branch rest ih =>
    rw [List.foldl_cons, ih]
    by_cases hbranch : branch.argument = "body" ∨ names.contains branch.argument = true
    · rw [if_pos hbranch]
      rw [List.contains_iff_mem] at hbranch
      grind
    · rw [if_neg hbranch]
      rw [List.contains_iff_mem] at hbranch
      grind

theorem methodArguments_subset (endpoint : Endpoint) :
    endpoint.method.branches.map (·.argument) ⊆ "body" :: endpoint.takenArguments := by
  intro name hname
  obtain ⟨branch, hbranch, rfl⟩ := List.mem_map.mp hname
  by_cases hbody : branch.argument = "body"
  · exact List.mem_cons.mpr (.inl hbody)
  · exact List.mem_cons_of_mem _ (mem_takenArguments.mpr (.inr ⟨hbody, branch, hbranch, rfl⟩))

theorem nodup_takenArguments (endpoint : Endpoint) : endpoint.takenArguments.Nodup := by
  have hnames := endpoint.path.nodup_names
  rw [takenArguments]
  generalize endpoint.path.names = names at hnames
  induction endpoint.method.branches generalizing names with
  | nil => exact hnames
  | cons branch rest ih =>
    rw [List.foldl_cons]
    apply ih
    split
    · exact hnames
    · next hbranch =>
      rw [not_or, List.contains_iff_mem] at hbranch
      rw [List.nodup_append]
      refine ⟨hnames, by simp, ?_⟩
      rintro name hname other hother rfl
      rw [List.mem_singleton.mp hother] at hname
      exact hbranch.2 hname

theorem Resolved.mem_takenArguments_iff (h : Resolved surroundings definition endpoint)
    {slot : String} (hslot : slot = "body" ∨ slot = "headers") :
    slot ∈ endpoint.takenArguments ↔ slot ∈ endpoint.path.names := by
  refine mem_takenArguments.trans (or_iff_left ?_)
  rintro ⟨hne, branch, hbranch, rfl⟩
  rw [h.method] at hbranch
  rcases MethodChoice.argument_of_resolve hbranch with hid | hbody
  · rw [hid] at hslot
    revert hslot
    decide
  · exact hne hbody

theorem Resolved.not_mem_takenArguments (h : Resolved surroundings definition endpoint)
    {slot : String} (htemplates : ∀ template ∈ definition.templates, slot ∉ slotNames template)
    (hslot : slot = "body" ∨ slot = "headers") : slot ∉ endpoint.takenArguments := by
  rw [h.mem_takenArguments_iff hslot]
  apply PathChoice.not_mem_names h.path htemplates
  rcases hslot with rfl | rfl <;> decide

variable {α : Type}

def valueOf (endpoint : Endpoint) (entries : Entries (Datum α)) (argument : String) : Datum α :=
  valueIn endpoint.path.defaults entries argument

def supplied (endpoint : Endpoint) (entries : Entries (Datum α)) : List String :=
  ("body" :: endpoint.takenArguments).filter fun argument => !(endpoint.valueOf entries argument).isNone

def untaken (endpoint : Endpoint) (entries : Entries (Datum α)) : Entries (Datum α) :=
  entries.filter fun p => !("headers" :: "body" :: endpoint.takenArguments).contains p.1

def request (endpoint : Endpoint) (entries : Entries (Datum α)) (path : String) : Sent α where
  method := .text (endpoint.method.select (endpoint.supplied entries))
  path := .text path
  params := .mapping ((endpoint.untaken entries).filter fun p =>
    Entries.contains endpoint.arguments.params p.1)
  body := endpoint.valueOf entries "body"
  headers := (Entries.get? entries "headers").getD .none

def requestOf (endpoint : Endpoint) (value : String → Datum α) (entries : Entries (Datum α))
    (path : String) : Sent α where
  method := .text (endpoint.method.select (suppliedOf value ("body" :: endpoint.takenArguments)))
  path := .text path
  params := .mapping ((endpoint.untaken entries).filter fun p =>
    Entries.contains endpoint.arguments.params p.1)
  body := value "body"
  headers := (Entries.get? entries "headers").getD .none

def world (endpoint : Endpoint) (listify : Datum α → String) (answer : Sent α → Datum α) : World α :=
  ⟨listify, Text.sorted (Entries.keys endpoint.arguments.params), answer⟩

theorem world_params_contains (endpoint : Endpoint) (listify : Datum α → String)
    (answer : Sent α → Datum α) (name : String) :
    (endpoint.world listify answer).params.contains name =
      Entries.contains endpoint.arguments.params name := by
  rw [Bool.eq_iff_iff, List.contains_iff_mem, Entries.contains_iff]
  exact (List.mergeSort_perm _ _).mem_iff

theorem suppliedOf_valueOf (endpoint : Endpoint) (entries : Entries (Datum α)) :
    suppliedOf (endpoint.valueOf entries) ("body" :: endpoint.takenArguments) =
      endpoint.supplied entries :=
  rfl

theorem names_supplied (endpoint : Endpoint) (entries : Entries (Datum α)) :
    Names (endpoint.supplied entries) (endpoint.valueOf entries) ("body" :: endpoint.takenArguments) :=
  names_suppliedOf _ _

def unfixed (entries : Entries (Datum α)) : Entries (Datum α) :=
  Entries.erase (Entries.erase entries "headers") "body"

/-- The value that the variable of an argument holds. One that the path has as well is gone when it
is taken for the path. -/
def held (endpoint : Endpoint) (entries : Entries (Datum α)) (argument : String) : Datum α :=
  endpoint.valueOf (if argument ∈ endpoint.takenArguments then unfixed entries else entries) argument

theorem get?_unfixed (entries : Entries (Datum α)) (argument : String) :
    Entries.get? (unfixed entries) argument =
      if argument ∈ ["headers", "body"] then none else Entries.get? entries argument := by
  rw [unfixed, Entries.erase, Entries.erase, Entries.get?_filter fun key => decide (key ≠ "body"),
    Entries.get?_filter fun key => decide (key ≠ "headers")]
  by_cases hbody : argument = "body"
  · simp [hbody]
  · by_cases hheaders : argument = "headers" <;> simp [hbody, hheaders]

theorem held_eq_getD (endpoint : Endpoint) (entries : Entries (Datum α)) (argument : String) :
    endpoint.held entries argument =
      (if argument ∈ endpoint.takenArguments ∧ argument ∈ ["headers", "body"] then none
        else Entries.get? entries argument).getD
        (((Entries.get? endpoint.path.defaults argument).map .text).getD .none) := by
  rw [held, valueOf, valueIn]
  by_cases htaken : argument ∈ endpoint.takenArguments
  · simp only [htaken, if_true, true_and, get?_unfixed]
  · simp only [htaken, if_false, false_and]

structure Prepared (endpoint : Endpoint) (value : String → Datum α) (entries : Entries (Datum α))
    (frame : Frame α) : Prop where
  isFree : frame.IsFree
  arguments : Entries.get? frame.locals "arguments" = some (.mapping (endpoint.untaken entries))
  holds : Holds frame value ("body" :: endpoint.takenArguments)
  headers : Entries.get? frame.locals "headers" = some ((Entries.get? entries "headers").getD .none)
  client : Entries.get? frame.locals "client" = some .client
  sent : frame.sent = []

def start (entries : Entries (Datum α)) : Frame α :=
  ⟨[("client", .client), ("arguments", .mapping entries)], []⟩

theorem start_isFree (entries : Entries (Datum α)) : (start entries).IsFree := by
  intro name hname
  simp only [List.mem_cons, List.not_mem_nil, or_false] at hname
  rcases hname with rfl | rfl | rfl | rfl <;> rfl

def takes (endpoint : Endpoint) : List Stmt :=
  [.assign (.name "arguments") (.call (.name "dict") [.name "arguments"] []),
    .assign (.name "headers") (pop "headers" .null)] ++
    ("body" :: endpoint.takenArguments).map (takeArgument endpoint.path.defaults)

theorem run_prepare (endpoint : Endpoint) (world : World α) (entries : Entries (Datum α)) :
    ∃ frame, (runEach world endpoint.takes).run (start entries) = (.ok (), frame) ∧
      Prepared endpoint (endpoint.held entries) entries frame := by
  let defaults := endpoint.path.defaults
  let copied := (start entries).bind "arguments" (.mapping entries)
  let next := (copied.bind "arguments" (.mapping (Entries.erase entries "headers"))).bind "headers"
    ((Entries.get? entries "headers").getD .none)
  let fixed := (next.bind "arguments" (.mapping (unfixed entries))).bind (localName "body")
    (valueIn defaults (Entries.erase entries "headers") "body")
  have hcopied : copied.IsFree := (start_isFree entries).bind _ (by decide)
  have hnext : next.IsFree := (hcopied.bind _ (by decide)).bind _ (by decide)
  have hfixed : fixed.IsFree := (hnext.bind _ (by decide)).bind _ (localName_not_mem "body")
  have hleft : Entries.get? next.locals "arguments" =
      some (.mapping (Entries.erase entries "headers")) := by
    rw [Frame.get?_bind_of_ne _ (by decide), Frame.get?_bind_self]
  have hpop : ((Stmt.assign (.name "headers") (pop "headers" .null)).run world).run copied =
      (.ok (), next) :=
    run_assign _ (eval_pop world (Frame.get?_bind_self _ _) "headers" (eval_null world []))
  have hbody : ((takeArgument defaults "body").run world).run next = (.ok (), fixed) :=
    run_takeArgument world defaults hleft "body"
  have hrest : Entries.get? fixed.locals "arguments" = some (.mapping (unfixed entries)) := by
    rw [Frame.get?_bind_of_ne _ (localName_ne (by decide) (by decide)), Frame.get?_bind_self]
  obtain ⟨after, hrun, htaken⟩ := run_takes world defaults endpoint.nodup_takenArguments hrest
  have hothers (name : String) : localName name ≠ "headers" ∧ localName name ≠ "client" :=
    ⟨localName_ne (by decide) (by decide), localName_ne (by decide) (by decide)⟩
  refine ⟨after, ?_, htaken.isFree hfixed, ?_, ?_, ?_, ?_, htaken.sent⟩
  · rw [takes, runEach_append, runEach_cons, run_copy world (start_isFree entries) rfl]
    dsimp only
    rw [runEach_singleton, hpop]
    dsimp only
    rw [List.map_cons, runEach_cons, hbody]
    exact hrun
  · rw [htaken.arguments, unfixed, Entries.filter_erase, Entries.filter_erase, untaken]
  · intro name hname
    rw [held]
    split
    · next htakes => exact htaken.holds name htakes
    · next htakes =>
      have hbody : name = "body" := (List.mem_cons.mp hname).resolve_right htakes
      subst hbody
      rw [htaken.others (localName "body") (localName_ne (by decide) (by decide)),
        Frame.get?_bind_self, valueIn_erase_of_ne _ (by decide)]
      · rfl
      · rintro name hname heq
        exact htakes (localName_injective heq ▸ hname)
  · rw [htaken.others "headers" (by decide) fun name _ => (hothers name).1,
      Frame.get?_bind_of_ne _ (hothers "body").1, Frame.get?_bind_of_ne _ (by decide),
      Frame.get?_bind_self]
  · rw [htaken.others "client" (by decide) fun name _ => (hothers name).2,
      Frame.get?_bind_of_ne _ (hothers "body").2, Frame.get?_bind_of_ne _ (by decide),
      Frame.get?_bind_of_ne _ (by decide), Frame.get?_bind_of_ne _ (by decide),
      Frame.get?_bind_of_ne _ (by decide)]
    rfl

def Apart (endpoint : Endpoint) (entries : Entries (Datum α)) : Prop :=
  ∀ slot ∈ ["headers", "body"], slot ∈ endpoint.takenArguments → Entries.get? entries slot = none

theorem Resolved.apart (h : Resolved surroundings definition endpoint)
    (hslots : ∀ template ∈ definition.templates,
      "body" ∉ slotNames template ∧ "headers" ∉ slotNames template)
    (entries : Entries (Datum α)) : endpoint.Apart entries := by
  intro slot hslot htaken
  simp only [List.mem_cons, List.not_mem_nil, or_false] at hslot
  rcases hslot with rfl | rfl
  · exact absurd htaken (h.not_mem_takenArguments (fun t ht => (hslots t ht).2) (.inr rfl))
  · exact absurd htaken (h.not_mem_takenArguments (fun t ht => (hslots t ht).1) (.inl rfl))

theorem Apart.held_eq {entries : Entries (Datum α)} (h : endpoint.Apart entries) :
    endpoint.held entries = endpoint.valueOf entries := by
  funext argument
  rw [held_eq_getD, valueOf, valueIn]
  split
  · next hfixed => rw [h argument hfixed.2 hfixed.1]
  · rfl

theorem Prepared.bind {value : String → Datum α} {entries : Entries (Datum α)} {frame : Frame α}
    (h : Prepared endpoint value entries frame) {id : String} (datum : Datum α)
    (hid : id ∈ ["method", "path", "params"]) :
    Prepared endpoint value entries (frame.bind id datum) := by
  have hne : id ≠ "arguments" ∧ id ≠ "headers" ∧ id ≠ "client" ∧
      id ∉ ["dict", "listify", "ValueError", "PARAMS"] ∧ ∀ name, localName name ≠ id := by
    simp only [List.mem_cons, List.not_mem_nil, or_false] at hid
    rcases hid with rfl | rfl | rfl <;>
      exact ⟨by decide, by decide, by decide, by decide, fun _ => localName_ne (by decide) (by decide)⟩
  obtain ⟨harguments, hheaders, hclient, hfree, hlocal⟩ := hne
  refine ⟨h.isFree.bind datum hfree, ?_, ?_, ?_, ?_, h.sent⟩
  · rw [Frame.get?_bind_of_ne _ harguments, h.arguments]
  · intro name hname
    rw [Frame.get?_bind_of_ne _ (hlocal name).symm, h.holds name hname]
  · rw [Frame.get?_bind_of_ne _ hheaders, h.headers]
  · rw [Frame.get?_bind_of_ne _ hclient, h.client]

theorem Prepared.run_request {value : String → Datum α} {entries : Entries (Datum α)} {frame : Frame α}
    (h : Prepared endpoint value entries frame) (listify : Datum α → String)
    (answer : Sent α → Datum α) (hkeys : (Entries.keys entries).Nodup) {path : String}
    (hmethod : Entries.get? frame.locals "method" = some (endpoint.requestOf value entries path).method)
    (hpath : Entries.get? frame.locals "path" = some (.text path)) :
    ∃ after, (runEach (endpoint.world listify answer) [collectParams, sendRequest]).run frame =
        (.error (.returned (answer (endpoint.requestOf value entries path))), after) ∧
      after.sent = [endpoint.requestOf value entries path] := by
  have huntaken : (Entries.keys (endpoint.untaken entries)).Nodup :=
    List.Nodup.sublist (List.filter_sublist.map Prod.fst) hkeys
  have hcollect := run_collectParams (endpoint.world listify answer) h.isFree h.arguments huntaken
  simp only [world_params_contains] at hcollect
  let request := endpoint.requestOf value entries path
  let full := frame.bind "params" request.params
  have hfull : Prepared endpoint value entries full := h.bind _ (by decide)
  have hsend : (sendRequest.run (endpoint.world listify answer)).run full =
      (.error (.returned (answer request)), full.send request) := by
    apply run_sendRequest
    · exact hfull.client
    · rw [Frame.get?_bind_of_ne _ (by decide), hmethod]
    · rw [Frame.get?_bind_of_ne _ (by decide), hpath]
      rfl
    · exact Frame.get?_bind_self _ _
    · exact hfull.holds "body" List.mem_cons_self
    · exact hfull.headers
  refine ⟨full.send request, ?_, ?_⟩
  · rw [runEach_cons, hcollect]
    exact (runEach_singleton _).trans hsend
  · rw [Frame.send, hfull.sent]
    rfl

def outcome (endpoint : Endpoint) (listify : Datum α → String) (answer : Sent α → Datum α)
    (value : String → Datum α) (entries : Entries (Datum α)) : Exit α × List (Sent α) :=
  match endpoint.path.select (suppliedOf value ("body" :: endpoint.takenArguments)) with
  | some template =>
    let request := endpoint.requestOf value entries (fill (fun name => listify (value name)) template)
    (.returned (answer request), [request])
  | none =>
    (.raised "ValueError"
      ("Missing path arguments, expected one of: " ++ PathChoice.expectedText endpoint.path.branches), [])

theorem Resolved.run_decisions (h : Resolved surroundings definition endpoint)
    (listify : Datum α → String) (answer : Sent α → Datum α) {value : String → Datum α}
    {entries : Entries (Datum α)} (hkeys : (Entries.keys entries).Nodup) {frame : Frame α}
    (hframe : Prepared endpoint value entries frame)
    (hmethod : Entries.get? frame.locals "method" =
      some (.text (endpoint.method.select (suppliedOf value ("body" :: endpoint.takenArguments))))) :
    ∃ path after, endpoint.path.code = .ok path ∧
      (runEach (endpoint.world listify answer) (path ++ [collectParams, sendRequest])).run frame =
        (.error (endpoint.outcome listify answer value entries).1, after) ∧
      after.sent = (endpoint.outcome listify answer value entries).2 := by
  let arguments := "body" :: endpoint.takenArguments
  have hpath : endpoint.path.names ⊆ arguments :=
    fun name hname => List.mem_cons_of_mem _ (mem_takenArguments.mpr (.inl hname))
  obtain ⟨path, hcode, hrun⟩ := PathChoice.run_code (endpoint.world listify answer)
    (PathChoice.writable_of_resolve h.path) hframe.isFree (hframe.holds.subset hpath)
    fun name hname => names_suppliedOf value arguments name (hpath hname)
  rw [outcome]
  cases hselect : endpoint.path.select (suppliedOf value arguments) with
  | none =>
    rw [hselect] at hrun
    refine ⟨path, frame, hcode, ?_, hframe.sent⟩
    rw [runEach_append, hrun]
  | some template =>
    rw [hselect] at hrun
    dsimp only at hrun ⊢
    let target := fill (fun name => listify (value name)) template
    have hready : Prepared endpoint value entries (frame.bind "path" (.text target)) :=
      hframe.bind _ (by decide)
    obtain ⟨after, hend, hsent⟩ := hready.run_request listify answer hkeys
      (by rw [Frame.get?_bind_of_ne _ (by decide), hmethod]; rfl) (Frame.get?_bind_self _ _)
    refine ⟨path, after, hcode, ?_, hsent⟩
    rw [runEach_append, hrun]
    exact hend

def preparation (endpoint : Endpoint) : List Stmt :=
  .doc (indentDocs endpoint.docs) :: (endpoint.arguments.required.map requireArgument ++
    (endpoint.takes ++ [endpoint.method.code]))

theorem run_preparation_of_missing (endpoint : Endpoint) (world : World α)
    {entries : Entries (Datum α)} {missing : String}
    (h : endpoint.arguments.required.find? (lacks entries) = some missing) :
    (runEach world endpoint.preparation).run (start entries) =
      (.error (.raised "ValueError" (missingText missing)), start entries) := by
  rw [preparation, runEach_cons, run_doc]
  dsimp only
  rw [runEach_append, run_guards world (start_isFree entries) rfl, h]

theorem run_preparation (endpoint : Endpoint) (world : World α) {entries : Entries (Datum α)}
    (hcomplete : endpoint.arguments.required.find? (lacks entries) = none) :
    ∃ frame, (runEach world endpoint.preparation).run (start entries) = (.ok (), frame) ∧
      Prepared endpoint (endpoint.held entries) entries frame ∧
      Entries.get? frame.locals "method" = some (.text (endpoint.method.select
        (suppliedOf (endpoint.held entries) ("body" :: endpoint.takenArguments)))) := by
  obtain ⟨frame, htakes, hframe⟩ := endpoint.run_prepare world entries
  have hmethod := endpoint.methodArguments_subset
  have hnames := names_suppliedOf (endpoint.held entries) ("body" :: endpoint.takenArguments)
  let chosen := endpoint.method.select
    (suppliedOf (endpoint.held entries) ("body" :: endpoint.takenArguments))
  have hchosen : (endpoint.method.code.run world).run frame =
      (.ok (), frame.bind "method" (.text chosen)) :=
    MethodChoice.run_code (hframe.holds.subset hmethod) fun name hname => hnames name (hmethod hname)
  refine ⟨_, ?_, hframe.bind _ (by decide), Frame.get?_bind_self _ _⟩
  rw [preparation, runEach_cons, run_doc]
  dsimp only
  rw [runEach_append, run_guards world (start_isFree entries) rfl, hcomplete]
  dsimp only
  rw [runEach_append, htakes]
  exact (runEach_singleton _).trans hchosen

theorem call_of_client (world : World α) (name : String) (body : List Stmt) {keywords : Keywords α}
    (h : "client" ∈ Entries.keys keywords.entries) :
    callFunction world (.define name ["client"] (some "arguments") body) keywords =
      (.raised "TypeError" (name ++ "() got multiple values for argument '" ++ "client" ++ "'"), []) := by
  rw [callFunction, Entries.contains_iff.mpr h, if_pos rfl]

theorem call_of_error {world : World α} {body : List Stmt} {keywords : Keywords α}
    {exit : Exit α} {after : Frame α} (name : String) (hclient : "client" ∉ Entries.keys keywords.entries)
    (h : (runEach world body).run (start keywords.entries) = (.error exit, after)) :
    callFunction world (.define name ["client"] (some "arguments") body) keywords =
      (exit, after.sent) := by
  have hcontains : Entries.contains keywords.entries "client" = false := by
    rwa [← Bool.not_eq_true, Entries.contains_iff]
  rw [start] at h
  rw [callFunction, hcontains, if_neg Bool.false_ne_true, h]

theorem functionBody_eq {path : List Stmt} (hpath : endpoint.path.code = .ok path)
    (hdefault : Entries.get? endpoint.path.defaults "body" = none) :
    endpoint.functionBody = .ok (endpoint.preparation ++ path ++ [collectParams, sendRequest]) := by
  have hbody : takeArgument endpoint.path.defaults "body" =
      .assign (.name "body") (pop "body" .null) := by
    rw [takeArgument, hdefault]
    rfl
  rw [functionBody, hpath, preparation, takes, List.map_cons, hbody]
  simp [bind, Except.bind, pure, Except.pure]

theorem Resolved.functionBody_eq (h : Resolved surroundings definition endpoint) :
    ∃ path, endpoint.path.code = .ok path ∧
      endpoint.functionBody = .ok (endpoint.preparation ++ path ++ [collectParams, sendRequest]) := by
  obtain ⟨path, hpath⟩ : ∃ path, endpoint.path.code = .ok path :=
    PathChoice.code_ok (PathChoice.writable_of_resolve h.path)
  exact ⟨path, hpath, Endpoint.functionBody_eq hpath (PathChoice.default_eq_none h.path (by decide))⟩

theorem Resolved.function_eq (h : Resolved surroundings definition endpoint) :
    ∃ path, endpoint.path.code = .ok path ∧
      endpoint.function = .ok (.define endpoint.functionName ["client"] (some "arguments")
        (endpoint.preparation ++ path ++ [collectParams, sendRequest])) := by
  obtain ⟨path, hpath, hbody⟩ := h.functionBody_eq
  refine ⟨path, hpath, ?_⟩
  rw [function, hbody]
  rfl

theorem Resolved.function_ok (h : Resolved surroundings definition endpoint) :
    ∃ body, endpoint.function =
      .ok (.define endpoint.functionName ["client"] (some "arguments") body) := by
  obtain ⟨_, -, hfunction⟩ := h.function_eq
  exact ⟨_, hfunction⟩

theorem Resolved.call_eq (h : Resolved surroundings definition endpoint) (listify : Datum α → String)
    (answer : Sent α → Datum α) (keywords : Keywords α)
    (hclient : "client" ∉ Entries.keys keywords.entries) {function : Stmt}
    (hfunction : endpoint.function = .ok function) :
    callFunction (endpoint.world listify answer) function keywords =
      match endpoint.arguments.required.find? (lacks keywords.entries) with
      | some argument => (.raised "ValueError" (missingText argument), [])
      | none =>
        endpoint.outcome listify answer (endpoint.held keywords.entries) keywords.entries := by
  obtain ⟨path, hpath, hdefine⟩ := h.function_eq
  rw [hfunction, List.append_assoc] at hdefine
  cases hdefine
  cases hfind : endpoint.arguments.required.find? (lacks keywords.entries) with
  | some argument =>
    have hraise : (runEach (endpoint.world listify answer)
        (endpoint.preparation ++ (path ++ [collectParams, sendRequest]))).run (start keywords.entries) =
        (.error (.raised "ValueError" (missingText argument)), start keywords.entries) := by
      rw [runEach_append, endpoint.run_preparation_of_missing _ hfind]
    exact call_of_error _ hclient hraise
  | none =>
    obtain ⟨frame, hprepare, hframe, hmethod⟩ :=
      endpoint.run_preparation (endpoint.world listify answer) hfind
    obtain ⟨_, after, hcode, hdecide, hsent⟩ :=
      h.run_decisions listify answer keywords.nodup hframe hmethod
    rw [hpath] at hcode
    cases hcode
    have hend : (runEach (endpoint.world listify answer)
        (endpoint.preparation ++ (path ++ [collectParams, sendRequest]))).run (start keywords.entries) =
        (.error (endpoint.outcome listify answer (endpoint.held keywords.entries) keywords.entries).1,
          after) := by
      rw [runEach_append, hprepare]
      exact hdecide
    rw [call_of_error endpoint.functionName hclient hend, hsent]

theorem Resolved.call_of_select (h : Resolved surroundings definition endpoint)
    (listify : Datum α → String) (answer : Sent α → Datum α) {keywords : Keywords α}
    (hclient : "client" ∉ Entries.keys keywords.entries) {function : Stmt}
    (hfunction : endpoint.function = .ok function)
    (hcomplete : endpoint.arguments.required.find? (lacks keywords.entries) = none) {template : String}
    (hselect : endpoint.path.select (suppliedOf (endpoint.held keywords.entries)
      ("body" :: endpoint.takenArguments)) = some template) :
    let request := endpoint.requestOf (endpoint.held keywords.entries) keywords.entries
      (fill (fun name => listify (endpoint.held keywords.entries name)) template)
    callFunction (endpoint.world listify answer) function keywords =
      (.returned (answer request), [request]) := by
  rw [h.call_eq listify answer keywords hclient hfunction, hcomplete]
  dsimp only
  rw [outcome, hselect]

/-- The generated function does what was decided about its endpoint: it insists on the required
arguments, in order, and sends one request, by the method and to the path chosen for the arguments
the call supplies. -/
theorem call_follows_decisions (h : resolve surroundings definition = .ok endpoint)
    (hslots : ∀ template ∈ definition.templates,
      "body" ∉ slotNames template ∧ "headers" ∉ slotNames template)
    (listify : Datum α → String) (answer : Sent α → Datum α) (keywords : Keywords α)
    (hclient : "client" ∉ Entries.keys keywords.entries) :
    ∃ function, endpoint.function = .ok function ∧
      match endpoint.arguments.required.find? (lacks keywords.entries),
          endpoint.path.select (endpoint.supplied keywords.entries) with
      | some argument, _ =>
        callFunction (endpoint.world listify answer) function keywords =
          (.raised "ValueError" ("Required argument '" ++ argument ++ "' missing"), [])
      | none, none =>
        callFunction (endpoint.world listify answer) function keywords =
          (.raised "ValueError" ("Missing path arguments, expected one of: " ++
            PathChoice.expectedText endpoint.path.branches), [])
      | none, some template =>
        ∃ path, expand template (fun name => some (listify (endpoint.valueOf keywords.entries name))) =
            .ok path ∧
          callFunction (endpoint.world listify answer) function keywords =
            (.returned (answer (endpoint.request keywords.entries path)),
              [endpoint.request keywords.entries path]) := by
  have hresolved := resolve_eq_ok.mp h
  obtain ⟨path, -, hfunction⟩ := hresolved.function_eq
  have hcall := hresolved.call_eq listify answer keywords hclient hfunction
  rw [(hresolved.apart hslots keywords.entries).held_eq] at hcall
  refine ⟨_, hfunction, ?_⟩
  cases hfind : endpoint.arguments.required.find? (lacks keywords.entries) with
  | some argument =>
    rw [hfind] at hcall
    exact hcall
  | none =>
    rw [hfind] at hcall
    dsimp only at hcall
    rw [outcome, suppliedOf_valueOf] at hcall
    cases hselect : endpoint.path.select (endpoint.supplied keywords.entries) with
    | none =>
      rw [hselect] at hcall
      exact hcall
    | some template =>
      rw [hselect] at hcall
      exact ⟨_, expand_eq fun _ _ => rfl, hcall⟩

def indexing : Endpoint where
  definition := .ofTemplates "index" "/\x7bindex\x7d/_doc/\x7bid\x7d" ["/\x7bindex\x7d/_doc"]
  location := ⟨[], "index"⟩
  method := MethodChoice.resolve "index" "GET"
  path := ⟨[⟨["index", "id"], "/\x7bindex\x7d/_doc/\x7bid\x7d"⟩], some "/\x7bindex\x7d/_doc", []⟩
  arguments := ⟨[], Definition.parts (.ofTemplates "index" "/\x7bindex\x7d/_doc/\x7bid\x7d"
      ["/\x7bindex\x7d/_doc"]),
    Arguments.requiredNames "index" ["/\x7bindex\x7d/_doc/\x7bid\x7d", "/\x7bindex\x7d/_doc"] false⟩
  package := ""
  helperModule := "helpers"

theorem resolve_indexing : resolve ⟨false, [], "", "helpers"⟩ indexing.definition = .ok indexing :=
  resolve_ofTemplates (by decide) rfl (PathChoice.resolve_document_routes (by decide))

theorem call_puts_document :
    let listify : Datum Unit → String := fun | .text s => s | _ => ""
    let keywords : Keywords Unit := ⟨[("index", .text "books"), ("id", .text "7")], by decide⟩
    let definition := Definition.ofTemplates "index" "/\x7bindex\x7d/_doc/\x7bid\x7d"
      ["/\x7bindex\x7d/_doc"]
    ∃ endpoint function, resolve ⟨false, [], "", "helpers"⟩ definition = .ok endpoint ∧
      (∀ template ∈ definition.templates,
        "body" ∉ slotNames template ∧ "headers" ∉ slotNames template) ∧
      "client" ∉ Entries.keys keywords.entries ∧ endpoint.function = .ok function ∧
      callFunction (endpoint.world listify Sent.path) function keywords =
        (.returned (.text "books/_doc/7"),
          [⟨.text "PUT", .text "books/_doc/7", .mapping [], .none, .none⟩]) := by
  intro listify keywords definition
  have hslots : ∀ template ∈ definition.templates,
      "body" ∉ slotNames template ∧ "headers" ∉ slotNames template := by
    decide
  have hclient : "client" ∉ Entries.keys keywords.entries := by decide
  have hrequired : indexing.arguments.required.find? (lacks keywords.entries) = none := by
    decide
  have hselect : indexing.path.select (indexing.supplied keywords.entries) =
      some "/\x7bindex\x7d/_doc/\x7bid\x7d" := by
    decide
  have hexpand : expand "/\x7bindex\x7d/_doc/\x7bid\x7d"
      (fun name => some (listify (indexing.valueOf keywords.entries name))) = .ok "books/_doc/7" := by
    decide
  have hcall := call_follows_decisions resolve_indexing hslots listify Sent.path keywords hclient
  rw [hrequired, hselect] at hcall
  obtain ⟨function, hfunction, path, hpath, hcall⟩ := hcall
  rw [hexpand] at hpath
  cases hpath
  have hmethod : indexing.method.select (indexing.supplied keywords.entries) = "PUT" := by
    decide
  have huntaken : indexing.untaken keywords.entries = [] := by
    have htaken : indexing.takenArguments = ["index", "id"] := by decide
    rw [untaken, htaken]
    rfl
  refine ⟨indexing, function, resolve_indexing, hslots, hclient, hfunction, ?_⟩
  rw [hcall, request, hmethod, huntaken]
  rfl

end Endpoint

end ClientForge
