import ClientForge.Proofs.Endpoint.Call
import ClientForge.Proofs.Endpoint.Coverage

namespace ClientForge

open Code Template

variable {α : Type}

def Code.Keywords.withNone (keywords : Keywords α) (argument : String) : Keywords α where
  entries := Entries.put keywords.entries argument .none
  nodup := Entries.nodup_keys_put keywords.nodup argument .none

namespace PathChoice

variable {name : String} {templates : List String} {choice : PathChoice}

theorem slot_of_default (h : resolve name templates = .ok choice) {slot : String}
    (hdefault : Entries.get? choice.defaults slot ≠ none) (supplied : List String) :
    ∃ template, choice.select supplied = some template ∧ slot ∈ slotNames template := by
  rcases form_of_resolve h with ⟨only, -, rfl⟩ | ⟨first, rest, -, -, rfl⟩ | hirregular
  · exact absurd rfl hdefault
  · exact absurd rfl hdefault
  · have hslot : slot = "endpoint" := by
      by_contra hne
      exact hdefault (default_eq_none h hne)
    have hall : ∀ template ∈ choice.templates, "endpoint" ∈ slotNames template := by
      rw [irregular_eq hirregular]
      decide
    have hfallback : choice.fallback ≠ none := by
      rw [irregular_eq hirregular]
      exact Option.some_ne_none _
    have hselect : choice.select supplied ≠ none := by
      rw [select]
      split
      · exact Option.some_ne_none _
      · exact hfallback
    obtain ⟨template, htemplate⟩ := Option.ne_none_iff_exists'.mp hselect
    refine ⟨template, htemplate, ?_⟩
    rw [hslot]
    apply hall
    rcases select_eq_some htemplate with ⟨branch, hbranch, -, rfl⟩ | ⟨-, hclose⟩
    · exact List.mem_append_left _ (List.mem_map_of_mem hbranch)
    · exact List.mem_append_right _ (Option.mem_toList.mpr hclose)

end PathChoice

namespace Endpoint

variable {surroundings : Surroundings} {definition : Definition} {endpoint : Endpoint}
variable {keywords : Keywords α} {argument : String}

theorem getD_withNone (habsent : argument ∉ Entries.keys keywords.entries) (other : String) :
    (Entries.get? (keywords.withNone argument).entries other).getD .none =
      (Entries.get? keywords.entries other).getD .none := by
  rw [Keywords.withNone]
  by_cases hother : argument = other
  · subst hother
    rw [Entries.get?_put_self, Entries.get?_eq_none_of_not_mem habsent]
    rfl
  · rw [Entries.get?_put_of_ne _ _ hother]

theorem lacks_withNone (habsent : argument ∉ Entries.keys keywords.entries) :
    lacks (keywords.withNone argument).entries = lacks keywords.entries := by
  funext other
  rw [lacks, getD_withNone habsent, lacks]

theorem held_withNone_of_ne (keywords : Keywords α) {other : String} (hother : other ≠ argument) :
    endpoint.held (keywords.withNone argument).entries other = endpoint.held keywords.entries other := by
  rw [held_eq_getD, held_eq_getD, Keywords.withNone, Entries.get?_put_of_ne _ _ hother.symm]

theorem held_withNone (habsent : argument ∉ Entries.keys keywords.entries)
    (hdefault : Entries.get? endpoint.path.defaults argument = none) :
    endpoint.held (keywords.withNone argument).entries = endpoint.held keywords.entries := by
  funext other
  by_cases hother : other = argument
  · subst hother
    rw [held_eq_getD, held_eq_getD, hdefault]
    split
    · rfl
    · exact getD_withNone habsent other
  · exact held_withNone_of_ne keywords hother

theorem held_withNone_self (keywords : Keywords α) (hargument : argument ∉ ["headers", "body"]) :
    endpoint.held (keywords.withNone argument).entries argument = .none := by
  rw [held_eq_getD, if_neg fun hboth => hargument hboth.2, Keywords.withNone, Entries.get?_put_self]
  rfl

theorem held_of_default (habsent : argument ∉ Entries.keys keywords.entries) {text : String}
    (hdefault : Entries.get? endpoint.path.defaults argument = some text) :
    endpoint.held keywords.entries argument = .text text := by
  rw [held_eq_getD, Entries.get?_eq_none_of_not_mem habsent, ite_self, hdefault]
  rfl

theorem requestOf_withNone (habsent : argument ∉ Entries.keys keywords.entries)
    (hargument : argument ∈ "headers" :: "body" :: endpoint.takenArguments) (value : String → Datum α) :
    endpoint.requestOf value (keywords.withNone argument).entries =
      endpoint.requestOf value keywords.entries := by
  have huntaken : endpoint.untaken (keywords.withNone argument).entries =
      endpoint.untaken keywords.entries := by
    apply Entries.filter_put (fun key => !("headers" :: "body" :: endpoint.takenArguments).contains key)
    rw [List.contains_iff_mem.mpr hargument]
    rfl
  funext path
  rw [requestOf, requestOf, huntaken, getD_withNone habsent]

theorem outcome_withNone (listify : Datum α → String) (answer : Sent α → Datum α)
    (habsent : argument ∉ Entries.keys keywords.entries)
    (hargument : argument ∈ "headers" :: "body" :: endpoint.takenArguments) (value : String → Datum α) :
    endpoint.outcome listify answer value (keywords.withNone argument).entries =
      endpoint.outcome listify answer value keywords.entries := by
  rw [outcome, outcome, requestOf_withNone habsent hargument]

theorem Resolved.call_of_client (h : Resolved surroundings definition endpoint) {function : Stmt}
    (hfunction : endpoint.function = .ok function) (world : World α)
    (hclient : "client" ∈ Entries.keys keywords.entries) :
    callFunction world function keywords = (.raised "TypeError"
      (endpoint.functionName ++ "() got multiple values for argument '" ++ "client" ++ "'"), []) := by
  obtain ⟨body, hdefine⟩ := h.function_ok
  rw [hfunction] at hdefine
  cases hdefine
  exact Endpoint.call_of_client world _ body hclient

theorem outcome_ne_typeError (listify : Datum α → String) (answer : Sent α → Datum α)
    (value : String → Datum α) (entries : Entries (Datum α)) (message : String) :
    endpoint.outcome listify answer value entries ≠ (.raised "TypeError" message, []) := by
  intro h
  rw [outcome] at h
  split at h <;> simp at h

theorem Resolved.call_withNone (h : Resolved surroundings definition endpoint) {function : Stmt}
    (hfunction : endpoint.function = .ok function) (listify : Datum α → String)
    (answer : Sent α → Datum α) (habsent : argument ∉ Entries.keys keywords.entries)
    (hargument : argument ∈ "headers" :: "body" :: endpoint.takenArguments)
    (hclient : argument ≠ "client")
    (hdefault : Entries.get? endpoint.path.defaults argument = none ∨
      argument ∈ endpoint.arguments.required ∨ "client" ∈ endpoint.arguments.required) :
    callFunction (endpoint.world listify answer) function (keywords.withNone argument) =
      callFunction (endpoint.world listify answer) function keywords := by
  have hkeys : "client" ∈ Entries.keys (keywords.withNone argument).entries ↔
      "client" ∈ Entries.keys keywords.entries :=
    Entries.mem_keys_put.trans (or_iff_left hclient.symm)
  by_cases hgiven : "client" ∈ Entries.keys keywords.entries
  · rw [h.call_of_client hfunction _ hgiven, h.call_of_client hfunction _ (hkeys.mpr hgiven)]
  · rw [h.call_eq listify answer _ hgiven hfunction, h.call_eq listify answer _ (mt hkeys.mp hgiven) hfunction,
      lacks_withNone habsent]
    -- both calls lack the same arguments; where they lack none, the argument has no default
    cases hfind : endpoint.arguments.required.find? (lacks keywords.entries) with
    | some missing => rfl
    | none =>
      have hnone : Entries.get? endpoint.path.defaults argument = none := by
        rcases hdefault with hnone | hrequired | hrequired
        · exact hnone
        · exact absurd (mem_keys_of_complete hfind hrequired) habsent
        · exact absurd (mem_keys_of_complete hfind hrequired) hgiven
      dsimp only
      rw [held_withNone habsent hnone, outcome_withNone listify answer habsent hargument]

theorem Resolved.client_refused (h : Resolved surroundings definition endpoint) {function : Stmt}
    (hfunction : endpoint.function = .ok function) (listify : Datum α → String)
    (answer : Sent α → Datum α) (hclient : "client" ∉ Entries.keys keywords.entries) :
    callFunction (endpoint.world listify answer) function (keywords.withNone "client") ≠
      callFunction (endpoint.world listify answer) function keywords := by
  rw [h.call_of_client hfunction _ (Entries.mem_keys_put.mpr (.inr rfl)),
    h.call_eq listify answer _ hclient hfunction]
  cases endpoint.arguments.required.find? (lacks keywords.entries) with
  | some missing => simp
  | none => exact (outcome_ne_typeError listify answer _ _ _).symm

theorem Resolved.select_withNone (h : Resolved surroundings definition endpoint)
    (hdefault : Entries.get? endpoint.path.defaults argument ≠ none) (keywords : Keywords α) :
    endpoint.path.select (suppliedOf (endpoint.held (keywords.withNone argument).entries)
        ("body" :: endpoint.takenArguments)) =
      endpoint.path.select (suppliedOf (endpoint.held keywords.entries) ("body" :: endpoint.takenArguments)) := by
  apply PathChoice.select_congr
  intro branch hbranch slot hslot
  have hname : slot ∈ "body" :: endpoint.takenArguments :=
    List.mem_cons_of_mem _ (mem_takenArguments.mpr (.inl (PathChoice.mem_names_of_needed hbranch hslot)))
  rw [names_suppliedOf _ _ slot hname, names_suppliedOf _ _ slot hname, held_withNone_of_ne]
  rintro rfl
  exact hdefault (PathChoice.defaults_of_needed h.path hbranch hslot)

theorem Resolved.default_hidden (h : Resolved surroundings definition endpoint) {function : Stmt}
    (hfunction : endpoint.function = .ok function)
    (hdefault : Entries.get? endpoint.path.defaults argument ≠ none)
    (hrequired : argument ∉ endpoint.arguments.required)
    (hclient : "client" ∉ endpoint.arguments.required) :
    ∃ (listify : Datum α → String) (answer : Sent α → Datum α) (keywords : Keywords α),
      argument ∉ Entries.keys keywords.entries ∧
      callFunction (endpoint.world listify answer) function (keywords.withNone argument) ≠
        callFunction (endpoint.world listify answer) function keywords := by
  obtain rfl : argument = "endpoint" := by
    by_contra hne
    exact hdefault (PathChoice.default_eq_none h.path hne)
  obtain ⟨text, htext⟩ := Option.ne_none_iff_exists'.mp hdefault
  let keywords : Keywords α := emptyTexts endpoint.arguments.required
  let listify : Datum α → String := fun datum => if datum.isNone then "" else "x"
  have habsent : "endpoint" ∉ Entries.keys keywords.entries := mt mem_keys_emptyTexts.mp hrequired
  have hgiven : "client" ∉ Entries.keys keywords.entries := mt mem_keys_emptyTexts.mp hclient
  have hhidden : "client" ∉ Entries.keys (keywords.withNone "endpoint").entries := by
    rw [Keywords.withNone, Entries.mem_keys_put, not_or]
    exact ⟨hgiven, by decide⟩
  have hcomplete : endpoint.arguments.required.find? (lacks keywords.entries) = none :=
    not_lacks_emptyTexts (List.Subset.refl _)
  let given := endpoint.held keywords.entries
  let hidden := endpoint.held (keywords.withNone "endpoint").entries
  obtain ⟨template, htemplate, hslot⟩ := PathChoice.slot_of_default h.path hdefault
    (suppliedOf given ("body" :: endpoint.takenArguments))
  refine ⟨listify, Sent.path, keywords, habsent, ?_⟩
  rw [h.call_of_select listify _ hgiven hfunction hcomplete htemplate,
    h.call_of_select listify _ hhidden hfunction (by rwa [lacks_withNone habsent])
      ((h.select_withNone hdefault keywords).trans htemplate)]
  intro heq
  have hpaths : fill (fun name => listify (hidden name)) template = fill (fun name => listify (given name)) template := by
    simpa [requestOf] using congrArg Prod.fst heq
  have hnone : listify (hidden "endpoint") = "" := congrArg listify (held_withNone_self keywords (by decide))
  have hsome : listify (given "endpoint") = "x" := congrArg listify (held_of_default habsent htext)
  have hshorter (name : String) : (listify (hidden name)).length ≤ (listify (given name)).length := by
    by_cases hname : name = "endpoint"
    · rw [hname, hnone]
      exact Nat.zero_le _
    · exact Nat.le_of_eq (congrArg (fun datum => (listify datum).length) (held_withNone_of_ne keywords hname))
  have hshort : (listify (hidden "endpoint")).length < (listify (given "endpoint")).length := by
    rw [hnone, hsome]
    decide
  exact fill_ne_fill hshorter hshort hslot hpaths

/-- To give an argument no value is to leave it out, unless there is a default that only leaving it
out brings, or the argument is called like the first parameter of the function. -/
theorem none_means_absent_iff (h : resolve surroundings definition = .ok endpoint)
    (hargument : argument ∈ "headers" :: "body" :: endpoint.takenArguments) :
    ∃ function, endpoint.function = .ok function ∧
      ((∀ (listify : Datum α → String) (answer : Sent α → Datum α) (keywords : Keywords α),
          argument ∉ Entries.keys keywords.entries →
          callFunction (endpoint.world listify answer) function (keywords.withNone argument) =
            callFunction (endpoint.world listify answer) function keywords) ↔
        argument ≠ "client" ∧
          (Entries.get? endpoint.path.defaults argument = none ∨
            argument ∈ endpoint.arguments.required ∨ "client" ∈ endpoint.arguments.required)) := by
  have hresolved := resolve_eq_ok.mp h
  obtain ⟨_, hfunction⟩ := hresolved.function_ok
  refine ⟨_, hfunction, fun hsame => ⟨?_, ?_⟩, ?_⟩
  · rintro rfl
    let keywords : Keywords α := ⟨[], List.nodup_nil⟩
    have hclient : "client" ∉ Entries.keys keywords.entries := List.not_mem_nil
    exact hresolved.client_refused hfunction (fun _ => "") Sent.path hclient
      (hsame _ _ keywords hclient)
  · by_contra hhidden
    rw [not_or, not_or] at hhidden
    obtain ⟨listify, answer, keywords, habsent, hne⟩ :=
      hresolved.default_hidden (α := α) hfunction hhidden.1 hhidden.2.1 hhidden.2.2
    exact hne (hsame listify answer keywords habsent)
  · rintro ⟨hclient, hdefault⟩ listify answer keywords habsent
    exact hresolved.call_withNone hfunction listify answer habsent hargument hclient hdefault

theorem document_without_id :
    let keywords : Keywords Unit := ⟨[("index", .text "books")], by decide⟩
    let definition := Definition.ofTemplates "index" "/\x7bindex\x7d/_doc/\x7bid\x7d"
      ["/\x7bindex\x7d/_doc"]
    ∃ endpoint function, resolve ⟨false, [], "", "helpers"⟩ definition = .ok endpoint ∧
      "id" ∈ "headers" :: "body" :: endpoint.takenArguments ∧ endpoint.function = .ok function ∧
      callFunction (endpoint.world (fun _ => "x") Sent.path) function (keywords.withNone "id") =
        callFunction (endpoint.world (fun _ => "x") Sent.path) function keywords := by
  intro keywords definition
  have hid : "id" ∈ "headers" :: "body" :: indexing.takenArguments := by decide
  obtain ⟨function, hfunction, hsame⟩ := none_means_absent_iff (α := Unit) resolve_indexing hid
  exact ⟨indexing, function, resolve_indexing, hid, hfunction,
    hsame.mpr ⟨by decide, .inl rfl⟩ _ Sent.path keywords (by decide)⟩

theorem segment_without_value :
    let listify : Datum Unit → String := fun | .text s => s | _ => "None"
    let keywords : Keywords Unit := ⟨[("index", .text "books")], by decide⟩
    let definition := Definition.ofTemplates "termvectors" "/\x7bindex\x7d/_termvectors/\x7bid\x7d"
      ["/\x7bindex\x7d/_termvectors"]
    ∃ endpoint function, resolve ⟨false, [], "", "helpers"⟩ definition = .ok endpoint ∧
      "endpoint" ∈ endpoint.takenArguments ∧ endpoint.function = .ok function ∧
      (callFunction (endpoint.world listify Sent.path) function keywords).1 =
        .returned (.text "books/_termvectors") ∧
      (callFunction (endpoint.world listify Sent.path) function (keywords.withNone "endpoint")).1 =
        .returned (.text "books/None") := by
  intro listify keywords definition
  have hlocation : Location.resolve "termvectors" false = .ok ⟨[], "termvectors"⟩ := by decide
  let endpoint : Endpoint := ⟨definition, ⟨[], "termvectors"⟩, MethodChoice.resolve "termvectors" "GET",
    ⟨[⟨["index", "id"], "\x7bindex\x7d/\x7bendpoint\x7d/\x7bid\x7d"⟩],
      some "\x7bindex\x7d/\x7bendpoint\x7d", [("endpoint", "_termvectors")]⟩,
    ⟨[], definition.parts, Arguments.requiredNames "termvectors"
      ["/\x7bindex\x7d/_termvectors/\x7bid\x7d", "/\x7bindex\x7d/_termvectors"] false⟩, "", "helpers"⟩
  have hresolve : resolve ⟨false, [], "", "helpers"⟩ definition = .ok endpoint :=
    resolve_ofTemplates hlocation rfl PathChoice.resolve_term_vectors
  have hresolved := resolve_eq_ok.mp hresolve
  obtain ⟨body, hfunction⟩ := hresolved.function_ok
  have htaken : "endpoint" ∈ endpoint.takenArguments := by decide
  have hclient : "client" ∉ Entries.keys keywords.entries ∧
      "client" ∉ Entries.keys (keywords.withNone "endpoint").entries := by
    decide
  have hcomplete : endpoint.arguments.required.find? (lacks keywords.entries) = none ∧
      endpoint.arguments.required.find? (lacks (keywords.withNone "endpoint").entries) = none := by
    decide
  let given := endpoint.held keywords.entries
  let hidden := endpoint.held (keywords.withNone "endpoint").entries
  let names := "body" :: endpoint.takenArguments
  have hselect : endpoint.path.select (suppliedOf given names) = some "\x7bindex\x7d/\x7bendpoint\x7d" ∧
      endpoint.path.select (suppliedOf hidden names) = some "\x7bindex\x7d/\x7bendpoint\x7d" := by
    decide
  have hpath : fill (fun name => listify (given name)) "\x7bindex\x7d/\x7bendpoint\x7d" =
        "books/_termvectors" ∧
      fill (fun name => listify (hidden name)) "\x7bindex\x7d/\x7bendpoint\x7d" = "books/None" := by
    decide
  refine ⟨endpoint, _, hresolve, htaken, hfunction, ?_, ?_⟩
  · rw [hresolved.call_of_select listify Sent.path hclient.1 hfunction hcomplete.1 hselect.1, hpath.1]
    rfl
  · rw [hresolved.call_of_select listify Sent.path hclient.2 hfunction hcomplete.2 hselect.2, hpath.2]
    rfl

end Endpoint

end ClientForge
