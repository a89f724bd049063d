import ClientForge.Proofs.Endpoint.Call

namespace ClientForge

namespace Code

def popped : Expr → List Expr → List String
  | .attribute (.name "arguments") "pop", .constant (.text key) :: _ => [key]
  | _, _ => []

mutual

def Expr.pops : Expr → List String
  | .name _ | .constant _ | .formatted _ | .emptyDict => []
  | .attribute object _ => object.pops
  | .call function args keywords =>
    popped function args ++ function.pops ++ popsEach args ++ popsKeywords keywords
  | .conjunction operands => popsEach operands
  | .compare left _ right => left.pops ++ right.pops
  | .choice value test other => test.pops ++ value.pops ++ other.pops
  | .filterDict key value _ source test => source.pops ++ test.pops ++ key.pops ++ value.pops
  | .tuple items => popsEach items
  | .item object index => object.pops ++ index.pops
  | .negative operand => operand.pops

def popsEach : List Expr → List String
  | [] => []
  | e :: rest => e.pops ++ popsEach rest

def popsKeywords : List (Option String × Expr) → List String
  | [] => []
  | (_, e) :: rest => e.pops ++ popsKeywords rest

end

mutual

def Stmt.pops : Stmt → List String
  | .expr e => e.pops
  | .assign target value => value.pops ++ target.pops
  | .importNames _ _ | .importModule _ => []
  | .raise exception => exception.pops
  | .give value => value.pops
  | .check test => test.pops
  | .branch test body other => test.pops ++ popsAll body ++ popsAll other
  | .define _ _ _ body => popsAll body
  | .inContext context body => context.pops ++ popsAll body

def popsAll : List Stmt → List String
  | [] => []
  | stmt :: rest => stmt.pops ++ popsAll rest

end

theorem popsAll_append (first second : List Stmt) :
    popsAll (first ++ second) = popsAll first ++ popsAll second := by
  induction first with
  | nil => rfl
  | cons stmt rest ih => rw [List.cons_append, popsAll, ih, popsAll, List.append_assoc]

theorem popsAll_map {α : Type} (stmt : α → Stmt) (items : List α) :
    popsAll (items.map stmt) = items.flatMap fun item => (stmt item).pops := by
  induction items with
  | nil => rfl
  | cons item rest ih => rw [List.map_cons, popsAll, ih, List.flatMap_cons]

end Code

open Code Template

theorem popsEach_suppliedTests (names : List String) : popsEach (names.map suppliedTest) = [] := by
  induction names with
  | nil => rfl
  | cons name rest ih => exact ih

theorem pops_of_all? {operands : List Expr} {test : Expr} (h : Expr.all? operands = some test) :
    test.pops = popsEach operands := by
  match operands, h with
  | [operand], rfl => exact (List.append_nil _).symm
  | _ :: _ :: _, rfl => rfl

namespace PathChoice

variable {choice : PathChoice} {stmts : List Stmt}

theorem pops_assignPath (template : String) : (assignPath template).pops = [] := by
  rw [assignPath, Template.code]
  split <;> rfl

theorem popsAll_chain {other : List Stmt} {branches : List PathBranch}
    (h : chain other branches = .ok stmts) : popsAll stmts = popsAll other := by
  induction branches generalizing stmts with
  | nil =>
    cases h
    rfl
  | cons branch rest ih =>
    rw [chain, bind_eq_ok] at h
    obtain ⟨others, hothers, h⟩ := h
    split at h
    · next test htest =>
      cases h
      have hbody : popsAll [assignPath branch.template] = [] := by
        rw [popsAll, pops_assignPath, popsAll]
        rfl
      rw [popsAll, popsAll, Stmt.pops, pops_of_all? htest, popsEach_suppliedTests, hbody,
        ih hothers]
      simp
    · cases h

theorem popsAll_code (h : choice.code = .ok stmts) : popsAll stmts = [] := by
  rw [PathChoice.code] at h
  split at h
  · rw [popsAll_chain h, otherwise]
    split
    · rw [popsAll, pops_assignPath, popsAll]
      rfl
    · rfl
  · split at h
    · cases h
      rw [popsAll, pops_assignPath, popsAll]
      rfl
    · cases h

end PathChoice

theorem MethodChoice.pops_value (default : String) (branches : List MethodBranch) :
    (MethodChoice.value default branches).pops = [] := by
  induction branches with
  | nil => rfl
  | cons branch rest ih => exact ih

namespace Endpoint

theorem pops_takeArgument (defaults : Entries String) (argument : String) :
    (takeArgument defaults argument).pops = [argument] := by
  rw [takeArgument]
  cases Entries.get? defaults argument <;> rfl

variable {surroundings : Surroundings} {definition : Definition} {endpoint : Endpoint} {α : Type}

theorem popsAll_preparation (endpoint : Endpoint) :
    popsAll endpoint.preparation = "headers" :: "body" :: endpoint.takenArguments := by
  have hguards : popsAll (endpoint.arguments.required.map requireArgument) = [] := by
    rw [popsAll_map, List.flatMap_eq_nil_iff]
    intro argument _
    rfl
  have htakes : popsAll (("body" :: endpoint.takenArguments).map
      (takeArgument endpoint.path.defaults)) = "body" :: endpoint.takenArguments := by
    simp only [popsAll_map, pops_takeArgument, List.flatMap_singleton']
  have hmethod : popsAll [endpoint.method.code] = [] := by
    rw [MethodChoice.code, popsAll, Stmt.pops, MethodChoice.pops_value]
    rfl
  rw [preparation, popsAll, popsAll_append, hguards, popsAll_append, takes, popsAll_append, htakes,
    hmethod, List.append_nil]
  rfl

theorem Resolved.held_eq_of_path (h : Resolved surroundings definition endpoint)
    (entries : Entries (Datum α)) {argument : String} (hpath : argument ∈ endpoint.path.names) :
    endpoint.held entries argument =
      if argument ∈ ["headers", "body"] then .none else endpoint.valueOf entries argument := by
  rw [held_eq_getD, valueOf, valueIn]
  simp only [mem_takenArguments.mpr (.inl hpath), true_and]
  split
  · next hfixed =>
    have hne : argument ≠ "endpoint" := by
      rintro rfl
      simp at hfixed
    rw [PathChoice.default_eq_none h.path hne]
    rfl
  · rfl

def Arrives (α : Type) (endpoint : Endpoint) (argument : String) : Prop :=
  ∀ (world : World α) (keywords : Keywords α) (value : Datum α),
    "client" ∉ Entries.keys keywords.entries →
    Entries.get? keywords.entries argument = some value → value.isNone = false →
    match endpoint.arguments.required.find? (lacks keywords.entries) with
    | some missing =>
      (runEach world endpoint.preparation).run (start keywords.entries) =
        (.error (.raised "ValueError" (missingText missing)), start keywords.entries)
    | none =>
      ∃ frame, (runEach world endpoint.preparation).run (start keywords.entries) = (.ok (), frame) ∧
        Entries.get? frame.locals (localName argument) = some value

theorem Resolved.arrives (h : Resolved surroundings definition endpoint) {argument : String}
    (hargument : argument ∈ endpoint.path.names)
    (hfixed : argument ∉ ["headers", "body"] ∨ "client" ∈ endpoint.arguments.required) :
    Arrives α endpoint argument := by
  intro world keywords value hclient hvalue _
  cases hfind : endpoint.arguments.required.find? (lacks keywords.entries) with
  | some missing => exact endpoint.run_preparation_of_missing world hfind
  | none =>
    have hfixed : argument ∉ ["headers", "body"] := by
      refine hfixed.resolve_right fun hrequired => ?_
      exact hclient (mem_keys_of_complete hfind hrequired)
    obtain ⟨frame, hrun, hframe, -⟩ := endpoint.run_preparation world hfind
    refine ⟨frame, hrun, ?_⟩
    rw [hframe.holds argument (List.mem_cons_of_mem _ (mem_takenArguments.mpr (.inl hargument))),
      h.held_eq_of_path _ hargument, if_neg hfixed, valueOf, valueIn, hvalue]
    rfl

theorem Resolved.not_arrives (h : Resolved surroundings definition endpoint) {argument : String}
    (hargument : argument ∈ endpoint.path.names) (hfixed : argument ∈ ["headers", "body"])
    (hrequired : "client" ∉ endpoint.arguments.required) : ¬Arrives α endpoint argument := by
  intro harrives
  let keywords : Keywords α := emptyTexts (argument :: endpoint.arguments.required)
  let world : World α := ⟨fun _ => "", [], fun _ => .none⟩
  have hclient : "client" ∉ Entries.keys keywords.entries := by
    rw [mem_keys_emptyTexts, List.mem_cons, not_or]
    refine ⟨?_, hrequired⟩
    rintro rfl
    revert hfixed
    decide
  have hvalue : Entries.get? keywords.entries argument = some (.text "") := by
    rw [get?_emptyTexts, if_pos List.mem_cons_self]
  have hcomplete : endpoint.arguments.required.find? (lacks keywords.entries) = none :=
    not_lacks_emptyTexts (List.subset_cons_self argument endpoint.arguments.required)
  have harrived := harrives world keywords _ hclient hvalue rfl
  rw [hcomplete] at harrived
  obtain ⟨frame, hrun, harrived⟩ := harrived
  obtain ⟨after, hprepared, hafter, -⟩ := endpoint.run_preparation world hcomplete
  rw [hrun] at hprepared
  cases hprepared
  rw [hafter.holds argument (List.mem_cons_of_mem _ (mem_takenArguments.mpr (.inl hargument))),
    h.held_eq_of_path _ hargument, if_pos hfixed] at harrived
  cases harrived

theorem Resolved.nodup_pops_iff (h : Resolved surroundings definition endpoint) {path : List Stmt}
    (hpath : endpoint.path.code = .ok path) :
    (popsAll (endpoint.preparation ++ path ++ [collectParams, sendRequest])).Nodup ↔
      ∀ argument ∈ ["headers", "body"], argument ∉ endpoint.path.names := by
  have hpops : popsAll (endpoint.preparation ++ path ++ [collectParams, sendRequest]) =
      "headers" :: "body" :: endpoint.takenArguments := by
    rw [popsAll_append, popsAll_append, popsAll_preparation, PathChoice.popsAll_code hpath,
      List.append_nil]
    exact List.append_nil _
  rw [hpops, List.nodup_cons, List.nodup_cons, List.mem_cons, h.mem_takenArguments_iff (.inr rfl),
    h.mem_takenArguments_iff (.inl rfl)]
  simp [endpoint.nodup_takenArguments]

/-- Exactly those arguments of a path arrive that are not taken before for every endpoint, as two of
the names that a template may have are. -/
theorem path_arguments_arrive_iff (h : resolve surroundings definition = .ok endpoint) :
    ∃ path, endpoint.path.code = .ok path ∧
      endpoint.functionBody = .ok (endpoint.preparation ++ path ++ [collectParams, sendRequest]) ∧
      (∀ argument ∈ endpoint.path.names, Arrives α endpoint argument ↔
        argument ∉ ["headers", "body"] ∨ "client" ∈ endpoint.arguments.required) ∧
      ((popsAll (endpoint.preparation ++ path ++ [collectParams, sendRequest])).Nodup ↔
        ∀ argument ∈ ["headers", "body"], argument ∉ endpoint.path.names) ∧
      (endpoint.takenArguments.map localName).Nodup := by
  have hresolved := resolve_eq_ok.mp h
  obtain ⟨path, hpath, hbody⟩ := hresolved.functionBody_eq
  refine ⟨path, hpath, hbody, ?_, hresolved.nodup_pops_iff hpath,
    endpoint.nodup_takenArguments.map localName_injective⟩
  intro argument hargument
  refine ⟨fun harrives => ?_, hresolved.arrives hargument⟩
  by_contra hlost
  rw [not_or, not_not] at hlost
  exact hresolved.not_arrives hargument hlost.1 hlost.2 harrives

theorem id_of_document_arrives :
    let keywords : Keywords Unit := ⟨[("index", .text "books"), ("id", .text "7")], by decide⟩
    let world : World Unit := ⟨fun _ => "", [], fun _ => .none⟩
    let definition := Definition.ofTemplates "index" "/\x7bindex\x7d/_doc/\x7bid\x7d"
      ["/\x7bindex\x7d/_doc"]
    ∃ endpoint frame, resolve ⟨false, [], "", "helpers"⟩ definition = .ok endpoint ∧
      "id" ∈ endpoint.path.names ∧
      (runEach world endpoint.preparation).run (start keywords.entries) = (.ok (), frame) ∧
      Entries.get? frame.locals "_id" = some (.text "7") := by
  intro keywords world definition
  have hid : "id" ∈ indexing.path.names := by decide
  have hcomplete : indexing.arguments.required.find? (lacks keywords.entries) = none := by
    decide
  obtain ⟨path, -, -, harrives, -⟩ := path_arguments_arrive_iff (α := Unit) resolve_indexing
  have harrived := (harrives "id" hid).mpr (.inl (by decide)) world keywords _ (by decide) rfl rfl
  rw [hcomplete] at harrived
  obtain ⟨frame, hrun, hvalue⟩ := harrived
  exact ⟨indexing, frame, resolve_indexing, hid, hrun, hvalue⟩

theorem body_for_path_lost :
    let keywords : Keywords Unit := ⟨[("body", .text "books")], by decide⟩
    let world : World Unit := ⟨fun _ => "", [], fun _ => .none⟩
    let definition := Definition.ofTemplates "example" "/\x7bbody\x7d/_x" []
    ∃ endpoint frame, resolve ⟨false, [], "", "helpers"⟩ definition = .ok endpoint ∧
      "body" ∈ endpoint.path.names ∧
      (runEach world endpoint.preparation).run (start keywords.entries) = (.ok (), frame) ∧
      Entries.get? frame.locals (localName "body") = some .none := by
  intro keywords world definition
  have hlocation : Location.resolve "example" false = .ok ⟨[], "example"⟩ := by decide
  have hpath : PathChoice.resolve "example" ["/\x7bbody\x7d/_x"] =
      .ok ⟨[], some "/\x7bbody\x7d/_x", []⟩ := rfl
  let endpoint : Endpoint := ⟨definition, ⟨[], "example"⟩, MethodChoice.resolve "example" "GET",
    ⟨[], some "/\x7bbody\x7d/_x", []⟩,
    ⟨[], definition.parts, Arguments.requiredNames "example" ["/\x7bbody\x7d/_x"] false⟩, "", "helpers"⟩
  have hresolve : resolve ⟨false, [], "", "helpers"⟩ definition = .ok endpoint :=
    resolve_ofTemplates hlocation rfl hpath
  have hbody : "body" ∈ endpoint.path.names := by decide
  have hcomplete : endpoint.arguments.required.find? (lacks keywords.entries) = none := by
    decide
  obtain ⟨frame, hrun, hframe, -⟩ := endpoint.run_preparation world hcomplete
  refine ⟨endpoint, frame, hresolve, hbody, hrun, ?_⟩
  rw [hframe.holds "body" List.mem_cons_self,
    (resolve_eq_ok.mp hresolve).held_eq_of_path keywords.entries hbody]
  rfl

end Endpoint

end ClientForge
