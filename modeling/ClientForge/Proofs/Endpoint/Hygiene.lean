import ClientForge.Proofs.Code.Scope
import ClientForge.Proofs.Endpoint.Samples

namespace ClientForge

open Code Template

def outsideNames : List String :=
  ["dict", "listify", "ValueError", "PARAMS"]

variable {name : String}

theorem ne_localName (hname : name ∈ outsideNames) (argument : String) : name ≠ localName argument := by
  rintro rfl
  exact localName_not_mem argument hname

theorem reads_suppliedTests (names : List String) : readsEach (names.map suppliedTest) = names.map localName := by
  induction names with
  | nil => rfl
  | cons first rest ih =>
    rw [List.map_cons, readsEach, ih]
    rfl

theorem reads_of_all? {operands : List Expr} {test : Expr} (h : Expr.all? operands = some test) :
    test.reads = readsEach operands := by
  match operands, h with
  | [operand], rfl => exact (List.append_nil _).symm
  | _ :: _ :: _, rfl => rfl

theorem Template.mem_reads_code (hname : name ∈ outsideNames) (template : String) :
    name ∈ (code template).reads ↔ name = "listify" ∧ slotNames template ≠ [] := by
  have hparts (parts : List Piece) :
      name ∈ (formatParts parts).flatMap FormatPart.reads ↔ name = "listify" ∧ slots parts ≠ [] := by
    induction parts with
    | nil => simp [formatParts, slots]
    | cons piece rest ih =>
      rw [formatParts, List.map_cons, List.flatMap_cons, List.mem_append, ← formatParts, ih]
      cases piece with
      | text chars => simp [FormatPart.reads, slots]
      | slot argument =>
        have hslots : slots (.slot argument :: rest) = argument :: slots rest := rfl
        rw [hslots]
        simp only [FormatPart.reads, List.mem_cons, ne_localName hname argument, List.not_mem_nil, or_false, ne_eq,
          reduceCtorEq, not_false_eq_true, and_true]
        exact or_iff_left_of_imp And.left
  rw [code, ← slotNames_strip, slotNames]
  by_cases hslots : slots (pieces (strip template)) = []
  · rw [hslots]
    simp [Expr.text, Expr.reads]
  · rw [if_neg (by simpa using hslots), Expr.reads]
    exact hparts _

namespace PathChoice

variable {choice : PathChoice} {stmts : List Stmt}

theorem mem_reads_chain (hname : name ∈ outsideNames) {other : List Stmt} {branches : List PathBranch}
    (h : chain other branches = .ok stmts) :
    name ∈ readsAll stmts ↔
      (∃ branch ∈ branches, name = "listify" ∧ slotNames branch.template ≠ []) ∨ name ∈ readsAll other := by
  induction branches generalizing stmts with
  | nil =>
    cases h
    simp
  | cons branch rest ih =>
    obtain ⟨others, hrest, h⟩ := bind_eq_ok.mp h
    split at h
    · next test htest =>
      cases h
      have hcondition : name ∉ test.reads := by
        rw [reads_of_all? htest, reads_suppliedTests]
        intro hmem
        obtain ⟨argument, -, heq⟩ := List.mem_map.mp hmem
        exact ne_localName hname argument heq.symm
      have hassign : name ∈ (assignPath branch.template).reads ↔
          name = "listify" ∧ slotNames branch.template ≠ [] :=
        mem_reads_code hname branch.template
      simp only [readsAll, Stmt.reads, List.append_nil, List.mem_append, hassign, ih hrest,
        hcondition, false_or, List.exists_mem_cons_iff, or_assoc]
    · cases h

theorem mem_reads_otherwise (hname : name ∈ outsideNames) :
    name ∈ readsAll choice.otherwise ↔
      (name = "listify" ∧ ∃ template ∈ choice.fallback.toList, slotNames template ≠ []) ∨
        name = "ValueError" ∧ choice.fallback = none := by
  rw [otherwise]
  cases choice.fallback with
  | none => simp [Stmt.fail, readsAll, Stmt.reads, Expr.reads, readsEach, readsKeywords, Expr.text]
  | some template =>
    have hassign : name ∈ (assignPath template).reads ↔ name = "listify" ∧ slotNames template ≠ [] :=
      Template.mem_reads_code hname template
    simp [readsAll, hassign]

theorem mem_reads_code (hname : name ∈ outsideNames) (h : choice.code = .ok stmts) :
    name ∈ readsAll stmts ↔
      (name = "listify" ∧ ∃ template ∈ choice.templates, slotNames template ≠ []) ∨
        name = "ValueError" ∧ choice.fallback = none := by
  have hchain : chain choice.otherwise choice.branches = .ok stmts := by
    rw [PathChoice.code] at h
    split at h
    · exact h
    · next hconditional =>
      have hbranches : choice.branches = [] := by simpa [isConditional] using hconditional
      rw [hbranches, chain, otherwise]
      split at h
      · exact h
      · cases h
  rw [mem_reads_chain hname hchain, mem_reads_otherwise hname, templates]
  simp only [List.mem_append, List.mem_map, or_and_right, exists_or, exists_exists_and_eq_and, and_or_left,
    ← exists_and_left, or_assoc]
  simp only [and_left_comm]

theorem binds_of_chain {other : List Stmt} {branches : List PathBranch} (h : chain other branches = .ok stmts)
    (hother : ∀ entry ∈ bindsAll other, entry.1 = "path") : ∀ entry ∈ bindsAll stmts, entry.1 = "path" := by
  induction branches generalizing stmts with
  | nil =>
    cases h
    exact hother
  | cons branch rest ih =>
    obtain ⟨others, hrest, h⟩ := bind_eq_ok.mp h
    split at h
    · cases h
      have hothers := ih hrest
      simpa [bindsAll, Stmt.binds, assignPath] using hothers
    · cases h

theorem binds_of_code (h : choice.code = .ok stmts) : ∀ entry ∈ bindsAll stmts, entry.1 = "path" := by
  have hotherwise : ∀ entry ∈ bindsAll choice.otherwise, entry.1 = "path" := by
    rw [otherwise]
    cases choice.fallback <;> simp [bindsAll, Stmt.binds, assignPath, Stmt.fail]
  rw [PathChoice.code] at h
  split at h
  · exact binds_of_chain h hotherwise
  · split at h
    · cases h
      simp [bindsAll, Stmt.binds, assignPath]
    · cases h

end PathChoice

theorem MethodChoice.reads_value (default : String) (branches : List MethodBranch) :
    (value default branches).reads = branches.map fun branch => localName branch.argument := by
  induction branches with
  | nil => rfl
  | cons branch rest ih =>
    rw [value, Expr.reads, ih]
    rfl

namespace Endpoint

variable {endpoint : Endpoint} {function : Stmt} {code tests : List Stmt}

inductive Borrows (endpoint : Endpoint) : String → Prop
  | copy : Borrows endpoint "dict"
  | known : Borrows endpoint "PARAMS"
  | slot {template : String} :
    template ∈ endpoint.path.templates → slotNames template ≠ [] → Borrows endpoint "listify"
  | guard : endpoint.arguments.required ≠ [] → Borrows endpoint "ValueError"
  | otherwise : endpoint.path.fallback = none → Borrows endpoint "ValueError"

theorem reads_takeArgument (defaults : Entries String) (argument : String) :
    (takeArgument defaults argument).reads = ["arguments"] := by
  rw [takeArgument]
  cases Entries.get? defaults argument <;> rfl

theorem mem_reads_guards (hname : name ∈ outsideNames) (required : List String) :
    name ∈ required.flatMap (fun argument => (requireArgument argument).reads) ↔
      name = "ValueError" ∧ required ≠ [] := by
  have hreads (argument : String) : (requireArgument argument).reads = ["arguments", "ValueError"] := rfl
  have harguments : name ≠ "arguments" := by
    rintro rfl
    exact absurd hname (by decide)
  rw [List.mem_flatMap]
  simp only [hreads, List.mem_cons, harguments, List.not_mem_nil, or_false, false_or]
  constructor
  · rintro ⟨argument, hargument, rfl⟩
    exact ⟨rfl, List.ne_nil_of_mem hargument⟩
  · rintro ⟨rfl, hne⟩
    obtain ⟨argument, hargument⟩ := List.exists_mem_of_ne_nil _ hne
    exact ⟨argument, hargument, rfl⟩

theorem not_mem_reads_takes (hname : name ∈ outsideNames) (defaults : Entries String) (names : List String) :
    name ∉ names.flatMap fun argument => (takeArgument defaults argument).reads := by
  simp only [reads_takeArgument, List.mem_flatMap, List.mem_singleton, not_exists, not_and]
  rintro argument - rfl
  exact absurd hname (by decide)

theorem not_mem_reads_method (hname : name ∈ outsideNames) (choice : MethodChoice) :
    name ∉ readsAll [choice.code] := by
  have hreads : readsAll [choice.code] = (MethodChoice.value choice.default choice.branches).reads :=
    List.append_nil _
  rw [hreads, MethodChoice.reads_value]
  intro hmem
  obtain ⟨branch, -, heq⟩ := List.mem_map.mp hmem
  exact ne_localName hname _ heq.symm

theorem mem_bodyReads_function (hname : name ∈ outsideNames) (h : endpoint.function = .ok function) :
    name ∈ function.bodyReads ↔ endpoint.Borrows name := by
  obtain ⟨body, hbody, rfl⟩ := except_map_eq_ok.mp h
  obtain ⟨path, hpath, hbody⟩ := bind_eq_ok.mp hbody
  cases hbody
  have hcopy : name ∈ readsAll
      [.assign (.name "arguments") (.call (.name "dict") [.name "arguments"] []),
        .assign (.name "headers") (pop "headers" .null), .assign (.name "body") (pop "body" .null)] ↔
      name = "dict" :=
    (by decide : ∀ name ∈ outsideNames, name ∈ ["dict", "arguments", "arguments", "arguments"] ↔ name = "dict")
      name hname
  have hsend : name ∈ readsAll [collectParams, sendRequest] ↔ name = "PARAMS" :=
    (by decide : ∀ name ∈ outsideNames, name ∈ ["arguments", "PARAMS", "client", "method", "path", "params", "body",
      "headers"] ↔ name = "PARAMS") name hname
  have hdoc : readsAll [.doc (indentDocs endpoint.docs)] = [] := rfl
  simp only [Stmt.bodyReads, readsAll_append, List.mem_append, readsAll_map, hdoc, hcopy, hsend,
    mem_reads_guards hname, not_mem_reads_takes hname, not_mem_reads_method hname,
    PathChoice.mem_reads_code hname hpath, List.not_mem_nil, false_or, or_false]
  constructor
  · rintro (((⟨rfl, hne⟩ | rfl) | ⟨rfl, template, htemplate, hslots⟩ | ⟨rfl, hnone⟩) | rfl)
    · exact .guard hne
    · exact .copy
    · exact .slot htemplate hslots
    · exact .otherwise hnone
    · exact .known
  · rintro (_ | _ | ⟨htemplate, hslots⟩ | hne | hnone)
    · exact .inl (.inl (.inr rfl))
    · exact .inr rfl
    · exact .inl (.inr (.inl ⟨rfl, _, htemplate, hslots⟩))
    · exact .inl (.inl (.inl ⟨rfl, hne⟩))
    · exact .inl (.inr (.inr ⟨rfl, hnone⟩))

def meaning (endpoint : Endpoint) : String → Binding
  | "listify" => .imported endpoint.helperModule
  | "PARAMS" => .constant
  | _ => .builtin

theorem meaning_ne_function (endpoint : Endpoint) (name : String) : endpoint.meaning name ≠ .function := by
  unfold meaning
  split <;> exact Binding.noConfusion

theorem binds_of_function (h : endpoint.function = .ok function) :
    ∃ body, function = .define endpoint.functionName ["client"] (some "arguments") body ∧
      ∀ entry ∈ bindsAll body, entry.1 ∉ outsideNames := by
  obtain ⟨body, hbody, rfl⟩ := except_map_eq_ok.mp h
  obtain ⟨path, hpath, hbody⟩ := bind_eq_ok.mp hbody
  cases hbody
  refine ⟨_, rfl, ?_⟩
  have htakes : ∀ entry ∈ endpoint.takenArguments.flatMap
      (fun argument => (takeArgument endpoint.path.defaults argument).binds), entry.1 ∉ outsideNames := by
    intro entry hentry
    obtain ⟨argument, -, hentry⟩ := List.mem_flatMap.mp hentry
    rw [takeArgument, Stmt.binds, List.mem_singleton] at hentry
    rw [hentry]
    exact localName_not_mem argument
  have hguards : endpoint.arguments.required.flatMap (fun argument => (requireArgument argument).binds) = [] := by
    rw [List.flatMap_eq_nil_iff]
    intro argument _
    rfl
  have hcopy : ∀ entry ∈ bindsAll
      [.assign (.name "arguments") (.call (.name "dict") [.name "arguments"] []),
        .assign (.name "headers") (pop "headers" .null), .assign (.name "body") (pop "body" .null)],
      entry.1 ∉ outsideNames := by
    decide
  have hmethod : bindsAll [endpoint.method.code] = [("method", .constant)] := rfl
  have hsend : bindsAll [collectParams, sendRequest] = [("params", .constant)] := rfl
  intro entry hentry
  simp only [bindsAll_append, bindsAll_map, hguards, List.mem_append, hmethod, hsend, List.mem_singleton] at hentry
  rcases hentry with (((((hdoc | hguard) | hcopied) | htaken) | rfl) | hset) | rfl
  · cases hdoc
  · cases hguard
  · exact hcopy entry hcopied
  · exact htakes entry htaken
  · decide
  · rw [PathChoice.binds_of_code hpath entry hset]
    decide
  · decide

theorem resolves_function (hname : name ∈ outsideNames) (hcode : endpoint.moduleCode = .ok code)
    (hfunction : endpoint.function = .ok function) :
    function.resolves code name = if endpoint.functionName = name then .function else endpoint.meaning name := by
  obtain ⟨made, hmade, hcode⟩ := bind_eq_ok.mp hcode
  obtain rfl := Except.ok.inj (hmade.symm.trans hfunction)
  obtain ⟨body, rfl, hbinds⟩ := binds_of_function hfunction
  cases hcode
  have hparams : name ∉ ["client"] ++ (some "arguments").toList :=
    (by decide : ∀ name ∈ outsideNames, name ∉ ["client"] ++ (some "arguments").toList) name hname
  have hlocal : name ∉ (bindsAll body).map (·.1) := by
    intro hmem
    obtain ⟨entry, hentry, rfl⟩ := List.mem_map.mp hmem
    exact hbinds entry hentry hname
  rw [Stmt.resolves, scope, if_neg hparams, if_neg hlocal]
  have hbound : (bindsAll [
      .doc ("Generated from the '" ++ endpoint.definition.name ++ "' REST API definition."),
      .importNames endpoint.helperModule ["listify"],
      .exports [endpoint.functionName],
      paramsConstant (Text.sorted (Entries.keys endpoint.arguments.params)),
      .define endpoint.functionName ["client"] (some "arguments") body]).reverse =
    [(endpoint.functionName, .function), ("PARAMS", .constant), ("__all__", .constant),
      ("listify", .imported endpoint.helperModule)] := rfl
  rw [hbound]
  by_cases hcalled : endpoint.functionName = name
  · rw [if_pos hcalled, hcalled, List.lookup_cons_self]
    rfl
  · rw [if_neg hcalled, List.lookup_cons, beq_eq_false_iff_ne.mpr (Ne.symm hcalled)]
    simp only [outsideNames, List.mem_cons, List.not_mem_nil, or_false] at hname
    rcases hname with rfl | rfl | rfl | rfl <;> rfl

structure Hygienic (endpoint : Endpoint) (code tests : List Stmt) : Prop where
  function : ∀ function, endpoint.function = .ok function → ∀ name ∈ outsideNames, name ∈ function.bodyReads →
    function.resolves code name = endpoint.meaning name
  request : ∀ path, endpoint.requestTest path ∈ tests →
    (endpoint.requestTest path).resolves tests endpoint.functionName = .imported endpoint.importPath
  refusal : endpoint.refusalTest ∈ tests →
    endpoint.refusalTest.resolves tests endpoint.functionName = .imported endpoint.importPath ∧
      endpoint.refusalTest.resolves tests "pytest" = .module

/-- A name that the generated modules need for something else than their function. -/
inductive Reserved (endpoint : Endpoint) : String → Prop
  | outside {name : String} : endpoint.Borrows name → Reserved endpoint name
  | client : Reserved endpoint "client"
  | request : Reserved endpoint "request"
  | pytest : endpoint.arguments.required ≠ [] → Reserved endpoint "pytest"

theorem outside_of_borrows (h : endpoint.Borrows name) : name ∈ outsideNames := by
  cases h <;> decide

theorem binds_of_testCode (h : endpoint.testCode = .ok tests) :
    bindsAll tests =
      (if endpoint.arguments.required = [] then [] else [("pytest", .module)]) ++
        [(endpoint.functionName, .imported endpoint.importPath),
          ("test_" ++ endpoint.functionName ++ "_performs_request", .function)] ++
        if endpoint.arguments.required = [] then []
        else [("test_" ++ endpoint.functionName ++ "_requires_arguments", .function)] := by
  obtain ⟨path, -, h⟩ := bind_eq_ok.mp h
  cases h
  cases endpoint.arguments.required with
  | nil => rfl
  | cons first rest => rfl

theorem refusalTest_ne (endpoint : Endpoint) (path : String) : endpoint.refusalTest ≠ endpoint.requestTest path := by
  intro heq
  have hname := (Stmt.define.inj heq).1
  rw [String.append_right_inj] at hname
  revert hname
  decide

theorem refusalTest_mem (h : endpoint.testCode = .ok tests) :
    endpoint.refusalTest ∈ tests ↔ endpoint.arguments.required ≠ [] := by
  obtain ⟨path, -, h⟩ := bind_eq_ok.mp h
  cases h
  have hdoc : endpoint.refusalTest ≠
      .doc ("Tests for the generated '" ++ endpoint.definition.name ++ "' endpoint.") :=
    Stmt.noConfusion
  have himport : endpoint.refusalTest ≠ .importNames endpoint.importPath [endpoint.functionName] :=
    Stmt.noConfusion
  cases endpoint.arguments.required with
  | nil => simp [hdoc, himport, refusalTest_ne]
  | cons first rest => simp

theorem lookup_tests (h : endpoint.testCode = .ok tests)
    (hrequest : name ≠ "test_" ++ endpoint.functionName ++ "_performs_request")
    (hrefusal : name ≠ "test_" ++ endpoint.functionName ++ "_requires_arguments") :
    ((bindsAll tests).reverse.lookup name).getD .builtin =
      if endpoint.functionName = name then .imported endpoint.importPath
      else if endpoint.arguments.required ≠ [] ∧ name = "pytest" then .module else .builtin := by
  rw [← beq_eq_false_iff_ne] at hrequest hrefusal
  rw [binds_of_testCode h]
  by_cases hcalled : endpoint.functionName = name
  · subst hcalled
    split <;> simp [List.lookup_cons, hrequest, hrefusal]
  · have hother : (name == endpoint.functionName) = false := beq_eq_false_iff_ne.mpr (Ne.symm hcalled)
    split
    · next hnone => simp [List.lookup_cons, hrequest, hother, hnone]
    · next hsome =>
      by_cases hpytest : name = "pytest"
      · subst hpytest
        simp [List.lookup_cons, hrequest, hrefusal, hother, hsome]
      · have hmodule : (name == "pytest") = false := beq_eq_false_iff_ne.mpr hpytest
        simp [List.lookup_cons, hrequest, hrefusal, hother, hmodule, hpytest]

theorem ne_testName (name suffix : String) : name ≠ "test_" ++ name ++ suffix := by
  intro heq
  have hlength := congrArg (fun text => text.toList.length) heq
  simp only [String.toList_append, List.length_append] at hlength
  have hmark : "test_".toList.length = 5 := rfl
  omega

theorem pytest_ne_testName (name suffix : String) : "pytest" ≠ "test_" ++ name ++ suffix := by
  intro heq
  have hhead := congrArg (fun text => text.toList.head?) heq
  simp at hhead

theorem resolves_requestTest (h : endpoint.testCode = .ok tests) (path : String) :
    (endpoint.requestTest path).resolves tests endpoint.functionName =
      if endpoint.functionName = "client" then .parameter
      else if endpoint.functionName = "request" then .variable
      else .imported endpoint.importPath := by
  have hlookup := lookup_tests h (ne_testName _ _) (ne_testName _ _)
  rw [if_pos rfl] at hlookup
  rw [requestTest, Stmt.resolves, scope, hlookup]
  simp [bindsAll, Stmt.binds, checkEqual]

theorem resolves_refusalTest (h : endpoint.testCode = .ok tests) :
    endpoint.refusalTest.resolves tests endpoint.functionName =
      if endpoint.functionName = "client" then .parameter else .imported endpoint.importPath := by
  have hlookup := lookup_tests h (ne_testName _ _) (ne_testName _ _)
  rw [if_pos rfl] at hlookup
  rw [refusalTest, Stmt.resolves, scope, hlookup]
  simp [bindsAll, Stmt.binds]

theorem resolves_pytest (h : endpoint.testCode = .ok tests) (hrequired : endpoint.arguments.required ≠ []) :
    endpoint.refusalTest.resolves tests "pytest" =
      if endpoint.functionName = "pytest" then .imported endpoint.importPath else .module := by
  have hlookup := lookup_tests h (pytest_ne_testName _ _) (pytest_ne_testName _ _)
  rw [if_pos (And.intro hrequired rfl)] at hlookup
  rw [refusalTest, Stmt.resolves, scope, hlookup]
  simp [bindsAll, Stmt.binds]

/-- The modules of an endpoint can always be written, and no name in them is captured exactly if its function is
not called as something else that they need. -/
theorem hygienic_iff {surroundings : Surroundings} {definition : Definition}
    (h : resolve surroundings definition = .ok endpoint) :
    ∃ code tests, endpoint.moduleCode = .ok code ∧ endpoint.testCode = .ok tests ∧
      (endpoint.Hygienic code tests ↔ ¬endpoint.Reserved endpoint.functionName) := by
  have hresolved := resolve_eq_ok.mp h
  obtain ⟨body, hfunction⟩ := hresolved.function_ok
  obtain ⟨code, hcode, -⟩ := moduleCode_ok hfunction
  obtain ⟨-, -, -, -, path, -, hpath⟩ := hresolved.samplePath_ok
  obtain ⟨tests, htests, hrequest⟩ := testCode_ok hpath
  refine ⟨code, tests, hcode, htests, ?_, ?_⟩
  -- whatever the name is reserved for, the function itself would be found in its place
  · intro hhygienic hreserved
    generalize hname : endpoint.functionName = name at hreserved
    cases hreserved with
    | outside hborrows =>
      have houtside := outside_of_borrows hborrows
      have hmeaning := hhygienic.function _ hfunction name houtside
        ((mem_bodyReads_function houtside hfunction).mpr hborrows)
      rw [resolves_function houtside hcode hfunction, if_pos hname] at hmeaning
      exact meaning_ne_function endpoint name hmeaning.symm
    | client =>
      have hcall := hhygienic.request path hrequest
      rw [resolves_requestTest htests, if_pos hname] at hcall
      cases hcall
    | request =>
      have hcall := hhygienic.request path hrequest
      rw [resolves_requestTest htests, hname] at hcall
      cases hcall
    | pytest hrequired =>
      have hraises := (hhygienic.refusal ((refusalTest_mem htests).mpr hrequired)).2
      rw [resolves_pytest htests hrequired, if_pos hname] at hraises
      cases hraises
  · intro hfree
    have hclient : endpoint.functionName ≠ "client" := fun hname => hfree (by rw [hname]; exact .client)
    have hvariable : endpoint.functionName ≠ "request" := fun hname => hfree (by rw [hname]; exact .request)
    constructor
    · intro function hmade name hname hreads
      have hborrows := (mem_bodyReads_function hname hmade).mp hreads
      rw [resolves_function hname hcode hmade, if_neg]
      rintro rfl
      exact hfree (.outside hborrows)
    · intro path _
      rw [resolves_requestTest htests, if_neg hclient, if_neg hvariable]
    · intro hmem
      have hrequired := (refusalTest_mem htests).mp hmem
      have hpytest : endpoint.functionName ≠ "pytest" :=
        fun hname => hfree (by rw [hname]; exact .pytest hrequired)
      rw [resolves_refusalTest htests, resolves_pytest htests hrequired, if_neg hclient, if_neg hpytest]
      exact ⟨rfl, rfl⟩

theorem get_index_hygienic :
    ∃ endpoint code tests,
      resolve ⟨false, [], "", "helpers"⟩ (.ofTemplates "indices.get" "/\x7bindex\x7d" []) = .ok endpoint ∧
      endpoint.moduleCode = .ok code ∧ endpoint.testCode = .ok tests ∧ endpoint.Hygienic code tests := by
  have hlocation : Location.resolve "indices.get" false = .ok ⟨["indices"], "get"⟩ := by decide
  have hpath : PathChoice.resolve "indices.get" ["/\x7bindex\x7d"] = .ok ⟨[], some "/\x7bindex\x7d", []⟩ := by
    decide
  obtain ⟨endpoint, hresolve, hname⟩ : ∃ endpoint : Endpoint,
      resolve ⟨false, [], "", "helpers"⟩ (.ofTemplates "indices.get" "/\x7bindex\x7d" []) = .ok endpoint ∧
        endpoint.functionName = "get" :=
    ⟨_, resolve_ofTemplates hlocation rfl hpath, by decide⟩
  obtain ⟨code, tests, hcode, htests, hhygienic⟩ := hygienic_iff hresolve
  refine ⟨endpoint, code, tests, hresolve, hcode, htests, hhygienic.mpr ?_⟩
  rw [hname]
  intro hreserved
  generalize hget : "get" = name at hreserved
  cases hreserved with
  | outside hborrows =>
    have houtside := outside_of_borrows hborrows
    rw [← hget] at houtside
    exact absurd houtside (by decide)
  | client => exact absurd hget (by decide)
  | request => exact absurd hget (by decide)
  | pytest => exact absurd hget (by decide)

theorem dict_captured :
    ∃ endpoint code function,
      resolve ⟨false, [], "", "helpers"⟩ (.ofTemplates "dict" "/_dict" []) = .ok endpoint ∧
      endpoint.moduleCode = .ok code ∧ endpoint.function = .ok function ∧ function ∈ code ∧
      "dict" ∈ function.bodyReads ∧ function.resolves code "dict" = .function := by
  have hlocation : Location.resolve "dict" false = .ok ⟨[], "dict"⟩ := by decide
  have hpath : PathChoice.resolve "dict" ["/_dict"] = .ok ⟨[], some "/_dict", []⟩ := by decide
  obtain ⟨endpoint, hresolve, hname⟩ : ∃ endpoint : Endpoint,
      resolve ⟨false, [], "", "helpers"⟩ (.ofTemplates "dict" "/_dict" []) = .ok endpoint ∧
        endpoint.functionName = "dict" :=
    ⟨_, resolve_ofTemplates hlocation rfl hpath, by decide⟩
  obtain ⟨body, hfunction⟩ := (resolve_eq_ok.mp hresolve).function_ok
  obtain ⟨code, hcode, hmem⟩ := moduleCode_ok hfunction
  have hresolves := resolves_function (by decide : "dict" ∈ outsideNames) hcode hfunction
  rw [if_pos hname] at hresolves
  exact ⟨endpoint, code, _, hresolve, hcode, hfunction, hmem,
    (mem_bodyReads_function (by decide) hfunction).mpr .copy, hresolves⟩

end Endpoint

end ClientForge
