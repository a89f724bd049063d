import ClientForge.Proofs.Code.Validity
import ClientForge.Proofs.Endpoint.Samples
import ClientForge.Proofs.Location

namespace ClientForge

open Code Text

theorem isAsciiIdentifier_of_isNameLike {text : List Char} (h : isNameLike text = true) (hline : '\n' ∉ text) :
    isAsciiIdentifier text = true := by
  rw [isNameLike, Bool.or_eq_true, Bool.and_eq_true, beq_iff_eq] at h
  rcases h with h | ⟨hlast, -⟩
  · exact h
  · exact absurd (List.mem_of_getLast? hlast) hline

theorem isBinder_testName {name suffix : String} (h : isAsciiIdentifier name.toList = true)
    (hsuffix : isAsciiIdentifier suffix.toList = true) : isBinder ("test_" ++ name ++ suffix).toList = true := by
  have hletters : ("test_" ++ name ++ suffix).toList = "test_".toList ++ (name.toList ++ suffix.toList) := by
    simp only [String.toList_append, List.append_assoc]
  apply isBinder_of_ascii
  · rw [hletters]
    exact isAsciiIdentifier_append (by decide) (isAsciiIdentifier_append h hsuffix)
  · have hplain : ∀ keyword ∈ keywords, '_' ∉ keyword.toList := by decide
    rw [isKeyword, List.contains_eq_mem, decide_eq_false_iff_not]
    intro hkeyword
    apply hplain _ hkeyword
    rw [hletters]
    exact List.mem_append_left _ (by decide)
  · intro heq
    rw [String.ext_iff, hletters] at heq
    cases heq

namespace Endpoint

variable {surroundings : Surroundings} {definition : Definition} {endpoint : Endpoint} {code test : List Stmt}
  {path : String}

/-- The names of an endpoint that only its tests make use of can stand where the tests have them: the path of
its module in an import, and the sample arguments as keywords of a call. -/
structure Testable (endpoint : Endpoint) : Prop where
  importable : ∀ part ∈ splitOn (· == '.') endpoint.importPath.toList, isName part = true
  ordinary : endpoint.importPath ≠ futureModule
  distinct : endpoint.sampleArguments.Nodup
  ascii : ∀ name ∈ endpoint.sampleArguments, isAsciiIdentifier name.toList = true
  binders : ∀ name ∈ endpoint.sampleArguments, isBinder name.toList = true

instance (endpoint : Endpoint) : Decidable endpoint.Testable :=
  decidable_of_iff ((∀ part ∈ splitOn (· == '.') endpoint.importPath.toList, isName part = true) ∧
      endpoint.importPath ≠ futureModule ∧ endpoint.sampleArguments.Nodup ∧
      (∀ name ∈ endpoint.sampleArguments, isAsciiIdentifier name.toList = true) ∧
      ∀ name ∈ endpoint.sampleArguments, isBinder name.toList = true)
    ⟨fun ⟨h₁, h₂, h₃, h₄, h₅⟩ => ⟨h₁, h₂, h₃, h₄, h₅⟩,
      fun h => ⟨h.importable, h.ordinary, h.distinct, h.ascii, h.binders⟩⟩

theorem isBinder_functionName (hcode : endpoint.moduleCode = .ok code) (hvalid : Code.isValid code = true) :
    isBinder endpoint.functionName.toList = true := by
  obtain ⟨function, hfunction, heq⟩ := bind_eq_ok.mp hcode
  cases heq
  obtain ⟨body, -, rfl⟩ := except_map_eq_ok.mp hfunction
  have hmodule : (Stmt.define endpoint.functionName ["client"] (some "arguments") body).isValid false = true :=
    isValid_of_mem_moduleValid hvalid (by simp) fun _ _ => nofun
  simp only [Stmt.isValid, List.cons_append, List.all_cons, Bool.and_eq_true] at hmodule
  exact hmodule.1.1.1.1

theorem isAsciiIdentifier_functionName {extended : Bool}
    (h : Location.resolve endpoint.definition.name extended = .ok endpoint.location)
    (hcode : endpoint.moduleCode = .ok code) (hvalid : Code.isValid code = true) :
    isAsciiIdentifier endpoint.functionName.toList = true := by
  have hidentifier := (isName_iff.mp (isBinder_iff.mp (isBinder_functionName hcode hvalid)).1).1
  have hlike := Location.segments_of_resolve h _ (List.mem_append_right _ (List.mem_singleton_self _))
  have hline := not_mem_of_isIdentifier (c := '\n') hidentifier (by decide) (by decide)
  rw [functionName, Location.functionName, safeName] at hline ⊢
  split
  · next hkeyword =>
    rw [if_pos hkeyword, String.toList_append, List.mem_append, not_or] at hline
    rw [String.toList_append]
    exact isAsciiIdentifier_append (isAsciiIdentifier_of_isNameLike hlike hline.1) (by decide)
  · next hkeyword =>
    rw [if_neg hkeyword] at hline
    exact isAsciiIdentifier_of_isNameLike hlike hline

theorem isValid_checkMethod (expected : String) : (checkEqual "method" expected).isValid true = true :=
  rfl

theorem isValid_checkPath (expected : String) : (checkEqual "path" expected).isValid true = true :=
  rfl

theorem keywordsValid_samples (names : List String) :
    keywordsValid (names.map fun argument => (some argument, sampleValue argument)) = true := by
  induction names with
  | nil => rfl
  | cons name rest ih =>
    rw [List.map_cons, keywordsValid, ih, Bool.and_true, sampleValue]
    split <;> rfl

theorem Testable.isValid_requestTest (h : endpoint.Testable)
    (hname : isAsciiIdentifier endpoint.functionName.toList = true)
    (hbinder : isBinder endpoint.functionName.toList = true) (path : String) :
    (endpoint.requestTest path).isValid false = true := by
  have hkeywords := areKeywords_of_ascii h.ascii h.binders h.distinct
  have hcall : (Stmt.expr (.call (.name endpoint.functionName) [.name "client"]
      (endpoint.sampleArguments.map fun argument => (some argument, sampleValue argument)))).isValid true = true := by
    have hnames : (endpoint.sampleArguments.map fun argument => (some argument, sampleValue argument)).map (·.1) =
        endpoint.sampleArguments.map some := by
      rw [List.map_map]
      rfl
    rw [Stmt.isValid, Expr.isValid, Expr.isValid, if_pos rfl, hnames, hkeywords, keywordsValid_samples,
      isObjectText_of_isName (isBinder_iff.mp hbinder).1]
    · rfl
    · exact fun _ => nofun
  have htest : isBinder ("test_" ++ endpoint.functionName ++ "_performs_request").toList = true :=
    isBinder_testName hname (by decide)
  rw [requestTest, Stmt.isValid, List.cons_append, List.all_cons, htest, bodyValid, hcall, bodyValid, bodyValid,
    isValid_checkMethod, bodyValid, isValid_checkPath]
  rfl

theorem isValid_refusalTest (hname : isAsciiIdentifier endpoint.functionName.toList = true)
    (hbinder : isBinder endpoint.functionName.toList = true) : endpoint.refusalTest.isValid false = true := by
  have hcall : (Stmt.expr (.call (.name endpoint.functionName) [.name "client"] [])).isValid true = true := by
    rw [Stmt.isValid, Expr.isValid, Expr.isValid, if_pos rfl, isObjectText_of_isName (isBinder_iff.mp hbinder).1]
    · rfl
    · exact fun _ => nofun
  have htest : isBinder ("test_" ++ endpoint.functionName ++ "_requires_arguments").toList = true :=
    isBinder_testName hname (by decide)
  rw [refusalTest, Stmt.isValid, List.cons_append, List.all_cons, htest, bodyValid, Stmt.isValid, bodyValid,
    bodyValid, hcall]
  rfl

theorem Testable.isValid_testCode {extended : Bool} (h : endpoint.Testable)
    (hlocation : Location.resolve endpoint.definition.name extended = .ok endpoint.location)
    (hcode : endpoint.moduleCode = .ok code) (hvalid : Code.isValid code = true) (htest : endpoint.testCode = .ok test) :
    Code.isValid test = true := by
  have hname := isAsciiIdentifier_functionName hlocation hcode hvalid
  have hbinder := isBinder_functionName hcode hvalid
  obtain ⟨path, -, heq⟩ := bind_eq_ok.mp htest
  cases heq
  have himport : (Stmt.importNames endpoint.importPath [endpoint.functionName]).isValid false = true := by
    rw [Stmt.isValid, importValid, isModulePath_of_names h.importable, List.all_cons, isImported_of_isBinder hbinder]
    simpa using h.ordinary
  have hrequest := h.isValid_requestTest hname hbinder path
  by_cases hinsists : endpoint.arguments.required.isEmpty = true
  · rw [hinsists]
    change moduleValid [.importNames endpoint.importPath [endpoint.functionName], endpoint.requestTest path] = true
    rw [moduleValid, if_neg h.ordinary, bodyValid, himport, bodyValid, hrequest]
    rfl
  · rw [Bool.eq_false_iff.mpr hinsists]
    change bodyValid false [.importModule "pytest", .importNames endpoint.importPath [endpoint.functionName],
      endpoint.requestTest path, endpoint.refusalTest] = true
    rw [bodyValid, bodyValid, himport, bodyValid, hrequest, bodyValid, isValid_refusalTest hname hbinder]
    rfl

end Endpoint

end ClientForge
