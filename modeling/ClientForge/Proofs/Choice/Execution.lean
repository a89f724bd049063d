import ClientForge.Choice.Code
import ClientForge.Proofs.Code.Execution

namespace ClientForge

open Code

variable {α : Type} {world : World α} {frame : Frame α}

theorem localName_ne {name id : String} (hbody : id ≠ "body") (hmark : id.toList.head? ≠ some '_') :
    localName name ≠ id := by
  rw [localName]
  split
  · exact hbody.symm
  · rintro rfl
    exact hmark (by simp)

theorem localName_injective : Function.Injective localName := by
  intro a b h
  by_cases ha : a = "body"
  · by_contra hne
    have hb : b ≠ "body" := fun hb => hne (ha.trans hb.symm)
    simp only [localName, if_pos ha, if_neg hb] at h
    have := congrArg (fun s : String => s.toList.head?) h
    simp at this
  · by_cases hb : b = "body"
    · simp only [localName, if_neg ha, if_pos hb] at h
      have hhead := congrArg (fun s : String => s.toList.head?) h
      simp at hhead
    · simp only [localName, if_neg ha, if_neg hb] at h
      have hchars := congrArg String.toList h
      rw [String.toList_append, String.toList_append] at hchars
      exact String.toList_inj.mp (List.append_cancel_left hchars)

theorem localName_not_mem (name : String) :
    localName name ∉ ["dict", "listify", "ValueError", "PARAMS"] := by
  intro h
  simp only [List.mem_cons, List.not_mem_nil, or_false] at h
  rcases h with h | h | h | h <;> exact localName_ne (by decide) (by decide) h

def Holds (frame : Frame α) (value : String → Datum α) (names : List String) : Prop :=
  ∀ name ∈ names, Entries.get? frame.locals (localName name) = some (value name)

theorem Holds.subset {value : String → Datum α} {names others : List String}
    (h : Holds frame value others) (hsub : names ⊆ others) : Holds frame value names :=
  fun name hname => h name (hsub hname)

theorem eval_suppliedTest (world : World α) {name : String} {datum : Datum α}
    (h : Entries.get? frame.locals (localName name) = some datum) :
    ((suppliedTest name).eval world []).run frame = (.ok (.truth !datum.isNone), frame) := by
  rw [suppliedTest, eval_compare _ (eval_local h) (eval_null world [])]
  rfl

def Names (supplied : List String) (value : String → Datum α) (names : List String) : Prop :=
  ∀ name ∈ names, supplied.contains name = !(value name).isNone

theorem evalAll_suppliedTest {value : String → Datum α} {names supplied : List String}
    (hholds : Holds frame value names) (hnames : Names supplied value names) :
    (evalAll world [] (names.map suppliedTest)).run frame =
      (.ok (.truth (names.all supplied.contains)), frame) := by
  induction names with
  | nil => rfl
  | cons name rest ih =>
    have hrest := ih (fun n hn => hholds n (List.mem_cons_of_mem _ hn))
      (fun n hn => hnames n (List.mem_cons_of_mem _ hn))
    have htest := eval_suppliedTest world (hholds name List.mem_cons_self)
    rw [← hnames name List.mem_cons_self] at htest
    rw [List.map_cons, evalAll_cons, run_bind_ok htest, run_bind_ok (run_decides _), List.all_cons]
    cases supplied.contains name with
    | true => exact hrest
    | false => rfl

theorem eval_condition (world : World α) {value : String → Datum α} {names supplied : List String}
    {test : Expr}
    (hholds : Holds frame value names) (hnames : Names supplied value names)
    (htest : Expr.all? (names.map suppliedTest) = some test) :
    (test.eval world []).run frame = (.ok (.truth (names.all supplied.contains)), frame) := by
  rcases names with _ | ⟨first, _ | ⟨second, rest⟩⟩
  · cases htest
  · cases htest
    rw [eval_suppliedTest world (hholds first List.mem_cons_self), ← hnames first List.mem_cons_self]
    simp
  · cases htest
    rw [Expr.eval_conjunction]
    exact evalAll_suppliedTest hholds hnames

namespace Template

theorem format_pieces (hfree : frame.IsFree) {value : String → Datum α} {pieces : List Piece}
    (hholds : Holds frame value (slots pieces)) :
    (world.format [] (formatParts pieces)).run frame =
      (.ok (pieces.flatMap (Piece.filled fun name => world.listify (value name))), frame) := by
  induction pieces with
  | nil => rfl
  | cons piece rest ih =>
    cases piece with
    | text chars =>
      change (world.format [] (.text chars :: formatParts rest)).run frame = _
      rw [World.format, run_bind_ok (ih hholds)]
      rfl
    | slot name =>
      have hname : Entries.get? frame.locals (localName name) = some (value name) :=
        hholds name (by simp [slots])
      have hrest := ih (hholds.subset (by intro other ho; simp_all [slots]))
      have hinvoke : (world.invoke [] "listify" [value name]).run frame =
          (.ok (.text (world.listify (value name))), frame) := by
        rw [invoke_of_free _ (hfree _ (by decide))]
        rfl
      change (world.format [] (.applied "listify" (localName name) :: formatParts rest)).run frame = _
      rw [World.format, run_bind_ok (read_local world hname), run_bind_ok hinvoke]
      dsimp only
      rw [run_bind_ok hrest]
      rfl

theorem eval_code (hfree : frame.IsFree) {value : String → Datum α} {template : String}
    (hholds : Holds frame value (slotNames template)) :
    ((Template.code template).eval world []).run frame =
      (.ok (.text (fill (fun name => world.listify (value name)) template)), frame) := by
  rw [← slotNames_strip] at hholds
  rw [Template.code]
  split
  · next hslots =>
    rw [List.isEmpty_iff] at hslots
    rw [eval_text, fill_of_slots_eq_nil _ hslots]
  · rw [Expr.eval_formatted, run_bind_ok (format_pieces hfree hholds)]
    rfl

end Template

namespace PathChoice

variable {choice : PathChoice} {value : String → Datum α} {supplied : List String}

theorem mem_names_of_needed {branch : PathBranch} (hbranch : branch ∈ choice.branches) {name : String}
    (hname : name ∈ branch.needed) : name ∈ choice.names := by
  change name ∈ distinctFrom [] _
  rw [mem_distinctFrom]
  exact .inr (List.mem_append_left _ (List.mem_flatMap.mpr ⟨branch, hbranch, hname⟩))

theorem mem_names_of_template {template : String} (htemplate : template ∈ choice.templates)
    {name : String} (hname : name ∈ Template.slotNames template) : name ∈ choice.names := by
  change name ∈ distinctFrom [] _
  rw [mem_distinctFrom]
  exact .inr (List.mem_append_right _ (List.mem_flatMap.mpr ⟨template, htemplate, hname⟩))

theorem nodup_names (choice : PathChoice) : choice.names.Nodup :=
  nodup_distinctFrom _ List.nodup_nil

structure Writable (choice : PathChoice) : Prop where
  needed_ne_nil : ∀ branch ∈ choice.branches, branch.needed ≠ []
  offers : choice.branches ≠ [] ∨ choice.fallback ≠ none

theorem run_assignPath (hfree : frame.IsFree) {template target : String}
    (hholds : Holds frame value (Template.slotNames template)) :
    ((assignPath template target).run world).run frame = (.ok (), frame.bind target
      (.text (Template.fill (fun name => world.listify (value name)) template))) :=
  run_assign target (Template.eval_code hfree hholds)

theorem run_chain (world : World α) (hfree : frame.IsFree) (other : List Stmt) {branches : List PathBranch}
    (hneeded : ∀ branch ∈ branches, branch.needed ≠ [])
    (hholds : ∀ branch ∈ branches, Holds frame value branch.needed ∧
      Holds frame value (Template.slotNames branch.template))
    (hnames : ∀ branch ∈ branches, Names supplied value branch.needed) (target : String) :
    ∃ stmts, chain other branches target = .ok stmts ∧
      (runEach world stmts).run frame =
        match branches.find? (·.applies supplied) with
        | some branch => (.ok (), frame.bind target
            (.text (Template.fill (fun name => world.listify (value name)) branch.template)))
        | none => (runEach world other).run frame := by
  induction branches with
  | nil => exact ⟨other, rfl, rfl⟩
  | cons branch rest ih =>
    rw [List.forall_mem_cons] at hneeded hholds hnames
    obtain ⟨stmts, hstmts, hrun⟩ := ih hneeded.2 hholds.2 hnames.2
    obtain ⟨test, htest⟩ : ∃ test, Expr.all? (branch.needed.map suppliedTest) = some test := by
      rcases hlist : branch.needed with _ | ⟨first, _ | ⟨second, others⟩⟩
      · exact absurd hlist hneeded.1
      · exact ⟨_, rfl⟩
      · exact ⟨_, rfl⟩
    have heval := eval_condition world hholds.1.1 hnames.1 htest
    refine ⟨[.branch test [assignPath branch.template target] stmts], ?_, ?_⟩
    · simp only [chain, hstmts, htest]
      rfl
    · rw [runEach_singleton, run_branch _ _ heval, List.find?_cons]
      change (runEach world (if branch.applies supplied = true then _ else _)).run frame = _
      cases branch.applies supplied with
      | true =>
        rw [if_pos rfl, runEach_singleton, run_assignPath hfree hholds.1.2]
      | false => exact hrun

theorem run_code (world : World α) (hchoice : choice.Writable) (hfree : frame.IsFree)
    (hholds : Holds frame value choice.names) (hnames : Names supplied value choice.names)
    (target : String := "path") :
    ∃ stmts, choice.code target = .ok stmts ∧
      (runEach world stmts).run frame =
        match choice.select supplied with
        | some template => (.ok (), frame.bind target
            (.text (Template.fill (fun name => world.listify (value name)) template)))
        | none => (.error (.raised "ValueError" ("Missing path arguments, expected one of: " ++
            expectedText choice.branches)), frame) := by
  have hbranch (branch : PathBranch) (hbranch : branch ∈ choice.branches) :
      Holds frame value branch.needed ∧ Holds frame value (Template.slotNames branch.template) :=
    ⟨hholds.subset fun _ hname => mem_names_of_needed hbranch hname,
      hholds.subset fun _ hname => mem_names_of_template
        (List.mem_append_left _ (List.mem_map_of_mem hbranch)) hname⟩
  have hfallback (template : String) (h : choice.fallback = some template) :
      Holds frame value (Template.slotNames template) :=
    hholds.subset fun _ hname => mem_names_of_template
      (List.mem_append_right _ (by rw [h]; exact List.mem_singleton_self _)) hname
  by_cases hconditional : choice.branches = []
  · obtain ⟨template, htemplate⟩ : ∃ template, choice.fallback = some template :=
      Option.ne_none_iff_exists'.mp (hchoice.offers.resolve_left (absurd hconditional))
    refine ⟨[assignPath template target], ?_, ?_⟩
    · simp [PathChoice.code, isConditional, hconditional, htemplate]
    · rw [runEach_singleton, run_assignPath hfree (hfallback template htemplate)]
      simp [select, hconditional, htemplate]
  · obtain ⟨stmts, hstmts, hrun⟩ := run_chain world hfree (choice.otherwise target)
      hchoice.needed_ne_nil hbranch
      (fun branch hbranch name hname => hnames name (mem_names_of_needed hbranch hname)) target
    refine ⟨stmts, ?_, ?_⟩
    · simpa [PathChoice.code, isConditional, hconditional] using hstmts
    · rw [hrun, select]
      cases choice.branches.find? (·.applies supplied) with
      | some branch => rfl
      | none =>
        cases hf : choice.fallback with
        | some template =>
          simp only [otherwise, hf]
          rw [runEach_singleton, run_assignPath hfree (hfallback template hf)]
        | none =>
          simp only [otherwise, hf]
          rw [runEach_singleton, run_fail hfree]

end PathChoice

namespace MethodChoice

variable {choice : MethodChoice} {value : String → Datum α} {supplied : List String}

theorem eval_value (default : String) {branches : List MethodBranch}
    (hholds : Holds frame value (branches.map (·.argument)))
    (hnames : Names supplied value (branches.map (·.argument))) :
    ((MethodChoice.value default branches).eval world []).run frame =
      (.ok (.text (select ⟨branches, default⟩ supplied)), frame) := by
  induction branches with
  | nil => exact eval_text world [] default
  | cons branch rest ih =>
    rw [List.map_cons] at hholds hnames
    have hrest := ih (hholds.subset (List.subset_cons_self _ _))
      (fun name hname => hnames name (List.mem_cons_of_mem _ hname))
    have htest := eval_suppliedTest world (hholds branch.argument List.mem_cons_self)
    rw [← hnames branch.argument List.mem_cons_self] at htest
    rw [MethodChoice.value, Expr.eval_choice, run_bind_ok htest, run_bind_ok (run_decides _), select,
      List.find?_cons]
    cases supplied.contains branch.argument with
    | true => exact eval_text world [] branch.method
    | false => exact hrest

theorem run_code (hholds : Holds frame value (choice.branches.map (·.argument)))
    (hnames : Names supplied value (choice.branches.map (·.argument))) (target : String := "method") :
    ((choice.code target).run world).run frame =
      (.ok (), frame.bind target (.text (choice.select supplied))) :=
  run_assign target (eval_value choice.default hholds hnames)

end MethodChoice

end ClientForge
