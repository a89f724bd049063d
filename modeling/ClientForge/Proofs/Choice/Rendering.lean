import ClientForge.Proofs.Choice.Execution
import ClientForge.Proofs.Entries

namespace ClientForge

open Code Template

variable {α : Type}

def argumentFrame (value : String → Datum α) (names : List String) : Frame α :=
  ⟨names.map fun name => (localName name, value name), []⟩

def suppliedOf (value : String → Datum α) (names : List String) : List String :=
  names.filter fun name => !(value name).isNone

theorem holds_argumentFrame (value : String → Datum α) (names : List String) :
    Holds (argumentFrame value names) value names := by
  intro name hname
  rw [argumentFrame, Entries.get?_map_of_injective localName_injective, if_pos hname]

theorem argumentFrame_isFree (value : String → Datum α) (names : List String) :
    (argumentFrame value names).IsFree := by
  intro id hid
  rw [← Option.not_isSome_iff_eq_none]
  intro hsome
  have hmem : id ∈ Entries.keys (argumentFrame value names).locals := Entries.contains_iff.mp hsome
  simp only [argumentFrame, Entries.keys, List.map_map, List.mem_map, Function.comp_apply] at hmem
  obtain ⟨name, -, rfl⟩ := hmem
  exact localName_not_mem name hid

theorem names_suppliedOf (value : String → Datum α) (names : List String) :
    Names (suppliedOf value names) value names := by
  intro name hname
  rw [Bool.eq_iff_iff, List.contains_iff_mem, suppliedOf, List.mem_filter]
  exact and_iff_right hname

namespace PathChoice

variable {choice : PathChoice} {target : String}

theorem all?_eq_none {operands : List Expr} : Expr.all? operands = none ↔ operands = [] := by
  rcases operands with _ | ⟨first, _ | ⟨second, rest⟩⟩ <;> simp [Expr.all?]

theorem chain_eq_error {other : List Stmt} {branches : List PathBranch} :
    (∃ fault, chain other branches target = .error fault) ↔ ∃ branch ∈ branches, branch.needed = [] := by
  induction branches with
  | nil => simp [chain]
  | cons branch rest ih =>
    rw [List.exists_mem_cons_iff, ← ih, chain]
    cases hrest : chain other rest target with
    | error fault => simp [bind, Except.bind]
    | ok stmts =>
      cases htest : Expr.all? (branch.needed.map suppliedTest) with
      | none =>
        have hneeded : branch.needed = [] := by simpa using all?_eq_none.mp htest
        simp [bind, Except.bind, hneeded, throw, throwThe, MonadExceptOf.throw]
      | some test =>
        have hneeded : branch.needed ≠ [] := by
          intro hnil
          rw [hnil] at htest
          cases htest
        simp [bind, Except.bind, pure, Except.pure, hneeded]

theorem code_eq_error :
    (∃ fault, choice.code target = .error fault) ↔
      (∃ branch ∈ choice.branches, branch.needed = []) ∨
        choice.branches = [] ∧ choice.fallback = none := by
  rw [PathChoice.code]
  cases hbranches : choice.branches with
  | nil => cases hfallback : choice.fallback <;> simp [isConditional, hbranches]
  | cons branch rest =>
    rw [if_pos (by simp [isConditional, hbranches]), chain_eq_error]
    simp

theorem code_ok (h : choice.Writable) : ∃ stmts, choice.code target = .ok stmts := by
  cases hcode : choice.code target with
  | ok stmts => exact ⟨stmts, rfl⟩
  | error fault =>
    exfalso
    rcases code_eq_error.mp ⟨fault, hcode⟩ with ⟨branch, hbranch, hneeded⟩ | ⟨hbranches, hfallback⟩
    · exact h.needed_ne_nil branch hbranch hneeded
    · exact h.offers.elim (absurd hbranches) (absurd hfallback)

theorem writable_of_code_ok {stmts : List Stmt} (h : choice.code target = .ok stmts) :
    choice.Writable := by
  have hno : ¬∃ fault, choice.code target = .error fault := by
    rintro ⟨fault, hfault⟩
    rw [h] at hfault
    cases hfault
  rw [code_eq_error, not_or] at hno
  refine ⟨fun branch hbranch hneeded => hno.1 ⟨branch, hbranch, hneeded⟩, ?_⟩
  by_cases hbranches : choice.branches = []
  · exact .inr fun hfallback => hno.2 ⟨hbranches, hfallback⟩
  · exact .inl hbranches

/-- The statements written for a path and a method decide as the choices do, whatever the arguments
hold: the target becomes the template chosen, with its slots filled, or the method chosen. Where no
template is chosen they raise an exception and set nothing. -/
theorem code_decides_as_choice (world : World α) (value : String → Datum α) (path : PathChoice)
    (method : MethodChoice) (others : List String) (target : String) :
    let names := path.names ++ method.branches.map (·.argument) ++ others
    let frame := argumentFrame value names
    let supplied := suppliedOf value names
    ((∃ fault, path.code target = .error fault) ↔
        (∃ branch ∈ path.branches, branch.needed = []) ∨
          path.branches = [] ∧ path.fallback = none) ∧
      (∀ stmts, path.code target = .ok stmts →
        match path.select supplied with
        | some template =>
          ∃ text, expand template (fun name => some (world.listify (value name))) = .ok text ∧
            (runEach world stmts).run frame = (.ok (), frame.bind target (.text text))
        | none =>
          ∃ message, (runEach world stmts).run frame =
            (.error (.raised "ValueError" message), frame)) ∧
      ((method.code target).run world).run frame =
        (.ok (), frame.bind target (.text (method.select supplied))) := by
  intro names frame supplied
  have hholds := holds_argumentFrame value names
  have hnames := names_suppliedOf value names
  have hpath : path.names ⊆ names := fun name hname =>
    List.mem_append_left _ (List.mem_append_left _ hname)
  have hmethod : method.branches.map (·.argument) ⊆ names := fun name hname =>
    List.mem_append_left _ (List.mem_append_right _ hname)
  refine ⟨code_eq_error, ?_, ?_⟩
  · intro stmts hstmts
    obtain ⟨stmts', hcode, hrun⟩ := run_code world (writable_of_code_ok hstmts)
      (argumentFrame_isFree value names) (hholds.subset hpath)
      (fun name hname => hnames name (hpath hname)) target
    rw [hstmts] at hcode
    cases hcode
    rw [hrun]
    cases path.select supplied with
    | none => exact ⟨_, rfl⟩
    | some template => exact ⟨_, expand_eq fun _ _ => rfl, rfl⟩
  · exact MethodChoice.run_code (hholds.subset hmethod)
      (fun name hname => hnames name (hmethod hname)) target

theorem code_fills_template_of_body :
    let world : World Unit := ⟨fun | .text s => s | _ => "all", [], Sent.path⟩
    let value : String → Datum Unit := fun name =>
      if name = "index" then .text "books" else if name = "body" then .mapping [] else .none
    let path : PathChoice := ⟨[⟨["index", "id"], "/\x7bindex\x7d/_doc/\x7bid\x7d"⟩,
      ⟨["body", "index"], "//\x7bindex\x7d/\x7b\x7bbody\x7d/\x7bindex\x7d\x7d\x7b/"⟩], none, []⟩
    let method : MethodChoice := ⟨[⟨"id", "PUT"⟩, ⟨"body", "POST"⟩], "GET"⟩
    let frame := argumentFrame value
      (path.names ++ method.branches.map (·.argument) ++ ["headers"])
    ∃ stmts, path.code "target" = .ok stmts ∧
      (runEach world stmts).run frame =
        (.ok (), frame.bind "target" (.text "books/\x7ball/books\x7d\x7b")) ∧
      ((method.code "target").run world).run frame =
        (.ok (), frame.bind "target" (.text "POST")) := by
  intro world value path method frame
  obtain ⟨-, hpath, hmethod⟩ := code_decides_as_choice world value path method ["headers"] "target"
  have hwritable : path.Writable := by
    refine ⟨?_, .inl (List.cons_ne_nil _ _)⟩
    decide
  obtain ⟨stmts, hstmts⟩ := code_ok hwritable
  have hselect : path.select (suppliedOf value
      (path.names ++ method.branches.map (·.argument) ++ ["headers"])) =
      some "//\x7bindex\x7d/\x7b\x7bbody\x7d/\x7bindex\x7d\x7d\x7b/" := by
    decide
  have hexpand : expand "//\x7bindex\x7d/\x7b\x7bbody\x7d/\x7bindex\x7d\x7d\x7b/"
      (fun name => some (world.listify (value name))) = .ok "books/\x7ball/books\x7d\x7b" := by
    decide
  have hrun := hpath stmts hstmts
  rw [hselect] at hrun
  obtain ⟨text, htext, hrun⟩ := hrun
  rw [hexpand] at htext
  cases htext
  exact ⟨stmts, hstmts, hrun, hmethod⟩

end PathChoice

end ClientForge
