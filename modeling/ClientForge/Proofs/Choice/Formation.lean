import ClientForge.Proofs.Choice.Chain

namespace ClientForge

open Template (signature slotNames)

def PlainLast (ordered : List String) : Prop :=
  ordered.Pairwise fun a b => signature a = [] → signature b = []

theorem plainLast_cons_of_plain {template : String} {rest : List String}
    (h : signature template = []) :
    PlainLast (template :: rest) ↔ ∀ other ∈ rest, signature other = [] := by
  rw [PlainLast, List.pairwise_cons]
  constructor
  · rintro ⟨hhead, -⟩ other hother
    exact hhead other hother h
  · intro hrest
    refine ⟨fun other hother _ => hrest other hother, ?_⟩
    exact List.pairwise_of_forall_mem_list fun a _ b hb _ => hrest b hb

theorem plainLast_cons_of_slots {template : String} {rest : List String}
    (h : signature template ≠ []) : PlainLast (template :: rest) ↔ PlainLast rest := by
  simp [PlainLast, List.pairwise_cons, h]

theorem plainLast_iff {ordered : List String} :
    PlainLast ordered ↔ ¬∃ plain behind, [plain, behind].Sublist ordered ∧
      slotNames plain = [] ∧ slotNames behind ≠ [] := by
  rw [PlainLast, List.pairwise_iff_forall_sublist]
  simp only [Template.signature_eq_nil, not_exists, not_and, not_not]

namespace PathStep

theorem fault_closed_walk (previous : List String) (tried : List (List String)) (rest : List String) :
    (walk previous tried true rest).findSome? fault? = none ↔
      ∀ template ∈ rest, signature template = previous := by
  induction rest with
  | nil => simp [walk]
  | cons template rest ih =>
    rw [walk, List.forall_mem_cons]
    by_cases hsame : signature template = previous
    · simpa [hsame, fault?] using ih
    · simp [hsame, fault?]

theorem fault_open_walk {previous : List String} (tried : List (List String)) (rest : List String)
    (hprevious : previous ≠ []) :
    (walk previous tried false rest).findSome? fault? = none ↔ PlainLast rest := by
  induction rest generalizing previous tried with
  | nil => simp [walk, PlainLast]
  | cons template rest ih =>
    rw [walk]
    by_cases hsame : signature template = previous
    · rw [if_pos hsame, plainLast_cons_of_slots (hsame ▸ hprevious)]
      exact ih tried hprevious
    · rw [if_neg hsame, if_neg Bool.false_ne_true]
      by_cases hplain : signature template = []
      · rw [if_pos (by simp [hplain]), plainLast_cons_of_plain hplain]
        exact hplain ▸ fault_closed_walk (signature template) tried rest
      · rw [plainLast_cons_of_slots hplain]
        cases rest with
        | nil => simp [walk, fault?, PlainLast]
        | cons next rest =>
          rw [if_neg (by simp [hplain])]
          exact ih _ hplain

end PathStep

namespace PathChoice

structure WellFormed (ordered : List String) (choice : PathChoice) : Prop where
  needed : ∀ branch ∈ choice.branches,
    branch.needed ≠ [] ∧ branch.needed = signature branch.template
  neighbours : choice.templates.IsChain fun a b => signature a ≠ signature b
  sublist : choice.templates.Sublist ordered
  head : choice.templates.head? = ordered.head?
  several : choice.fallback = none → 2 ≤ choice.branches.length

theorem ofSteps_eq_error {steps : List PathStep} :
    (∃ fault, ofSteps steps = .error fault) ↔ steps.findSome? PathStep.fault? ≠ none := by
  rw [ofSteps]
  split
  · next fault hfault => simp [hfault]
  · next hnone =>
    rw [hnone]
    split <;> simp

theorem ofOrdered_eq_error {template : String} {rest : List String} :
    (∃ fault, ofSteps (PathStep.ofOrdered (template :: rest)) = .error fault) ↔
      signature template = [] ∨ ¬PlainLast (template :: rest) := by
  rw [ofSteps_eq_error, PathStep.ofOrdered]
  by_cases hplain : signature template = []
  · simp [hplain, PathStep.fault?]
  · rw [if_neg (by simpa using hplain), plainLast_cons_of_slots hplain,
      ← PathStep.fault_open_walk [signature template] rest hplain]
    simp [hplain, PathStep.fault?]

theorem wellFormed_ofOrdered {ordered : List String} {choice : PathChoice} (hne : ordered ≠ [])
    (h : ofSteps (PathStep.ofOrdered ordered) = .ok choice) : WellFormed ordered choice := by
  obtain _ | ⟨template, rest⟩ := ordered
  · exact absurd rfl hne
  · obtain ⟨hslots, hfault, ⟨-, rfl⟩ | ⟨hdiffer, rfl⟩⟩ := ofOrdered_eq_ok h
    · refine ⟨?_, ?_, ?_, rfl, ?_⟩
      · rintro branch ⟨⟩
      · exact .singleton template
      · exact List.singleton_sublist.mpr List.mem_cons_self
      · rintro ⟨⟩
    · obtain ⟨hsublist, hchain⟩ :=
        PathStep.kept_open_walk (signature template) [signature template] rest
      refine ⟨?_, ?_, hsublist.cons_cons template, rfl, ?_⟩
      · intro branch hbranch
        rcases List.mem_cons.mp hbranch with rfl | hwalk
        · exact ⟨hslots, rfl⟩
        · obtain ⟨hneeded, hne⟩ := PathStep.branch_of_walk hwalk
          exact ⟨hne, hneeded⟩
      · rw [← List.isChain_map signature]
        exact hchain
      · intro hopen
        have hmore : PathStep.branches
            (PathStep.walk (signature template) [signature template] false rest) ≠ [] :=
          fun hnone => hdiffer (PathStep.same_of_walk_empty hfault hnone hopen)
        have hlength := List.length_pos_of_ne_nil hmore
        rw [List.length_cons]
        omega

theorem resolve_eq_error {name : String} {templates : List String} :
    (∃ fault, resolve name templates = .error fault) ↔
      templates = [] ∨ 2 ≤ templates.length ∧ Irregular.paths.lookup name = none ∧
        ∃ fault, ofSteps (PathStep.ofOrdered (longestFirst templates)) = .error fault := by
  obtain _ | ⟨template, _ | ⟨next, rest⟩⟩ := templates
  · simp [resolve]
  · simp [resolve]
  · have hlen : 2 ≤ (template :: next :: rest).length := by simp
    cases hname : Irregular.paths.lookup name with
    | some irregular => simp [resolve, hname]
    | none =>
      rw [resolve_of_regular hname hlen]
      cases ofSteps (PathStep.ofOrdered (longestFirst (template :: next :: rest))) with
      | error fault => simp [Except.mapError]
      | ok choice => simp [Except.mapError]

/-- Templates are rejected exactly if they form no chain: the longest one has no variables, or
variables come behind a template without any. A choice made from others is well formed. -/
theorem resolve_forms_chain (name : String) (templates : List String) :
    ((∃ fault, resolve name templates = .error fault) ↔
        templates = [] ∨
          2 ≤ templates.length ∧ Irregular.paths.lookup name = none ∧
            ((∃ first rest, longestFirst templates = first :: rest ∧ slotNames first = []) ∨
              ∃ plain behind, [plain, behind].Sublist (longestFirst templates) ∧
                slotNames plain = [] ∧ slotNames behind ≠ [])) ∧
      ∀ choice, resolve name templates = .ok choice → 2 ≤ templates.length →
        Irregular.paths.lookup name = none → WellFormed (longestFirst templates) choice := by
  have hordered (hlen : 2 ≤ templates.length) :
      ∃ first rest, longestFirst templates = first :: rest := by
    apply List.exists_cons_of_length_pos
    rw [longestFirst_length]
    omega
  constructor
  · rw [resolve_eq_error]
    refine or_congr_right (and_congr_right fun hlen => and_congr_right fun _ => ?_)
    obtain ⟨first, rest, hordered⟩ := hordered hlen
    rw [hordered, ofOrdered_eq_error, plainLast_iff, not_not, Template.signature_eq_nil]
    simp
  · intro choice h hlen hname
    obtain ⟨first, rest, hordered⟩ := hordered hlen
    apply wellFormed_ofOrdered _ (chain_of_resolve hname hlen h)
    rw [hordered]
    exact List.cons_ne_nil first rest

theorem resolve_forms_chain_of_six :
    let templates := ["/_z", "/\x7ba\x7d/_middle_", "/\x7ba\x7d/_longer/\x7bb\x7d",
      "/\x7ba\x7d/_other/\x7bb\x7d", "/\x7ba\x7d/_q/\x7bb\x7d", "/_y"]
    let choice : PathChoice :=
      ⟨[⟨["a", "b"], "/\x7ba\x7d/_longer/\x7bb\x7d"⟩, ⟨["a"], "/\x7ba\x7d/_middle_"⟩,
        ⟨["a", "b"], "/\x7ba\x7d/_q/\x7bb\x7d"⟩], some "/_z", []⟩
    resolve "example" templates = .ok choice ∧ 2 ≤ templates.length ∧
      Irregular.paths.lookup "example" = none ∧ WellFormed (longestFirst templates) choice := by
  intro templates choice
  have hname : Irregular.paths.lookup "example" = none := by decide
  have hlen : 2 ≤ templates.length := by decide
  have hordered : longestFirst templates = ["/\x7ba\x7d/_longer/\x7bb\x7d",
      "/\x7ba\x7d/_other/\x7bb\x7d", "/\x7ba\x7d/_middle_", "/\x7ba\x7d/_q/\x7bb\x7d",
      "/_z", "/_y"] := by
    simp +decide [templates, longestFirst, List.mergeSort, List.MergeSort.Internal.splitInTwo]
  have hresolve : resolve "example" templates = .ok choice := by
    rw [resolve_of_regular hname hlen, hordered]
    decide
  exact ⟨hresolve, hlen, hname,
    (resolve_forms_chain "example" templates).2 choice hresolve hlen hname⟩

end PathChoice

end ClientForge
