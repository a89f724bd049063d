import ClientForge.Choice.Resolve
import ClientForge.Proofs.Except
import ClientForge.Proofs.Template
import Mathlib.Data.List.Chain

namespace ClientForge

namespace Template

def satisfied (supplied : List String) (template : String) : Bool :=
  (slotNames template).all supplied.contains

theorem satisfied_iff {supplied : List String} {template : String} :
    satisfied supplied template = true ↔ ∀ name ∈ slotNames template, name ∈ supplied := by
  simp [satisfied]

theorem satisfied_eq_applies (supplied : List String) (template : String) :
    (PathBranch.mk (signature template) template).applies supplied = satisfied supplied template := by
  rw [Bool.eq_iff_iff, satisfied_iff]
  simp [PathBranch.applies, mem_signature]

theorem satisfied_congr {a b : String} (supplied : List String) (h : signature a = signature b) :
    satisfied supplied a = satisfied supplied b := by
  rw [← satisfied_eq_applies, ← satisfied_eq_applies, PathBranch.applies, PathBranch.applies, h]

theorem satisfied_of_signature_eq_nil {template : String} (supplied : List String)
    (h : signature template = []) : satisfied supplied template = true := by
  rw [satisfied_iff, signature_eq_nil.mp h]
  simp

end Template

namespace PathStep

open Template (signature satisfied)

def branches (steps : List PathStep) : List PathBranch :=
  steps.filterMap branch?

def closing? (steps : List PathStep) : Option String :=
  steps.findSome? fallback?

def pick (supplied : List String) (steps : List PathStep) : Option String :=
  (((branches steps).find? (·.applies supplied)).map (·.template)).or (closing? steps)

def lastOf (previous : List String) : List String → Option String
  | [] => none
  | [template] => if signature template = previous then none else some template
  | template :: next :: rest => lastOf (signature template) (next :: rest)

theorem lastOf_cons_of_same {previous : List String} {template : String} (rest : List String)
    (h : signature template = previous) : lastOf previous (template :: rest) = lastOf previous rest := by
  cases rest with
  | nil => simp [lastOf, h]
  | cons next rest => rw [lastOf, h]

theorem closed_walk (previous : List String) (tried : List (List String)) (rest : List String) :
    branches (walk previous tried true rest) = [] ∧ closing? (walk previous tried true rest) = none := by
  induction rest with
  | nil => exact ⟨rfl, rfl⟩
  | cons template rest ih =>
    rw [walk]
    split
    · exact ih
    · exact ⟨rfl, rfl⟩

theorem pick_walk (supplied : List String) {previous : List String} (tried : List (List String))
    {rest : List String} (hprev : previous.all supplied.contains = false)
    (hfault : (walk previous tried false rest).findSome? fault? = none) :
    pick supplied (walk previous tried false rest) =
      (rest.find? (satisfied supplied)).or (lastOf previous rest) := by
  induction rest generalizing previous tried with
  | nil => rfl
  | cons template rest ih =>
    have happly := Template.satisfied_eq_applies supplied template
    simp only [PathBranch.applies] at happly
    rw [walk] at hfault ⊢
    by_cases hsame : signature template = previous
    -- the template before was not taken, and this one asks for the same
    · rw [if_pos hsame] at hfault ⊢
      have hno : satisfied supplied template = false := by rw [← happly, hsame, hprev]
      rw [lastOf_cons_of_same rest hsame, List.find?_cons, hno]
      exact ih tried hprev hfault
    · rw [if_neg hsame, if_neg Bool.false_ne_true] at hfault ⊢
      by_cases hend : (rest.isEmpty || (signature template).isEmpty) = true
      · rw [if_pos hend]
        obtain ⟨hbranches, -⟩ := closed_walk (signature template) tried rest
        have hpick : pick supplied
            (.fallback template :: walk (signature template) tried true rest) = some template := by
          change ((List.find? _ (branches (walk _ tried true rest))).map _).or (some template) = _
          rw [hbranches]
          rfl
        rw [hpick, List.find?_cons]
        cases hyes : satisfied supplied template with
        | true => rfl
        | false =>
          have hrest : rest = [] := by
            by_contra hne
            have hempty : signature template = [] := by simpa [hne] using hend
            rw [Template.satisfied_of_signature_eq_nil supplied hempty] at hyes
            cases hyes
          simp [hrest, lastOf, hsame]
      · rw [if_neg hend] at hfault ⊢
        have hpick : pick supplied (.branch (signature template) template
              (tried.contains (signature template)) ::
              walk (signature template) (tried ++ [signature template]) false rest) =
            if satisfied supplied template then some template
            else pick supplied (walk (signature template) (tried ++ [signature template]) false rest) := by
          simp only [pick, branches, closing?, List.filterMap_cons, branch?, List.find?_cons,
            PathBranch.applies, happly, List.findSome?_cons, fallback?]
          cases satisfied supplied template <;> rfl
        rw [hpick, List.find?_cons]
        cases hyes : satisfied supplied template with
        | true => rfl
        | false =>
          have hlast : lastOf previous (template :: rest) = lastOf (signature template) rest := by
            cases rest with
            | nil => simp at hend
            | cons next rest => rfl
          rw [hlast]
          exact ih _ (happly.trans hyes) hfault

theorem same_of_walk_empty {previous : List String} {tried : List (List String)}
    {rest : List String} (hfault : (walk previous tried false rest).findSome? fault? = none)
    (hbranches : branches (walk previous tried false rest) = [])
    (hclosing : closing? (walk previous tried false rest) = none) :
    ∀ template ∈ rest, signature template = previous := by
  induction rest with
  | nil => simp
  | cons template rest ih =>
    rw [walk] at hfault hbranches hclosing
    by_cases hsame : signature template = previous
    · rw [if_pos hsame] at hfault hbranches hclosing
      exact List.forall_mem_cons.mpr ⟨hsame, ih hfault hbranches hclosing⟩
    · rw [if_neg hsame, if_neg Bool.false_ne_true] at hbranches hclosing
      split at hbranches
      · next hend =>
        rw [if_pos hend] at hclosing
        cases hclosing
      · cases hbranches

theorem branch_of_walk {previous : List String} {tried : List (List String)} {closed : Bool}
    {rest : List String} {branch : PathBranch} (h : branch ∈ branches (walk previous tried closed rest)) :
    branch.needed = signature branch.template ∧ branch.needed ≠ [] := by
  induction rest generalizing previous tried closed with
  | nil => cases h
  | cons template rest ih =>
    rw [walk] at h
    split at h
    · exact ih h
    · split at h
      · cases h
      · split at h
        · exact ih h
        · next hend =>
          simp only [Bool.or_eq_true, List.isEmpty_iff, not_or] at hend
          rcases List.mem_cons.mp h with rfl | h
          · exact ⟨rfl, hend.2⟩
          · exact ih h

def kept (steps : List PathStep) : List String :=
  (branches steps).map (·.template) ++ (closing? steps).toList

theorem kept_skip (template : String) (steps : List PathStep) :
    kept (.skip template :: steps) = kept steps :=
  rfl

theorem kept_branch (needed : List String) (template : String) (shadowed : Bool)
    (steps : List PathStep) :
    kept (.branch needed template shadowed :: steps) = template :: kept steps :=
  rfl

theorem kept_fallback {previous : List String} {tried : List (List String)} (template : String)
    (rest : List String) : kept (.fallback template :: walk previous tried true rest) = [template] := by
  have hbranches : branches (.fallback template :: walk previous tried true rest) =
      branches (walk previous tried true rest) := rfl
  rw [kept, hbranches, (closed_walk previous tried rest).1]
  rfl

theorem kept_open_walk (previous : List String) (tried : List (List String)) (rest : List String) :
    (kept (walk previous tried false rest)).Sublist rest ∧
      (previous :: (kept (walk previous tried false rest)).map signature).IsChain (· ≠ ·) := by
  induction rest generalizing previous tried with
  | nil => exact ⟨.slnil, .singleton previous⟩
  | cons template rest ih =>
    rw [walk]
    by_cases hsame : signature template = previous
    · rw [if_pos hsame, kept_skip]
      obtain ⟨hsublist, hchain⟩ := ih previous tried
      exact ⟨hsublist.cons template, hchain⟩
    · rw [if_neg hsame, if_neg Bool.false_ne_true]
      split
      · rw [kept_fallback]
        refine ⟨List.singleton_sublist.mpr List.mem_cons_self, ?_⟩
        simpa using Ne.symm hsame
      · obtain ⟨hsublist, hchain⟩ := ih (signature template) (tried ++ [signature template])
        rw [kept_branch]
        exact ⟨hsublist.cons_cons template, List.isChain_cons_cons.mpr ⟨Ne.symm hsame, hchain⟩⟩

theorem walk_of_same {previous : List String} (tried : List (List String)) {rest : List String}
    (h : ∀ template ∈ rest, signature template = previous) :
    branches (walk previous tried false rest) = [] ∧ closing? (walk previous tried false rest) = none := by
  induction rest with
  | nil => exact ⟨rfl, rfl⟩
  | cons template rest ih =>
    obtain ⟨hsame, hrest⟩ := List.forall_mem_cons.mp h
    rw [walk, if_pos hsame]
    exact ih hrest

end PathStep

namespace PathChoice

open Template (signature satisfied)

theorem longestFirst_perm (templates : List String) : (longestFirst templates).Perm templates :=
  List.mergeSort_perm templates _

theorem longestFirst_pairwise (templates : List String) :
    (longestFirst templates).Pairwise fun a b => b.length ≤ a.length := by
  have h := @List.pairwise_mergeSort String (fun a b => decide (b.length ≤ a.length))
    (by intro a b c hab hbc; simp only [decide_eq_true_eq] at *; omega)
    (by intro a b; simp only [Bool.or_eq_true, decide_eq_true_eq]; omega) templates
  simp only [decide_eq_true_eq] at h
  exact h

theorem longestFirst_stable (templates : List String) (n : ℕ) :
    (longestFirst templates).filter (·.length = n) = templates.filter (·.length = n) := by
  have hsub : (templates.filter (·.length = n)).Sublist (longestFirst templates) := by
    apply List.sublist_mergeSort
      (by intro a b c hab hbc; simp only [decide_eq_true_eq] at *; omega)
      (by intro a b; simp only [Bool.or_eq_true, decide_eq_true_eq]; omega)
      _ List.filter_sublist
    apply List.pairwise_iff_forall_sublist.mpr
    intro a b hab
    have ha := List.mem_filter.mp (hab.subset (List.mem_cons_self))
    have hb := List.mem_filter.mp (hab.subset (List.mem_cons_of_mem _ List.mem_cons_self))
    simp only [decide_eq_true_eq] at *
    omega
  have hfilter := hsub.filter (·.length = n)
  rw [List.filter_filter] at hfilter
  simp only [Bool.and_self] at hfilter
  exact (hfilter.eq_of_length ((longestFirst_perm templates).filter _).length_eq.symm).symm

theorem longestFirst_length (templates : List String) :
    (longestFirst templates).length = templates.length :=
  (longestFirst_perm templates).length_eq

theorem longestFirst_of_pairwise {templates : List String}
    (h : templates.Pairwise fun a b => b.length ≤ a.length) : longestFirst templates = templates := by
  apply List.mergeSort_of_pairwise
  simpa only [decide_eq_true_eq] using h

/-- What is left to take where no template has all its variables supplied: the first template if all
have the same variables, else the last one if its variables differ from those before it. -/
def lastResort (ordered : List String) : Option String :=
  if ∀ a ∈ ordered, ∀ b ∈ ordered, signature a = signature b then ordered.head?
  else if ordered.getLast?.map signature ≠ ordered.dropLast.getLast?.map signature then ordered.getLast?
  else none

theorem lastOf_eq (template next : String) (rest : List String) :
    PathStep.lastOf (signature template) (next :: rest) =
      if (template :: next :: rest).getLast?.map signature ≠
          (template :: next :: rest).dropLast.getLast?.map signature
      then (template :: next :: rest).getLast? else none := by
  induction rest generalizing template next with
  | nil => by_cases h : signature next = signature template <;> simp [PathStep.lastOf, h]
  | cons third rest ih =>
    rw [PathStep.lastOf, ih next third]
    rfl

theorem same_iff {template : String} {rest : List String} :
    (∀ a ∈ template :: rest, ∀ b ∈ template :: rest, signature a = signature b) ↔
      ∀ a ∈ rest, signature a = signature template := by
  constructor
  · intro h a ha
    exact h a (List.mem_cons_of_mem _ ha) template List.mem_cons_self
  · intro h
    have heach : ∀ a ∈ template :: rest, signature a = signature template :=
      List.forall_mem_cons.mpr ⟨rfl, h⟩
    intro a ha b hb
    rw [heach a ha, heach b hb]

theorem ofSteps_eq_ok {steps : List PathStep} {choice : PathChoice} (h : ofSteps steps = .ok choice) :
    steps.findSome? PathStep.fault? = none ∧
      ((∃ branch, PathStep.branches steps = [branch] ∧ PathStep.closing? steps = none ∧
          choice = always branch.template) ∨
        (¬∃ branch, PathStep.branches steps = [branch] ∧ PathStep.closing? steps = none) ∧
          choice = ⟨PathStep.branches steps, PathStep.closing? steps, []⟩) := by
  rw [ofSteps] at h
  split at h
  · cases h
  · next hfault =>
    refine ⟨hfault, ?_⟩
    split at h
    · next branch hbranches hclosing =>
      cases h
      exact .inl ⟨branch, hbranches, hclosing, rfl⟩
    · next hno =>
      cases h
      refine .inr ⟨?_, rfl⟩
      rintro ⟨branch, hbranches, hclosing⟩
      exact hno branch hbranches hclosing

theorem ofOrdered_eq_ok {template : String} {rest : List String} {choice : PathChoice}
    (h : ofSteps (PathStep.ofOrdered (template :: rest)) = .ok choice) :
    signature template ≠ [] ∧
      (PathStep.walk (signature template) [signature template] false rest).findSome?
          PathStep.fault? = none ∧
      (((∀ other ∈ rest, signature other = signature template) ∧ choice = always template) ∨
        (¬∀ other ∈ rest, signature other = signature template) ∧
          choice = ⟨⟨signature template, template⟩ :: PathStep.branches
              (PathStep.walk (signature template) [signature template] false rest),
            PathStep.closing? (PathStep.walk (signature template) [signature template] false rest),
            []⟩) := by
  obtain ⟨hfault, hchoice⟩ := ofSteps_eq_ok h
  rw [PathStep.ofOrdered] at hfault hchoice
  by_cases hplain : (signature template).isEmpty = true
  · rw [if_pos hplain] at hfault
    cases hfault
  · rw [if_neg hplain] at hfault hchoice
    have hbranches (steps : List PathStep) :
        PathStep.branches (.branch (signature template) template false :: steps) =
          ⟨signature template, template⟩ :: PathStep.branches steps := rfl
    have hclosing (steps : List PathStep) :
        PathStep.closing? (.branch (signature template) template false :: steps) =
          PathStep.closing? steps := rfl
    simp only [hbranches, hclosing, List.cons.injEq] at hchoice
    refine ⟨by simpa using hplain, hfault, ?_⟩
    rcases hchoice with ⟨branch, ⟨rfl, hnone⟩, hopen, rfl⟩ | ⟨hmany, rfl⟩
    · exact .inl ⟨PathStep.same_of_walk_empty hfault hnone hopen, rfl⟩
    · refine .inr ⟨?_, rfl⟩
      intro hsame
      obtain ⟨hnone, hopen⟩ := PathStep.walk_of_same [signature template] hsame
      exact hmany ⟨_, ⟨rfl, hnone⟩, hopen⟩

theorem select_ofOrdered {ordered : List String} {choice : PathChoice} (hlen : 2 ≤ ordered.length)
    (h : ofSteps (PathStep.ofOrdered ordered) = .ok choice) (supplied : List String) :
    choice.select supplied = (ordered.find? (satisfied supplied)).or (lastResort ordered) := by
  obtain _ | ⟨template, _ | ⟨next, rest⟩⟩ := ordered
  · simp at hlen
  · simp at hlen
  · have happly := Template.satisfied_eq_applies supplied template
    obtain ⟨-, hfault, ⟨hsame, rfl⟩ | ⟨hdiffer, rfl⟩⟩ := ofOrdered_eq_ok h
    · have hresort : lastResort (template :: next :: rest) = some template :=
        if_pos (same_iff.mpr hsame)
      change some template = _
      rw [hresort, List.find?_cons]
      cases hyes : satisfied supplied template with
      | true => rfl
      | false =>
        have hno : (next :: rest).find? (satisfied supplied) = none := by
          rw [List.find?_eq_none]
          intro other hother
          rw [Template.satisfied_congr supplied (hsame other hother), hyes]
          exact Bool.false_ne_true
        rw [hno]
        rfl
    · rw [select, List.find?_cons, happly, List.find?_cons]
      cases hyes : satisfied supplied template with
      | true => rfl
      | false =>
        rw [PathBranch.applies] at happly
        have hpick := PathStep.pick_walk supplied [signature template] (happly.trans hyes) hfault
        have hresort : lastResort (template :: next :: rest) =
            PathStep.lastOf (signature template) (next :: rest) := by
          rw [lastResort, if_neg (mt same_iff.mp hdiffer), lastOf_eq]
        rw [hresort]
        change _ = (List.find? (satisfied supplied) (next :: rest)).or _
        rw [← hpick, PathStep.pick]
        dsimp only
        split
        · next branch hb => rw [hb]; rfl
        · next hb => rw [hb]; rfl

theorem resolve_of_regular {name : String} {templates : List String}
    (hname : Irregular.paths.lookup name = none) (hlen : 2 ≤ templates.length) :
    resolve name templates = (ofSteps (PathStep.ofOrdered (longestFirst templates))).mapError
      (⟨name, longestFirst templates, ·⟩) := by
  obtain _ | ⟨template, _ | ⟨next, rest⟩⟩ := templates
  · simp at hlen
  · simp at hlen
  · simp only [resolve, hname]

theorem chain_of_resolve {name : String} {templates : List String} {choice : PathChoice}
    (hname : Irregular.paths.lookup name = none) (hlen : 2 ≤ templates.length)
    (h : resolve name templates = .ok choice) :
    ofSteps (PathStep.ofOrdered (longestFirst templates)) = .ok choice := by
  rw [resolve_of_regular hname hlen] at h
  exact mapError_eq_ok.mp h

theorem resolve_cases {name : String} {templates : List String} {choice : PathChoice}
    (h : resolve name templates = .ok choice) :
    (∃ template, templates = [template] ∧ choice = always template) ∨
      (2 ≤ templates.length ∧ Irregular.paths.lookup name = some choice) ∨
      (2 ≤ templates.length ∧ Irregular.paths.lookup name = none ∧
        ofSteps (PathStep.ofOrdered (longestFirst templates)) = .ok choice) := by
  obtain _ | ⟨template, _ | ⟨next, rest⟩⟩ := templates
  · cases h
  · cases h
    exact .inl ⟨template, rfl, rfl⟩
  · have hlen : 2 ≤ (template :: next :: rest).length := by simp
    cases hname : Irregular.paths.lookup name with
    | none => exact .inr (.inr ⟨hlen, rfl, chain_of_resolve hname hlen h⟩)
    | some irregular =>
      simp only [resolve, hname] at h
      cases h
      exact .inr (.inl ⟨hlen, rfl⟩)

theorem irregular_eq {name : String} {choice : PathChoice}
    (h : Irregular.paths.lookup name = some choice) :
    choice = ⟨[⟨["index", "id"], "\x7bindex\x7d/\x7bendpoint\x7d/\x7bid\x7d"⟩],
      some "\x7bindex\x7d/\x7bendpoint\x7d", [("endpoint", "_termvectors")]⟩ := by
  rw [Irregular.paths, List.lookup_cons] at h
  split at h
  · cases h
    rfl
  · cases h

theorem resolve_document_routes {name : String} (hname : Irregular.paths.lookup name = none) :
    resolve name ["/\x7bindex\x7d/_doc/\x7bid\x7d", "/\x7bindex\x7d/_doc"] =
      .ok ⟨[⟨["index", "id"], "/\x7bindex\x7d/_doc/\x7bid\x7d"⟩], some "/\x7bindex\x7d/_doc", []⟩ := by
  have hsteps : ofSteps (PathStep.ofOrdered
      ["/\x7bindex\x7d/_doc/\x7bid\x7d", "/\x7bindex\x7d/_doc"]) =
      .ok ⟨[⟨["index", "id"], "/\x7bindex\x7d/_doc/\x7bid\x7d"⟩], some "/\x7bindex\x7d/_doc", []⟩ := by
    decide
  rw [resolve_of_regular hname (by decide), longestFirst_of_pairwise (by decide), hsteps]
  rfl

theorem resolve_term_vectors :
    resolve "termvectors" ["/\x7bindex\x7d/_termvectors/\x7bid\x7d", "/\x7bindex\x7d/_termvectors"] =
      .ok ⟨[⟨["index", "id"], "\x7bindex\x7d/\x7bendpoint\x7d/\x7bid\x7d"⟩],
        some "\x7bindex\x7d/\x7bendpoint\x7d", [("endpoint", "_termvectors")]⟩ := by
  decide

theorem form_of_resolve {name : String} {templates : List String} {choice : PathChoice}
    (h : resolve name templates = .ok choice) :
    (∃ template ∈ templates, choice = always template) ∨
      (∃ first rest, longestFirst templates = first :: rest ∧ signature first ≠ [] ∧
        choice = ⟨⟨signature first, first⟩ :: PathStep.branches
            (PathStep.walk (signature first) [signature first] false rest),
          PathStep.closing? (PathStep.walk (signature first) [signature first] false rest), []⟩) ∨
      Irregular.paths.lookup name = some choice := by
  rcases resolve_cases h with ⟨only, rfl, rfl⟩ | ⟨-, hirregular⟩ | ⟨hlen, -, hchain⟩
  · exact .inl ⟨only, List.mem_singleton_self _, rfl⟩
  · exact .inr (.inr hirregular)
  · cases hordered : longestFirst templates with
    | nil =>
      rw [← longestFirst_length, hordered] at hlen
      simp at hlen
    | cons first rest =>
      rw [hordered] at hchain
      obtain ⟨hsignature, -, ⟨-, rfl⟩ | ⟨-, rfl⟩⟩ := ofOrdered_eq_ok hchain
      · left
        refine ⟨first, ?_, rfl⟩
        rw [← (longestFirst_perm templates).mem_iff, hordered]
        exact List.mem_cons_self
      · exact .inr (.inl ⟨first, rest, rfl, hsignature, rfl⟩)

theorem needed_of_resolve {name : String} {templates : List String} {choice : PathChoice}
    (h : resolve name templates = .ok choice) {branch : PathBranch} (hbranch : branch ∈ choice.branches) :
    branch.needed ≠ [] ∧ branch.needed ⊆ Template.slotNames branch.template := by
  have hsubset (template : String) : signature template ⊆ Template.slotNames template :=
    fun _ hname => Template.mem_signature.mp hname
  rcases form_of_resolve h with ⟨template, -, rfl⟩ | ⟨first, rest, -, hsignature, rfl⟩ | hirregular
  · cases hbranch
  · rcases List.mem_cons.mp hbranch with rfl | hwalk
    · exact ⟨hsignature, hsubset first⟩
    · obtain ⟨hneeded, hne⟩ := PathStep.branch_of_walk hwalk
      exact ⟨hne, hneeded ▸ hsubset branch.template⟩
  · rw [irregular_eq hirregular, List.mem_singleton] at hbranch
    subst hbranch
    have hslots : Template.slotNames "\x7bindex\x7d/\x7bendpoint\x7d/\x7bid\x7d" =
        ["index", "endpoint", "id"] := by decide
    refine ⟨List.cons_ne_nil _ _, ?_⟩
    rw [hslots]
    decide

theorem templates_of_resolve {name : String} {templates : List String} {choice : PathChoice}
    (hname : Irregular.paths.lookup name = none) (h : resolve name templates = .ok choice) :
    choice.templates ⊆ templates := by
  intro template htemplate
  rcases form_of_resolve h with ⟨only, honly, rfl⟩ | ⟨first, rest, hordered, -, rfl⟩ | hirregular
  · rw [List.mem_singleton.mp htemplate]
    exact honly
  · rw [← (longestFirst_perm templates).mem_iff, hordered]
    have hkept := (PathStep.kept_open_walk (signature first) [signature first] rest).1
    exact (hkept.cons_cons first).subset htemplate
  · rw [hname] at hirregular
    cases hirregular

theorem offers_of_resolve {name : String} {templates : List String} {choice : PathChoice}
    (h : resolve name templates = .ok choice) : choice.branches ≠ [] ∨ choice.fallback ≠ none := by
  rcases form_of_resolve h with ⟨only, -, rfl⟩ | ⟨first, rest, -, -, rfl⟩ | hirregular
  · exact .inr (Option.some_ne_none _)
  · exact .inl (List.cons_ne_nil _ _)
  · rw [irregular_eq hirregular]
    exact .inl (List.cons_ne_nil _ _)

/-- A call takes the longest template whose variables it supplies, the first declared of several. -/
theorem select_eq_longest_satisfied {name : String} {templates : List String} {choice : PathChoice}
    (hname : Irregular.paths.lookup name = none) (hlen : 2 ≤ templates.length)
    (h : resolve name templates = .ok choice) (supplied : List String) :
    choice.select supplied =
      ((longestFirst templates).find? (satisfied supplied)).or (lastResort (longestFirst templates)) := by
  apply select_ofOrdered
  · rwa [longestFirst_length]
  · exact chain_of_resolve hname hlen h

theorem select_longest_of_three :
    let templates := ["/\x7ba\x7d/_y", "/\x7ba\x7d/_x/\x7bb\x7d", "/\x7ba\x7d/_zz"]
    let choice : PathChoice :=
      ⟨[⟨["a", "b"], "/\x7ba\x7d/_x/\x7bb\x7d"⟩, ⟨["a"], "/\x7ba\x7d/_zz"⟩], none, []⟩
    Irregular.paths.lookup "example" = none ∧ 2 ≤ templates.length ∧
      resolve "example" templates = .ok choice ∧
      choice.select ["a"] =
        ((longestFirst templates).find? (satisfied ["a"])).or (lastResort (longestFirst templates)) ∧
      choice.select ["a"] = some "/\x7ba\x7d/_zz" := by
  intro templates choice
  have hname : Irregular.paths.lookup "example" = none := by decide
  have hlen : 2 ≤ templates.length := by decide
  have hordered : longestFirst templates =
      ["/\x7ba\x7d/_x/\x7bb\x7d", "/\x7ba\x7d/_zz", "/\x7ba\x7d/_y"] := by
    simp +decide [templates, longestFirst, List.mergeSort, List.MergeSort.Internal.splitInTwo]
  have hresolve : resolve "example" templates = .ok choice := by
    rw [resolve_of_regular hname hlen, hordered]
    decide
  exact ⟨hname, hlen, hresolve, select_eq_longest_satisfied hname hlen hresolve ["a"], by decide⟩

end PathChoice

end ClientForge
