import ClientForge.Proofs.Location
import ClientForge.Proofs.ModuleTree.History
import ClientForge.Text.Identifier
import Mathlib.Algebra.GroupWithZero.Nat
import Mathlib.Data.List.Induction

namespace ClientForge

theorem Text.no_point_of_isIdentifier {text : List Char} (h : isIdentifier text = true) : '.' ∉ text := by
  cases text with
  | nil => cases h
  | cons first rest =>
    rw [isIdentifier, Bool.and_eq_true, List.all_eq_true] at h
    rw [List.mem_cons, not_or]
    constructor
    · rintro rfl
      exact absurd h.1 (by decide)
    · intro hmem
      exact absurd (h.2 _ hmem) (by decide)

namespace ModuleTree

variable {tree node : ModuleTree} {path other : List String} {name : String}
  {endpoints files : List (List String × String)}

theorem splitName_dotted (h : ∀ part ∈ path, '.' ∉ part.toList) :
    Location.splitName (dotted path) = if path = [] then ["__root__"] else path := by
  rw [dotted]
  by_cases hpath : path = []
  · rw [hpath]
    decide
  · rw [if_neg (by simpa using hpath), if_neg hpath, Location.splitName_intercalate hpath h]

theorem eq_of_dotted_eq (h : ∀ part ∈ path, '.' ∉ part.toList) (hother : ∀ part ∈ other, '.' ∉ part.toList)
    (hne : path ≠ []) (hothers : other ≠ []) (hdotted : dotted path = dotted other) : path = other := by
  have hsplit := congrArg Location.splitName hdotted
  rwa [splitName_dotted h, splitName_dotted hother, if_neg hne, if_neg hothers] at hsplit

theorem eq_root_of_dotted_eq (h : ∀ part ∈ path, '.' ∉ part.toList) (hne : path ≠ [])
    (hdotted : dotted path = dotted []) : path = ["__root__"] := by
  have hsplit := congrArg Location.splitName hdotted
  rwa [splitName_dotted h, splitName_dotted (by simp), if_neg hne, if_pos rfl] at hsplit

theorem dotted_root : dotted ["__root__"] = "__root__" := by
  decide

def row (entry : List String × ModuleTree) : String × List String :=
  (dotted entry.1, Text.sorted entry.2.endpoints)

def inner (tree : ModuleTree) : List (List String × ModuleTree) :=
  (walk [] tree).tail.filter fun entry => !entry.2.endpoints.isEmpty

theorem walk_eq (path : List String) (tree : ModuleTree) : walk path tree = (path, tree) :: (walk path tree).tail := by
  cases tree
  rw [walk]
  rfl

theorem filterMap_row (entries : List (List String × ModuleTree)) :
    (entries.filterMap fun (path, node) =>
        if node.endpoints.isEmpty then none else some (dotted path, Text.sorted node.endpoints)) =
      (entries.filter fun entry => !entry.2.endpoints.isEmpty).map row := by
  induction entries with
  | nil => rfl
  | cons entry rest ih =>
    rw [List.filterMap_cons, List.filter_cons, ih]
    dsimp only
    cases entry.2.endpoints.isEmpty <;> rfl

theorem flatten_eq (tree : ModuleTree) :
    flatten tree = Entries.putAll (if tree.endpoints.isEmpty then [] else [row ([], tree)]) ((inner tree).map row) := by
  rw [flatten, filterMap_row, walk_eq, List.filter_cons, inner]
  dsimp only
  cases tree.endpoints.isEmpty <;> rfl

theorem Distinct.mem_inner (h : Distinct tree) :
    (path, node) ∈ inner tree ↔ path ≠ [] ∧ get? path tree = some node ∧ node.endpoints ≠ [] := by
  have hwalk : (path, node) ∈ walk [] tree ↔ get? path tree = some node := by
    rw [h.mem_walk []]
    simp
  have hpairs := h.pairwise_walk []
  rw [walk_eq, List.map_cons, List.pairwise_cons] at hpairs
  rw [inner, List.mem_filter, ← hwalk, walk_eq [] tree, List.mem_cons, List.tail_cons]
  constructor
  · rintro ⟨hmem, hnode⟩
    refine ⟨?_, .inr hmem, by simpa using hnode⟩
    rintro rfl
    exact lt_irrefl _ (hpairs.1 [] (List.mem_map_of_mem hmem))
  · rintro ⟨hne, hfirst | hmem, hnode⟩
    · exact absurd (congrArg Prod.fst hfirst) hne
    · exact ⟨hmem, by simpa using hnode⟩

def DotlessPaths (tree : ModuleTree) : Prop :=
  ∀ path, (nodeAt path tree).endpoints ≠ [] → ∀ part ∈ path, '.' ∉ part.toList

theorem Distinct.nodup_keys_inner (h : Distinct tree) (hparts : DotlessPaths tree) :
    (Entries.keys ((inner tree).map row)).Nodup := by
  have hpaths : ((inner tree).map Prod.fst).Nodup := by
    refine List.Nodup.sublist ?_ ((h.pairwise_walk []).imp ne_of_lt)
    exact (List.filter_sublist.trans (List.tail_sublist _)).map Prod.fst
  have hkeys : Entries.keys ((inner tree).map row) = ((inner tree).map Prod.fst).map dotted := by
    rw [Entries.keys, List.map_map, List.map_map]
    rfl
  have hinner : ∀ path ∈ (inner tree).map Prod.fst, path ≠ [] ∧ ∀ part ∈ path, '.' ∉ part.toList := by
    intro path hpath
    obtain ⟨⟨_, node⟩, hnode, rfl⟩ := List.mem_map.mp hpath
    obtain ⟨hne, hget, hendpoints⟩ := h.mem_inner.mp hnode
    exact ⟨hne, hparts _ (by rwa [nodeAt_of_get? hget])⟩
  rw [hkeys]
  apply hpaths.map_on
  intro path hpath other hother
  exact eq_of_dotted_eq (hinner path hpath).2 (hinner other hother).2 (hinner path hpath).1 (hinner other hother).1

theorem get?_of_endpoints (h : (nodeAt path tree).endpoints ≠ []) : get? path tree = some (nodeAt path tree) := by
  cases hget : get? path tree with
  | none => exact absurd (nodeAt_of_none hget).1 h
  | some node => rw [nodeAt_of_get? hget]

theorem Distinct.root_mem_keys_inner (h : Distinct tree) (hparts : DotlessPaths tree) :
    "__root__" ∈ Entries.keys ((inner tree).map row) ↔ (nodeAt ["__root__"] tree).endpoints ≠ [] := by
  rw [Entries.keys, List.map_map, List.mem_map]
  constructor
  · rintro ⟨⟨path, node⟩, hnode, hdotted⟩
    obtain ⟨hne, hget, hendpoints⟩ := h.mem_inner.mp hnode
    rw [← nodeAt_of_get? hget] at hendpoints
    rwa [eq_root_of_dotted_eq (hparts path hendpoints) hne hdotted] at hendpoints
  · intro hendpoints
    exact ⟨_, h.mem_inner.mpr ⟨List.cons_ne_nil _ _, get?_of_endpoints hendpoints, hendpoints⟩, dotted_root⟩

theorem Distinct.flatten_perm (h : Distinct tree) (hparts : DotlessPaths tree) :
    (flatten tree).Perm ((if tree.endpoints = [] ∨ (nodeAt ["__root__"] tree).endpoints ≠ [] then []
      else [row ([], tree)]) ++ (inner tree).map row) := by
  have hroot : (Entries.keys (if tree.endpoints.isEmpty then [] else [row ([], tree)])).Nodup := by
    split
    · exact List.nodup_nil
    · exact List.nodup_singleton _
  have hperm := Entries.putAll_perm hroot (h.nodup_keys_inner hparts)
  have hkey : (row ([], tree)).1 ∉ Entries.keys ((inner tree).map row) ↔
      (nodeAt ["__root__"] tree).endpoints = [] := not_iff_comm.mp (h.root_mem_keys_inner hparts).symm
  rw [← flatten_eq] at hperm
  refine hperm.trans (List.Perm.of_eq (congrArg (· ++ _) ?_))
  by_cases hempty : tree.endpoints = []
  · simp [hempty]
  · rw [if_neg (by simpa using hempty), List.filter_singleton]
    by_cases htaken : (nodeAt ["__root__"] tree).endpoints = []
    · rw [decide_eq_true (hkey.mpr htaken)]
      simp [hempty, htaken]
    · rw [decide_eq_false (mt hkey.mp htaken)]
      simp [htaken]

theorem Distinct.mem_flatten (h : Distinct tree) (hparts : DotlessPaths tree) {entry : String × List String} :
    entry ∈ flatten tree ↔ ∃ path, (nodeAt path tree).endpoints ≠ [] ∧
      (path = [] → (nodeAt ["__root__"] tree).endpoints = []) ∧ entry = row (path, nodeAt path tree) := by
  rw [(h.flatten_perm hparts).mem_iff, List.mem_append, List.mem_map]
  constructor
  · rintro (hroot | ⟨⟨path, node⟩, hnode, rfl⟩)
    · split at hroot
      · cases hroot
      · next hlisted =>
        rw [not_or, not_not] at hlisted
        exact ⟨[], hlisted.1, fun _ => hlisted.2, List.mem_singleton.mp hroot⟩
    · obtain ⟨hne, hget, hendpoints⟩ := h.mem_inner.mp hnode
      rw [← nodeAt_of_get? hget] at hendpoints ⊢
      exact ⟨path, hendpoints, fun hpath => absurd hpath hne, rfl⟩
  · rintro ⟨path, hendpoints, hroot, rfl⟩
    by_cases hpath : path = []
    · subst hpath
      rw [if_neg (by simpa [not_or] using ⟨hendpoints, hroot rfl⟩)]
      exact .inl (List.mem_singleton_self _)
    · exact .inr ⟨_, h.mem_inner.mpr ⟨hpath, get?_of_endpoints hendpoints, hendpoints⟩, rfl⟩

theorem countChildren_eq (children : List (String × ModuleTree)) :
    countChildren children = (children.map fun child => child.2.count).sum := by
  induction children with
  | nil => rfl
  | cons child rest ih => rw [countChildren, ih, List.map_cons, List.sum_cons]

theorem Distinct.sum_walk (h : Distinct tree) (path : List String) :
    ((walk path tree).map fun entry => entry.2.endpoints.length).sum = tree.count := by
  induction h generalizing path with
  | @intro name endpoints files children hnodup hchildren ih =>
    have hperm := (List.mergeSort_perm (walkChildren path children) (·.1 ≤ ·.1)).flatMap_right (·.2)
    have hbelow : ((walkChildren path children).flatMap (·.2)).map (fun entry => entry.2.endpoints.length) =
        children.flatMap fun child => (walk (path ++ [child.1]) child.2).map fun entry => entry.2.endpoints.length := by
      rw [walkChildren_eq, List.flatMap_map, List.map_flatMap]
    rw [walk, List.map_cons, List.sum_cons, count, countChildren_eq, sorted, (hperm.map _).sum_nat, hbelow,
      List.flatMap_def, List.sum_flatten, List.map_map]
    congr 2
    exact List.map_congr_left fun child hchild => ih child hchild _

theorem length_row (entry : List String × ModuleTree) : (row entry).2.length = entry.2.endpoints.length :=
  List.length_mergeSort _

theorem Distinct.sum_inner (h : Distinct tree) :
    tree.endpoints.length + (((inner tree).map row).map (·.2.length)).sum = tree.count := by
  have hlengths : ((inner tree).map row).map (·.2.length) = (inner tree).map fun entry => entry.2.endpoints.length := by
    rw [List.map_map]
    exact List.map_congr_left fun entry _ => length_row entry
  have hempty (entries : List (List String × ModuleTree)) :
      ((entries.filter fun entry => !entry.2.endpoints.isEmpty).map fun entry => entry.2.endpoints.length).sum =
        (entries.map fun entry => entry.2.endpoints.length).sum := by
    induction entries with
    | nil => rfl
    | cons entry rest ih =>
      rw [List.filter_cons, List.map_cons, List.sum_cons, ← ih]
      cases hendpoints : entry.2.endpoints <;> simp [hendpoints]
  rw [hlengths, inner, hempty, ← h.sum_walk [], walk_eq [] tree, List.map_cons, List.sum_cons]
  rfl

theorem Distinct.sum_flatten (h : Distinct tree) (hparts : DotlessPaths tree) :
    ((flatten tree).map (·.2.length)).sum +
        (if (nodeAt ["__root__"] tree).endpoints = [] then 0 else tree.endpoints.length) = tree.count := by
  have hinner := h.sum_inner
  have hroot := length_row ([], tree)
  rw [((h.flatten_perm hparts).map _).sum_nat, List.map_append, List.sum_append]
  by_cases hempty : tree.endpoints = []
  · rw [hempty] at hinner ⊢
    simpa using hinner
  · by_cases htaken : (nodeAt ["__root__"] tree).endpoints = []
    · simp only [hempty, htaken, ne_eq, not_true_eq_false, or_self, if_false, if_true, List.map_cons, List.map_nil,
        List.sum_cons, List.sum_nil, hroot]
      omega
    · simp only [htaken, ne_eq, not_false_eq_true, or_true, if_true, if_false, List.map_nil, List.sum_nil]
      omega

theorem nodup_keys_flatten (tree : ModuleTree) : (Entries.keys (flatten tree)).Nodup := by
  have hnone : (Entries.keys ([] : Entries (List String))).Nodup := List.nodup_nil
  exact Entries.nodup_keys_putAll hnone _

theorem nodup_insertNew {names : List String} (h : names.Nodup) (name : String) : (insertNew name names).Nodup := by
  rw [insertNew]
  split
  · exact h
  · next hnew =>
    refine List.nodup_append.mpr ⟨h, List.nodup_singleton name, ?_⟩
    rintro other hother _ hlast rfl
    obtain rfl := List.mem_singleton.mp hlast
    exact hnew (List.contains_iff_mem.mpr hother)

theorem nodup_namesAt (path : List String) (pairs : List (List String × String)) : (namesAt path pairs).Nodup := by
  induction pairs using List.reverseRecOn with
  | nil => exact List.nodup_nil
  | append_singleton pairs pair ih =>
    rw [namesAt_concat]
    split
    · exact nodup_insertNew ih pair.2
    · exact ih

structure Lists (endpoints : List (List String × String)) (listed : Entries (List String)) : Prop where
  nodup_keys : (Entries.keys listed).Nodup
  sorted : ∀ entry ∈ listed, entry.2.Pairwise (· < ·)
  complete : ∀ pair ∈ endpoints, ∃ names, (dotted pair.1, names) ∈ listed ∧ pair.2 ∈ names
  sound : ∀ entry ∈ listed, ∀ name ∈ entry.2, ∃ path, (path, name) ∈ endpoints ∧ entry.1 = dotted path

theorem namesAt_ne_nil_iff {pairs : List (List String × String)} :
    namesAt path pairs ≠ [] ↔ ∃ name, (path, name) ∈ pairs := by
  simp only [← mem_namesAt, ne_eq, List.eq_nil_iff_forall_not_mem, not_forall, not_not]

theorem Records.lists_filter (h : Records endpoints files tree) (hparts : DotlessPaths tree) (keep : List String → Bool)
    (hkeep : ∀ path, namesAt path endpoints ≠ [] →
      (keep path = true ↔ (path = [] → namesAt ["__root__"] endpoints = []))) :
    Lists (endpoints.filter fun pair => keep pair.1) (flatten tree) := by
  have hmem (entry : String × List String) : entry ∈ flatten tree ↔ ∃ path, namesAt path endpoints ≠ [] ∧
      keep path = true ∧ entry = (dotted path, Text.sorted (namesAt path endpoints)) := by
    simp only [h.distinct.mem_flatten hparts, row, h.endpoints_eq]
    exact exists_congr fun path => and_congr_right fun hnames => by rw [hkeep path hnames]
  refine ⟨nodup_keys_flatten tree, fun entry hentry => ?_, fun pair hpair => ?_,
    fun entry hentry name hname => ?_⟩
  · obtain ⟨path, -, -, rfl⟩ := (hmem entry).mp hentry
    exact pairwise_mergeSort_of_nodup id (by simpa using nodup_namesAt path endpoints)
  · obtain ⟨hadded, hkept⟩ := List.mem_filter.mp hpair
    refine ⟨Text.sorted (namesAt pair.1 endpoints), (hmem _).mpr ⟨pair.1, ?_, hkept, rfl⟩, ?_⟩
    · exact namesAt_ne_nil_iff.mpr ⟨pair.2, hadded⟩
    · exact List.mem_mergeSort.mpr (mem_namesAt.mpr hadded)
  · obtain ⟨path, -, hkept, rfl⟩ := (hmem entry).mp hentry
    have hadded := mem_namesAt.mp (List.mem_mergeSort.mp hname)
    exact ⟨path, List.mem_filter.mpr ⟨hadded, hkept⟩, rfl⟩

theorem dotlessPaths_build {additions : List Addition} (root : String)
    (h : ∀ addition ∈ additions, ∀ part ∈ addition.path, '.' ∉ part.toList) : DotlessPaths (build root additions) := by
  intro path hpath
  rw [(records_build root additions).endpoints_eq, namesAt_ne_nil_iff] at hpath
  obtain ⟨name, hname⟩ := hpath
  obtain ⟨addition, haddition, hpair⟩ := List.mem_filterMap.mp hname
  cases addition with
  | endpoint =>
    cases hpair
    exact h _ haddition
  | file => cases hpair

/-- What flattening lists is what was added, and as much as is counted, exactly where the root and a package of its
name do not both have endpoints; where they do, the endpoints of the root are missing and no others. -/
theorem flatten_lists_iff (root : String) (additions : List Addition)
    (hparts : ∀ addition ∈ additions, ∀ part ∈ addition.path, '.' ∉ part.toList) :
    let tree := build root additions
    let endpoints := additions.filterMap Addition.endpoint?
    let total := ((flatten tree).map (·.2.length)).sum
    (Lists endpoints (flatten tree) ∧ total = tree.count ↔
        namesAt [] endpoints = [] ∨ namesAt ["__root__"] endpoints = []) ∧
      (namesAt ["__root__"] endpoints ≠ [] →
        Lists (endpoints.filter (·.1 ≠ [])) (flatten tree) ∧ total + (namesAt [] endpoints).length = tree.count) := by
  intro tree endpoints total
  have hrecords : Records endpoints (additions.filterMap Addition.file?) tree := records_build root additions
  have hdotless : DotlessPaths tree := dotlessPaths_build root hparts
  have hroot : tree.endpoints = namesAt [] endpoints := hrecords.endpoints_eq []
  have hsum := hrecords.distinct.sum_flatten hdotless
  rw [hroot, hrecords.endpoints_eq] at hsum
  constructor
  · constructor
    · rintro ⟨-, htotal⟩
      by_cases htaken : namesAt ["__root__"] endpoints = []
      · exact .inr htaken
      · rw [if_neg htaken] at hsum
        exact .inl (List.length_eq_zero_iff.mp (by omega))
    · intro hclear
      constructor
      · have hlists := hrecords.lists_filter hdotless (fun _ => true) fun path hpath => by
          refine iff_of_true rfl ?_
          rintro rfl
          exact hclear.resolve_left hpath
        rwa [List.filter_true] at hlists
      · rcases hclear with hempty | hfree
        · rw [hempty, List.length_nil, ite_self] at hsum
          exact hsum
        · rw [if_pos hfree] at hsum
          exact hsum
  · intro htaken
    rw [if_neg htaken] at hsum
    refine ⟨hrecords.lists_filter hdotless (fun path => path ≠ []) fun path _ => ?_, hsum⟩
    simp [htaken]

theorem flatten_lists_package :
    let additions : List Addition := [.endpoint ["__root__"] "search", .endpoint ["cat"] "nodes", .file [] "conftest.py",
      .endpoint ["cat", "__root__"] "info", .endpoint ["cat"] "aliases", .endpoint ["cat"] "nodes"]
    (∀ addition ∈ additions, ∀ part ∈ addition.path, '.' ∉ part.toList) ∧
      Lists (additions.filterMap Addition.endpoint?) (flatten (build "api" additions)) ∧
      ((flatten (build "api" additions)).map (·.2.length)).sum = 4 := by
  intro additions
  have hidentifiers : ∀ addition ∈ additions, ∀ part ∈ addition.path, Text.isIdentifier part.toList = true := by decide
  have hparts : ∀ addition ∈ additions, ∀ part ∈ addition.path, '.' ∉ part.toList :=
    fun addition haddition part hpart => Text.no_point_of_isIdentifier (hidentifiers addition haddition part hpart)
  obtain ⟨hlists, htotal⟩ := (flatten_lists_iff "api" additions hparts).1.mpr (.inl (by decide +kernel))
  exact ⟨hparts, hlists, htotal.trans (by decide +kernel)⟩

theorem flatten_loses_root :
    let additions : List Addition := [.endpoint [] "info", .endpoint ["__root__"] "search"]
    (∀ addition ∈ additions, ∀ part ∈ addition.path, Text.isIdentifier part.toList = true) ∧
      flatten (build "api" additions) = [("__root__", ["search"])] ∧ (build "api" additions).count = 2 := by
  refine ⟨by decide, by decide +kernel, by decide +kernel⟩

end ModuleTree

end ClientForge
