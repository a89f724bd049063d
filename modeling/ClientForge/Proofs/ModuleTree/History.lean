import ClientForge.Proofs.ModuleTree
import Mathlib.Data.String.Basic

namespace ClientForge

namespace ModuleTree

inductive Addition
  | endpoint (path : List String) (name : String)
  | file (path : List String) (name : String)
  deriving Repr, DecidableEq

namespace Addition

def path : Addition → List String
  | .endpoint path _ => path
  | .file path _ => path

def apply : Addition → ModuleTree → ModuleTree
  | .endpoint path name => addEndpoint path name
  | .file path name => addFile path name

def endpoint? : Addition → Option (List String × String)
  | .endpoint path name => some (path, name)
  | .file _ _ => none

def file? : Addition → Option (List String × String)
  | .endpoint _ _ => none
  | .file path name => some (path, name)

end Addition

def build (name : String) (additions : List Addition) : ModuleTree :=
  additions.foldl (fun tree addition => addition.apply tree) (leaf name)

def namesAt (path : List String) (pairs : List (List String × String)) : List String :=
  ((pairs.filter (·.1 = path)).map Prod.snd).eraseDups

def pairsBelow (path : List String) (pairs : List (List String × String)) : List (List String × String) :=
  (pairs.filter (path <+: ·.1)).eraseDups

variable {tree node : ModuleTree} {path other : List String} {change : ModuleTree → ModuleTree}

theorem nodeAt_update_append (change : ModuleTree → ModuleTree) (path rest : List String) (tree : ModuleTree) :
    nodeAt path (update change (path ++ rest) tree) = update change rest (nodeAt path tree) := by
  induction path generalizing tree with
  | nil => rfl
  | cons part others ih => rw [List.cons_append, update, nodeAt, Entries.get?_put_self, Option.getD_some, ih, nodeAt]

theorem nodeAt_append (path rest : List String) (tree : ModuleTree) :
    nodeAt (path ++ rest) tree = nodeAt rest (nodeAt path tree) := by
  induction path generalizing tree with
  | nil => rfl
  | cons part others ih => rw [List.cons_append, nodeAt, ih, nodeAt]

theorem nodeAt_update_of_not_prefix (hchange : IsOwn change) (h : ¬other <+: path) (tree : ModuleTree) :
    nodeAt other (update change path tree) = nodeAt other tree := by
  induction path generalizing other tree with
  | nil =>
    cases other with
    | nil => exact absurd List.nil_prefix h
    | cons part others => rw [update, nodeAt, hchange, nodeAt]
  | cons part rest ih =>
    cases other with
    | nil => exact absurd List.nil_prefix h
    | cons first others =>
      rw [update, nodeAt, nodeAt]
      by_cases hpart : part = first
      · subst hpart
        rw [Entries.get?_put_self, Option.getD_some]
        exact ih (fun hrest => h (List.cons_prefix_cons.mpr ⟨rfl, hrest⟩)) _
      · rw [Entries.get?_put_of_ne _ _ hpart]

theorem get?_leaf (path : List String) (name : String) : (get? path (leaf name)).isSome ↔ path = [] := by
  cases path with
  | nil => simp [get?]
  | cons part rest => simp [get?, leaf, Entries.get?]

theorem isSome_get?_update (hchange : IsOwn change) (tree : ModuleTree) :
    (get? other (update change path tree)).isSome ↔ (get? other tree).isSome ∨ other <+: path := by
  induction path generalizing other tree with
  | nil =>
    cases other with
    | nil => simp [get?]
    | cons part others => simp [update, get?, hchange tree]
  | cons part rest ih =>
    cases other with
    | nil => simp [get?]
    | cons first others =>
      rw [update, get?, get?, List.cons_prefix_cons]
      by_cases hpart : part = first
      · subst hpart
        rw [Entries.get?_put_self, Option.bind_some, ih]
        cases hchild : Entries.get? tree.children part with
        | some child => simp
        | none =>
          -- The package is new, and empty but for what is on the way.
          rw [Option.getD_none, get?_leaf]
          simp only [Option.bind_none, Option.isSome_none, Bool.false_eq_true, false_or, true_and]
          refine ⟨?_, .inr⟩
          rintro (rfl | hrest)
          · exact List.nil_prefix
          · exact hrest
      · rw [Entries.get?_put_of_ne _ _ hpart]
        simp [Ne.symm hpart]

theorem pairwise_mergeSort_of_nodup {α : Type} (nameOf : α → String) {values : List α}
    (hnodup : (values.map nameOf).Nodup) :
    (values.mergeSort (nameOf · ≤ nameOf ·)).Pairwise fun first second => nameOf first < nameOf second := by
  have hle : (values.mergeSort (nameOf · ≤ nameOf ·)).Pairwise fun first second =>
      decide (nameOf first ≤ nameOf second) = true := by
    apply List.pairwise_mergeSort
    · intro first second third hfirst hsecond
      exact decide_eq_true (le_trans (of_decide_eq_true hfirst) (of_decide_eq_true hsecond))
    · intro first second
      simpa using le_total (nameOf first) (nameOf second)
  have hne : (values.mergeSort (nameOf · ≤ nameOf ·)).Pairwise fun first second => nameOf first ≠ nameOf second := by
    have hnames := ((List.mergeSort_perm values (nameOf · ≤ nameOf ·)).map nameOf).nodup_iff.mpr hnodup
    exact List.pairwise_map.mp hnames
  refine (hle.and hne).imp ?_
  rintro first second ⟨hle, hne⟩
  exact lt_of_le_of_ne (of_decide_eq_true hle) hne

theorem sorted_pairwise {α : Type} {entries : List (String × α)} (hnodup : (entries.map Prod.fst).Nodup) :
    (sorted entries).Pairwise fun first second => first.1 < second.1 :=
  pairwise_mergeSort_of_nodup Prod.fst hnodup

theorem Distinct.prefix_of_mem_walk (h : Distinct tree) (hmem : other ∈ (walk path tree).map Prod.fst) :
    path <+: other := by
  obtain ⟨⟨_, node⟩, hnode, rfl⟩ := List.mem_map.mp hmem
  obtain ⟨rest, hrest, -⟩ := (h.mem_walk path).mp hnode
  exact ⟨rest, hrest.symm⟩

theorem lt_of_part_prefix {part : String} (h : path ++ [part] <+: other) : path < other := by
  obtain ⟨rest, rfl⟩ := h
  rw [List.append_assoc, List.singleton_append]
  conv_lhs => rw [← List.append_nil path]
  exact List.append_left_lt (List.nil_lt_cons part rest)

theorem lt_of_parts_prefix {part later : String} {first second : List String} (h : part < later)
    (hfirst : path ++ [part] <+: first) (hsecond : path ++ [later] <+: second) : first < second := by
  obtain ⟨rest, rfl⟩ := hfirst
  obtain ⟨others, rfl⟩ := hsecond
  rw [List.append_assoc, List.append_assoc]
  exact List.append_left_lt (List.cons_lt_cons_iff.mpr (.inl h))

theorem Distinct.pairwise_walk (h : Distinct tree) (path : List String) :
    ((walk path tree).map Prod.fst).Pairwise (· < ·) := by
  induction h generalizing path with
  | @intro name endpoints files children hnodup hchildren ih =>
    let walks := children.map fun child => (child.1, walk (path ++ [child.1]) child.2)
    have hwalks : (sorted walks).Pairwise fun first second => first.1 < second.1 := by
      apply sorted_pairwise
      rwa [List.map_map]
    have hmem : ∀ entry ∈ sorted walks, ∃ child ∈ children, (child.1, walk (path ++ [child.1]) child.2) = entry :=
      fun entry hentry => List.mem_map.mp (List.mem_mergeSort.mp hentry)
    have hbelow : ∀ entry ∈ sorted walks, ∀ found ∈ entry.2.map Prod.fst, path ++ [entry.1] <+: found := by
      intro entry hentry
      obtain ⟨child, hchild, rfl⟩ := hmem entry hentry
      exact fun found hfound => (hchildren child hchild).prefix_of_mem_walk hfound
    rw [walk, walkChildren_eq, List.map_cons, List.map_flatMap, List.pairwise_cons, List.pairwise_flatMap]
    refine ⟨fun found hfound => ?_, fun entry hentry => ?_, ?_⟩
    · obtain ⟨entry, hentry, hfound⟩ := List.mem_flatMap.mp hfound
      exact lt_of_part_prefix (hbelow entry hentry found hfound)
    · obtain ⟨child, hchild, rfl⟩ := hmem entry hentry
      exact ih child hchild _
    · refine hwalks.imp_of_mem fun hfirst hsecond hlt found hfound later hlater => ?_
      exact lt_of_parts_prefix hlt (hbelow _ hfirst found hfound) (hbelow _ hsecond later hlater)

theorem eraseDups_concat {α : Type} [BEq α] [LawfulBEq α] (values : List α) (value : α) :
    (values ++ [value]).eraseDups =
      if values.contains value then values.eraseDups else values.eraseDups ++ [value] := by
  rw [List.eraseDups_append, List.removeAll, List.filter_singleton, List.elem_eq_contains]
  cases values.contains value with
  | false => rfl
  | true => exact List.append_nil _

theorem mem_namesAt {pairs : List (List String × String)} {name : String} :
    name ∈ namesAt path pairs ↔ (path, name) ∈ pairs := by
  rw [namesAt, List.mem_eraseDups, List.mem_map]
  simp

theorem namesAt_concat (path other : List String) (pairs : List (List String × String)) (name : String) :
    namesAt path (pairs ++ [(other, name)]) =
      if other = path then insertNew name (namesAt path pairs) else namesAt path pairs := by
  rw [insertNew, namesAt, namesAt, List.filter_append, List.filter_singleton, List.map_append]
  by_cases hpath : other = path
  · simp [hpath, eraseDups_concat]
  · simp [hpath]

theorem length_pairsBelow_concat (path other : List String) (pairs : List (List String × String)) (name : String) :
    (pairsBelow path (pairs ++ [(other, name)])).length =
      (pairsBelow path pairs).length + if path <+: other ∧ (other, name) ∉ pairs then 1 else 0 := by
  rw [pairsBelow, pairsBelow, List.filter_append, List.filter_singleton]
  by_cases hbelow : path <+: other
  · have hmem : (pairs.filter (path <+: ·.1)).contains (other, name) = decide ((other, name) ∈ pairs) := by
      simp [List.contains_eq_mem, hbelow]
    rw [decide_eq_true hbelow, cond_true, eraseDups_concat, hmem]
    by_cases hold : (other, name) ∈ pairs
    · simp [hold]
    · simp [hold, hbelow]
  · simp [hbelow]

/-- A tree has what was added and no more, where it was added. -/
structure Records (endpoints files : List (List String × String)) (tree : ModuleTree) : Prop where
  isSome_get?_iff (path : List String) :
    (get? path tree).isSome ↔ path = [] ∨ (∃ pair ∈ endpoints, path <+: pair.1) ∨ ∃ pair ∈ files, path <+: pair.1
  endpoints_eq (path : List String) : (nodeAt path tree).endpoints = namesAt path endpoints
  files_eq (path : List String) : (nodeAt path tree).files = namesAt path files
  count_eq (path : List String) : (nodeAt path tree).count = (pairsBelow path endpoints).length
  distinct : Distinct tree

variable {endpoints files : List (List String × String)}

theorem records_leaf (name : String) : Records [] [] (leaf name) where
  isSome_get?_iff path := by simp [get?_leaf]
  endpoints_eq path := (nodeAt_leaf path name).1
  files_eq path := (nodeAt_leaf path name).2
  count_eq path := by
    induction path generalizing name with
    | nil => simp [nodeAt, leaf, count, countChildren, pairsBelow]
    | cons part rest ih => exact ih part
  distinct := distinct_leaf name

theorem count_nodeAt_addEndpoint (path other : List String) (name : String) (tree : ModuleTree) :
    (nodeAt path (tree.addEndpoint other name)).count =
      (nodeAt path tree).count + if path <+: other ∧ name ∉ (nodeAt other tree).endpoints then 1 else 0 := by
  by_cases hbelow : path <+: other
  · obtain ⟨rest, rfl⟩ := hbelow
    rw [addEndpoint, nodeAt_update_append, nodeAt_append]
    have hcount := count_addEndpoint rest name (nodeAt path tree)
    rw [addEndpoint] at hcount
    rw [hcount]
    by_cases hmem : name ∈ (nodeAt rest (nodeAt path tree)).endpoints <;> simp [hmem]
  · rw [addEndpoint, nodeAt_update_of_not_prefix (isOwn_endpoints name) hbelow]
    simp [hbelow]

theorem count_nodeAt_addFile (path other : List String) (file : String) (tree : ModuleTree) :
    (nodeAt path (tree.addFile other file)).count = (nodeAt path tree).count := by
  by_cases hbelow : path <+: other
  · obtain ⟨rest, rfl⟩ := hbelow
    rw [addFile, nodeAt_update_append]
    exact count_addFile rest file _
  · rw [addFile, nodeAt_update_of_not_prefix (isOwn_files file) hbelow]

theorem Records.addEndpoint (h : Records endpoints files tree) (path : List String) (name : String) :
    Records (endpoints ++ [(path, name)]) files (tree.addEndpoint path name) where
  isSome_get?_iff other := by
    rw [ModuleTree.addEndpoint, isSome_get?_update (isOwn_endpoints name), h.isSome_get?_iff]
    simp only [List.mem_append, List.mem_singleton, or_and_right, exists_or, exists_eq_left]
    rw [or_assoc, or_assoc, or_assoc, or_comm (b := other <+: path)]
  endpoints_eq other := by rw [endpoints_addEndpoint, namesAt_concat, h.endpoints_eq]
  files_eq other := by rw [files_addEndpoint, h.files_eq]
  count_eq other := by
    rw [count_nodeAt_addEndpoint, length_pairsBelow_concat, h.count_eq, h.endpoints_eq]
    simp only [mem_namesAt]
  distinct := h.distinct.addEndpoint path name

theorem Records.addFile (h : Records endpoints files tree) (path : List String) (file : String) :
    Records endpoints (files ++ [(path, file)]) (tree.addFile path file) where
  isSome_get?_iff other := by
    rw [ModuleTree.addFile, isSome_get?_update (isOwn_files file), h.isSome_get?_iff]
    simp only [List.mem_append, List.mem_singleton, or_and_right, exists_or, exists_eq_left]
    rw [or_assoc, or_assoc]
  endpoints_eq other := by rw [endpoints_addFile, h.endpoints_eq]
  files_eq other := by rw [files_addFile, namesAt_concat, h.files_eq]
  count_eq other := by rw [count_nodeAt_addFile, h.count_eq]
  distinct := h.distinct.addFile path file

theorem Records.foldl (h : Records endpoints files tree) (additions : List Addition) :
    Records (endpoints ++ additions.filterMap Addition.endpoint?) (files ++ additions.filterMap Addition.file?)
      (additions.foldl (fun tree addition => addition.apply tree) tree) := by
  induction additions generalizing endpoints files tree with
  | nil =>
    rw [List.filterMap_nil, List.filterMap_nil, List.append_nil, List.append_nil]
    exact h
  | cons addition rest ih =>
    cases addition with
    | endpoint path name =>
      have hrest := ih (h.addEndpoint path name)
      rw [List.append_assoc] at hrest
      exact hrest
    | file path name =>
      have hrest := ih (h.addFile path name)
      rw [List.append_assoc files] at hrest
      exact hrest

theorem records_build (name : String) (additions : List Addition) :
    Records (additions.filterMap Addition.endpoint?) (additions.filterMap Addition.file?) (build name additions) :=
  (records_leaf name).foldl additions

theorem exists_path_iff {additions : List Addition} {p : List String → Prop} :
    (∃ addition ∈ additions, p addition.path) ↔
      (∃ pair ∈ additions.filterMap Addition.endpoint?, p pair.1) ∨
        ∃ pair ∈ additions.filterMap Addition.file?, p pair.1 := by
  induction additions with
  | nil => simp
  | cons addition rest ih =>
    cases addition with
    | endpoint path name =>
      simp only [List.filterMap_cons, Addition.endpoint?, Addition.file?, List.exists_mem_cons_iff, ih, or_assoc]
      rfl
    | file path name =>
      simp only [List.filterMap_cons, Addition.endpoint?, Addition.file?, List.exists_mem_cons_iff, ih]
      exact or_left_comm

/-- A tree answers every question about it from the history of what was added. -/
theorem build_refines_additions (name : String) (additions : List Addition) :
    let tree := build name additions
    let endpoints := additions.filterMap Addition.endpoint?
    let files := additions.filterMap Addition.file?
    (∀ path, (get? path tree).isSome ↔ path = [] ∨ ∃ addition ∈ additions, path <+: addition.path) ∧
      (∀ path node, get? path tree = some node →
        node.endpoints = namesAt path endpoints ∧ node.files = namesAt path files ∧
          node.count = (pairsBelow path endpoints).length) ∧
      ((walk [] tree).map Prod.fst).Pairwise (· < ·) ∧
      ∀ path node, (path, node) ∈ walk [] tree ↔ get? path tree = some node := by
  intro tree endpoints files
  have hrecords : Records endpoints files tree := records_build name additions
  refine ⟨fun path => ?_, fun path node hget => ?_, hrecords.distinct.pairwise_walk [], fun path node => ?_⟩
  · rw [hrecords.isSome_get?_iff, exists_path_iff]
  · rw [← nodeAt_of_get? hget]
    exact ⟨hrecords.endpoints_eq path, hrecords.files_eq path, hrecords.count_eq path⟩
  · rw [hrecords.distinct.mem_walk []]
    constructor
    · rintro ⟨rest, rfl, hget⟩
      exact hget
    · intro hget
      exact ⟨path, rfl, hget⟩

theorem build_of_cat_endpoints :
    let additions : List Addition := [.endpoint ["cat", "ml"] "jobs", .endpoint ["cat"] "nodes", .endpoint [] "search",
      .file ["cat"] "test_nodes.py", .endpoint ["cat"] "health", .endpoint ["cat"] "nodes"]
    ∃ node, get? ["cat"] (build "api" additions) = some node ∧ (["cat"], node) ∈ walk [] (build "api" additions) ∧
      node.endpoints = ["nodes", "health"] ∧ node.files = ["test_nodes.py"] ∧ node.count = 3 := by
  intro additions
  obtain ⟨hpresent, hnode, -, hwalk⟩ := build_refines_additions "api" additions
  have hsome : (get? ["cat"] (build "api" additions)).isSome := by
    rw [hpresent]
    exact .inr ⟨.endpoint ["cat"] "nodes", by simp [additions], List.prefix_rfl⟩
  obtain ⟨node, hget⟩ := Option.isSome_iff_exists.mp hsome
  obtain ⟨hendpoints, hfiles, hcount⟩ := hnode ["cat"] node hget
  refine ⟨node, hget, (hwalk _ _).mpr hget, hendpoints.trans ?_, hfiles.trans ?_, hcount.trans ?_⟩ <;> decide +kernel

end ModuleTree

end ClientForge
