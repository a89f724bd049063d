import ClientForge.ModuleTree
import ClientForge.Output
import ClientForge.Proofs.Entries
import Mathlib.Data.List.Nodup

namespace ClientForge

namespace ModuleTree

variable {tree node : ModuleTree} {path other : List String} {change : ModuleTree → ModuleTree} {name file : String}

def nodeAt : List String → ModuleTree → ModuleTree
  | [], tree => tree
  | part :: rest, tree => nodeAt rest ((Entries.get? tree.children part).getD (leaf part))

theorem nodeAt_leaf (path : List String) (name : String) :
    (nodeAt path (leaf name)).endpoints = [] ∧ (nodeAt path (leaf name)).files = [] := by
  induction path generalizing name with
  | nil => exact ⟨rfl, rfl⟩
  | cons part rest ih => exact ih part

theorem nodeAt_update_self (change : ModuleTree → ModuleTree) (path : List String) (tree : ModuleTree) :
    nodeAt path (update change path tree) = change (nodeAt path tree) := by
  induction path generalizing tree with
  | nil => rfl
  | cons part rest ih =>
    rw [update, nodeAt, Entries.get?_put_self, Option.getD_some, ih, nodeAt]

def IsOwn (change : ModuleTree → ModuleTree) : Prop :=
  ∀ tree, (change tree).children = tree.children

theorem nodeAt_update_of_ne (hchange : IsOwn change) (hne : other ≠ path) (tree : ModuleTree) :
    (nodeAt other (update change path tree)).endpoints = (nodeAt other tree).endpoints ∧
      (nodeAt other (update change path tree)).files = (nodeAt other tree).files := by
  induction path generalizing other tree with
  | nil =>
    cases other with
    | nil => exact absurd rfl hne
    | cons part rest =>
      rw [update, nodeAt, hchange, nodeAt]
      exact ⟨rfl, rfl⟩
  | cons part rest ih =>
    cases other with
    | nil => exact ⟨rfl, rfl⟩
    | cons first others =>
      rw [update, nodeAt, nodeAt]
      by_cases hpart : part = first
      · subst hpart
        rw [Entries.get?_put_self, Option.getD_some]
        exact ih (fun heq => hne (congrArg _ heq)) _
      · rw [Entries.get?_put_of_ne _ _ hpart]
        exact ⟨rfl, rfl⟩

theorem countChildren_put (children : Entries ModuleTree) (part : String) (child : ModuleTree) :
    countChildren (Entries.put children part child) + ((Entries.get? children part).getD (leaf part)).count =
      countChildren children + child.count := by
  induction children with
  | nil => simp [Entries.put, Entries.get?, countChildren, leaf, count]
  | cons first rest ih =>
    obtain ⟨key, old⟩ := first
    by_cases hkey : key = part
    · simp only [Entries.put, Entries.get?, if_pos hkey, countChildren, Option.getD_some]
      omega
    · simp only [Entries.put, Entries.get?, if_neg hkey, countChildren]
      omega

theorem count_eq (tree : ModuleTree) : tree.count = tree.endpoints.length + countChildren tree.children := by
  cases tree
  rw [count]

theorem count_update (hchange : IsOwn change) (path : List String) (tree : ModuleTree) :
    (update change path tree).count + (nodeAt path tree).endpoints.length =
      tree.count + (change (nodeAt path tree)).endpoints.length := by
  induction path generalizing tree with
  | nil =>
    rw [update, nodeAt, count_eq (change tree), count_eq tree, hchange]
    omega
  | cons part rest ih =>
    have hput := countChildren_put tree.children part
      (update change rest ((Entries.get? tree.children part).getD (leaf part)))
    -- a child that is not there yet is counted as an empty one
    have hchild := ih ((Entries.get? tree.children part).getD (leaf part))
    rw [update, nodeAt, count_eq, count_eq tree]
    dsimp only
    omega

theorem mem_insertNew {names : List String} {found : String} :
    found ∈ insertNew name names ↔ found ∈ names ∨ found = name := by
  rw [insertNew]
  split
  · next hcontains =>
    refine ⟨.inl, ?_⟩
    rintro (hmem | rfl)
    · exact hmem
    · exact List.contains_iff_mem.mp hcontains
  · rw [List.mem_append, List.mem_singleton]

theorem length_insertNew (name : String) (names : List String) :
    (insertNew name names).length = names.length + if name ∈ names then 0 else 1 := by
  rw [insertNew]
  by_cases hmem : name ∈ names
  · rw [if_pos (List.contains_iff_mem.mpr hmem), if_pos hmem, Nat.add_zero]
  · rw [if_neg (mt List.contains_iff_mem.mp hmem), if_neg hmem, List.length_append, List.length_singleton]

theorem isOwn_endpoints (name : String) :
    IsOwn fun tree => { tree with endpoints := insertNew name tree.endpoints } :=
  fun _ => rfl

theorem isOwn_files (file : String) : IsOwn fun tree => { tree with files := insertNew file tree.files } :=
  fun _ => rfl

theorem count_addEndpoint (path : List String) (name : String) (tree : ModuleTree) :
    (addEndpoint path name tree).count =
      tree.count + if name ∈ (nodeAt path tree).endpoints then 0 else 1 := by
  have hcount := count_update (isOwn_endpoints name) path tree
  dsimp only at hcount
  rw [length_insertNew] at hcount
  rw [addEndpoint]
  omega

theorem count_addFile (path : List String) (file : String) (tree : ModuleTree) :
    (addFile path file tree).count = tree.count :=
  Nat.add_right_cancel (count_update (isOwn_files file) path tree)

theorem endpoints_addEndpoint (path other : List String) (name : String) (tree : ModuleTree) :
    (nodeAt other (addEndpoint path name tree)).endpoints =
      if path = other then insertNew name (nodeAt other tree).endpoints else (nodeAt other tree).endpoints := by
  rw [addEndpoint]
  by_cases hpath : path = other
  · subst hpath
    rw [nodeAt_update_self, if_pos rfl]
  · rw [(nodeAt_update_of_ne (isOwn_endpoints name) (Ne.symm hpath) tree).1, if_neg hpath]

theorem mem_endpoints_addEndpoint {path other : List String} {name found : String} {tree : ModuleTree} :
    found ∈ (nodeAt other (addEndpoint path name tree)).endpoints ↔
      found ∈ (nodeAt other tree).endpoints ∨ other = path ∧ found = name := by
  rw [endpoints_addEndpoint, eq_comm (a := other)]
  by_cases hpath : path = other
  · simp [hpath, mem_insertNew]
  · simp [hpath]

theorem endpoints_addFile (path other : List String) (file : String) (tree : ModuleTree) :
    (nodeAt other (addFile path file tree)).endpoints = (nodeAt other tree).endpoints := by
  rw [addFile]
  by_cases hpath : other = path
  · subst hpath
    rw [nodeAt_update_self]
  · exact (nodeAt_update_of_ne (isOwn_files file) hpath tree).1

theorem files_addEndpoint (path other : List String) (name : String) (tree : ModuleTree) :
    (nodeAt other (addEndpoint path name tree)).files = (nodeAt other tree).files := by
  rw [addEndpoint]
  by_cases hpath : other = path
  · subst hpath
    rw [nodeAt_update_self]
  · exact (nodeAt_update_of_ne (isOwn_endpoints name) hpath tree).2

theorem files_addFile (path other : List String) (file : String) (tree : ModuleTree) :
    (nodeAt other (addFile path file tree)).files =
      if path = other then insertNew file (nodeAt other tree).files else (nodeAt other tree).files := by
  rw [addFile]
  by_cases hpath : path = other
  · subst hpath
    rw [nodeAt_update_self, if_pos rfl]
  · rw [(nodeAt_update_of_ne (isOwn_files file) (Ne.symm hpath) tree).2, if_neg hpath]

theorem mem_files_addFile {path other : List String} {file found : String} {tree : ModuleTree} :
    found ∈ (nodeAt other (addFile path file tree)).files ↔
      found ∈ (nodeAt other tree).files ∨ other = path ∧ found = file := by
  rw [files_addFile, eq_comm (a := other)]
  by_cases hpath : path = other
  · simp [hpath, mem_insertNew]
  · simp [hpath]

inductive Distinct : ModuleTree → Prop
  | intro {name : String} {endpoints files : List String} {children : Entries ModuleTree} :
    (Entries.keys children).Nodup → (∀ child ∈ children, Distinct child.2) →
      Distinct ⟨name, endpoints, children, files⟩

theorem distinct_leaf (name : String) : Distinct (leaf name) :=
  .intro List.nodup_nil (by simp)

theorem Distinct.children (h : Distinct tree) :
    (Entries.keys tree.children).Nodup ∧ ∀ child ∈ tree.children, Distinct child.2 := by
  cases h with
  | intro hnodup hchildren => exact ⟨hnodup, hchildren⟩

theorem distinct_iff : Distinct tree ↔
    (Entries.keys tree.children).Nodup ∧ ∀ child ∈ tree.children, Distinct child.2 :=
  ⟨Distinct.children, fun h => by
    cases tree
    exact .intro h.1 h.2⟩

theorem Distinct.update (hchange : IsOwn change) (path : List String) (h : Distinct tree) :
    Distinct (update change path tree) := by
  induction path generalizing tree with
  | nil =>
    rw [distinct_iff] at h
    rw [ModuleTree.update, distinct_iff, hchange]
    exact h
  | cons part rest ih =>
    obtain ⟨hnodup, hchildren⟩ := h.children
    rw [ModuleTree.update, distinct_iff]
    refine ⟨Entries.nodup_keys_put hnodup _ _, fun child hchild => ?_⟩
    rcases Entries.mem_put hchild with hold | rfl
    · exact hchildren child hold
    · cases hget : Entries.get? tree.children part with
      | none => exact ih (distinct_leaf part)
      | some found => exact ih (hchildren _ (Entries.mem_of_get? hget))

theorem walkChildren_eq (path : List String) (children : List (String × ModuleTree)) :
    walkChildren path children = children.map fun child => (child.1, walk (path ++ [child.1]) child.2) := by
  induction children with
  | nil => rw [walkChildren, List.map_nil]
  | cons child rest ih => rw [walkChildren, ih, List.map_cons]

theorem Distinct.mem_walk (h : Distinct tree) (path : List String) :
    (other, node) ∈ walk path tree ↔ ∃ rest, other = path ++ rest ∧ get? rest tree = some node := by
  induction h generalizing path with
  | @intro name endpoints files children hnodup hchildren ih =>
    rw [walk, walkChildren_eq, List.mem_cons, List.mem_flatMap]
    constructor
    · rintro (hhere | ⟨entry, hentry, hmem⟩)
      · cases hhere
        exact ⟨[], (List.append_nil _).symm, rfl⟩
      · obtain ⟨child, hchild, rfl⟩ := List.mem_map.mp (List.mem_mergeSort.mp hentry)
        obtain ⟨rest, rfl, hget⟩ := (ih child hchild _).mp hmem
        refine ⟨child.1 :: rest, by simp, ?_⟩
        rw [get?, (Entries.get?_eq_some_iff hnodup).mpr hchild]
        exact hget
    · rintro ⟨rest, rfl, hget⟩
      cases rest with
      | nil =>
        cases hget
        exact .inl (by rw [List.append_nil])
      | cons part rest =>
        obtain ⟨child, hchild, hget⟩ := Option.bind_eq_some_iff.mp hget
        have hmem := Entries.mem_of_get? hchild
        refine .inr ⟨_, List.mem_mergeSort.mpr (List.mem_map_of_mem hmem), ?_⟩
        exact (ih _ hmem _).mpr ⟨rest, by simp, hget⟩

theorem nodeAt_of_get? (h : get? path tree = some node) : nodeAt path tree = node := by
  induction path generalizing tree with
  | nil => exact Option.some.inj h
  | cons part rest ih =>
    obtain ⟨child, hchild, hget⟩ := Option.bind_eq_some_iff.mp h
    rw [nodeAt, hchild]
    exact ih hget

theorem nodeAt_of_none (h : get? path tree = none) :
    (nodeAt path tree).endpoints = [] ∧ (nodeAt path tree).files = [] := by
  induction path generalizing tree with
  | nil => cases h
  | cons part rest ih =>
    rw [nodeAt]
    cases hchild : Entries.get? tree.children part with
    | none => exact nodeAt_leaf rest part
    | some child =>
      rw [get?, hchild] at h
      exact ih h

def slots (tree : ModuleTree) : List Slot :=
  (walk [] tree).flatMap fun (path, node) =>
    node.endpoints.map (Slot.ofEndpoint path) ++ node.files.map (Slot.mk path)

theorem Distinct.mem_slots (h : Distinct tree) {slot : Slot} :
    slot ∈ slots tree ↔
      (∃ name ∈ (nodeAt slot.directory tree).endpoints, slot = .ofEndpoint slot.directory name) ∨
        slot.file ∈ (nodeAt slot.directory tree).files := by
  rw [slots, List.mem_flatMap]
  constructor
  · rintro ⟨⟨path, node⟩, hnode, hmem⟩
    obtain ⟨rest, rfl, hget⟩ := (h.mem_walk []).mp hnode
    have hnode := nodeAt_of_get? hget
    rcases List.mem_append.mp hmem with hmem | hmem
    · obtain ⟨name, hname, rfl⟩ := List.mem_map.mp hmem
      exact .inl ⟨name, hnode ▸ hname, rfl⟩
    · obtain ⟨file, hfile, rfl⟩ := List.mem_map.mp hmem
      exact .inr (hnode ▸ hfile)
  · intro hlisted
    cases hget : get? slot.directory tree with
    | none =>
      obtain ⟨hendpoints, hfiles⟩ := nodeAt_of_none hget
      rw [hendpoints, hfiles] at hlisted
      simp at hlisted
    | some node =>
      rw [nodeAt_of_get? hget] at hlisted
      refine ⟨(slot.directory, node), (h.mem_walk []).mpr ⟨_, rfl, hget⟩, List.mem_append.mpr ?_⟩
      refine hlisted.imp ?_ fun hfile => List.mem_map.mpr ⟨slot.file, hfile, rfl⟩
      rintro ⟨name, hname, hslot⟩
      exact List.mem_map.mpr ⟨name, hname, hslot.symm⟩

theorem slots_leaf (name : String) : (leaf name).slots = [] := by
  rw [List.eq_nil_iff_forall_not_mem]
  intro slot hslot
  obtain ⟨hendpoints, hfiles⟩ := nodeAt_leaf slot.directory name
  rw [(distinct_leaf name).mem_slots, hendpoints, hfiles] at hslot
  simp at hslot

theorem Distinct.addEndpoint (path : List String) (name : String) (h : Distinct tree) :
    Distinct (tree.addEndpoint path name) :=
  h.update (isOwn_endpoints name) path

theorem Distinct.addFile (path : List String) (file : String) (h : Distinct tree) :
    Distinct (tree.addFile path file) :=
  h.update (isOwn_files file) path

theorem Distinct.mem_slots_addEndpoint (h : Distinct tree) {slot : Slot} :
    slot ∈ (tree.addEndpoint path name).slots ↔ slot ∈ tree.slots ∨ slot = .ofEndpoint path name := by
  rw [(h.addEndpoint path name).mem_slots, h.mem_slots, files_addEndpoint]
  simp only [mem_endpoints_addEndpoint, or_and_right, exists_or]
  rw [or_right_comm]
  refine or_congr_right ⟨?_, ?_⟩
  · rintro ⟨_, ⟨hpath, rfl⟩, hslot⟩
    rwa [hpath] at hslot
  · rintro rfl
    exact ⟨name, ⟨rfl, rfl⟩, rfl⟩

theorem Distinct.mem_slots_addFile (h : Distinct tree) {slot : Slot} :
    slot ∈ (tree.addFile path file).slots ↔ slot ∈ tree.slots ∨ slot = ⟨path, file⟩ := by
  rw [(h.addFile path file).mem_slots, h.mem_slots, endpoints_addFile, mem_files_addFile, or_assoc]
  cases slot
  rw [Slot.mk.injEq]

end ModuleTree

end ClientForge
