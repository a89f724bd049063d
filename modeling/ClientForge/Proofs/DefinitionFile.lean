import ClientForge.DefinitionFile
import ClientForge.Proofs.Disk.Steps
import ClientForge.Proofs.Output.DryRun

namespace ClientForge

open Disk (Path place KeepsDirectories SameDirectories Extends)

namespace DefinitionFile

def IsNamed (path : Path) : Prop :=
  ∃ name, path.getLast? = some name ∧ isDefinitionName name = true

instance (path : Path) : Decidable (IsNamed path) :=
  decidable_of_iff (path.getLast?.any isDefinitionName = true) (by rw [Option.any_eq_true, IsNamed])

theorem not_named_of_ending (stem : String) {ending : String} (hne : ending ≠ "")
    (h : ending.toList.getLast? ≠ some 'n') : isDefinitionName (stem ++ ending) = false := by
  have hextension : (stem ++ ending).endsWith extension = false := by
    rw [String.endsWith, String.Slice.endsWith_string_eq_false_iff, String.copy_toSlice, String.toList_append]
    rintro ⟨front, heq⟩
    apply h
    calc
      ending.toList.getLast? = (stem.toList ++ ending.toList).getLast? :=
        (List.getLast?_append_of_ne_nil _ (by simpa using hne)).symm
      _ = (front ++ extension.toList).getLast? := congrArg List.getLast? heq.symm
      _ = some 'n' := by simp [extension]
  rw [isDefinitionName, hextension, Bool.false_and]

def named (disk : Disk) : List (Path × Node) :=
  disk.nodes.filter fun entry => IsNamed entry.1

variable {disk other third : Disk} {path p q : Path}

theorem named_put_of_not (disk : Disk) (h : ¬IsNamed q) (node : Node) : named (disk.put q node) = named disk := by
  rw [named, Disk.put, List.filter_cons_of_neg (by simpa using h), List.filter_filter]
  apply List.filter_congr
  intro entry _
  by_cases hentry : IsNamed entry.1
  · have hne : entry.1 ≠ q := by
      rintro rfl
      exact h hentry
    simp [hentry, hne]
  · simp [hentry]

theorem named_remove_of_not (disk : Disk) (h : ¬IsNamed q) : named (disk.remove q) = named disk := by
  have hput := named_put_of_not disk h .directory
  rwa [named, Disk.put, List.filter_cons_of_neg (by simpa using h)] at hput

/-- The definition files of the first disk are those of the second, where new directories at most are called
like one. -/
def Keeps (disk other : Disk) : Prop :=
  ∃ made : List Path, named other = made.map (·, .directory) ++ named disk ∧ ∀ p ∈ made, disk.at? p = none

theorem at?_of_named (disk : Disk) (h : IsNamed p) :
    disk.at? p = if Disk.isBase p then some .directory else (named disk).lookup p := by
  have hlookup := Disk.lookup_filter disk.nodes (fun p => IsNamed p) p
  rw [if_pos (by simpa using h)] at hlookup
  rw [Disk.at?, named, hlookup]

theorem lookup_made (made : List Path) (p : Path) :
    (made.map fun p => (p, Node.directory)).lookup p = if p ∈ made then some .directory else none := by
  induction made with
  | nil => rfl
  | cons q rest ih =>
    rw [List.map_cons, List.lookup_cons, ih]
    by_cases hp : p = q
    · simp [hp]
    · simp [beq_eq_false_iff_ne.mpr hp, hp]

theorem Keeps.at? (h : Keeps disk other) (hp : IsNamed p) {node : Node} (hnode : disk.at? p = some node) :
    other.at? p = some node := by
  obtain ⟨made, hnamed, hmade⟩ := h
  rw [at?_of_named _ hp] at hnode ⊢
  split at hnode
  · next hbase => rwa [if_pos hbase]
  · next hbase =>
    have hnot : p ∉ made := by
      intro hmem
      have hnone := hmade p hmem
      rw [at?_of_named _ hp, if_neg hbase, hnode] at hnone
      cases hnone
    rw [if_neg hbase, hnamed, List.lookup_append, lookup_made, if_neg hnot, hnode]
    rfl

theorem keeps_refl (disk : Disk) : Keeps disk disk :=
  ⟨[], rfl, nofun⟩

theorem keeps_of_named_eq (h : named other = named disk) : Keeps disk other :=
  ⟨[], h, nofun⟩

theorem isNamed_of_mem_named {entry : Path × Node} (h : entry ∈ named disk) : IsNamed entry.1 := by
  simpa using (List.mem_filter.mp h).2

theorem at?_of_mem_named {entry : Path × Node} (h : entry ∈ named disk) : ∃ node, disk.at? entry.1 = some node := by
  rw [at?_of_named _ (isNamed_of_mem_named h)]
  split
  · exact ⟨_, rfl⟩
  · apply Option.isSome_iff_exists.mp
    rw [List.lookup_isSome_iff]
    exact ⟨entry, h, beq_self_eq_true _⟩

theorem keeps_trans (disk other third : Disk) (h : Keeps disk other) (h' : Keeps other third) : Keeps disk third := by
  obtain ⟨made, hnamed, hmade⟩ := id h
  obtain ⟨more, hmore, hnone⟩ := h'
  refine ⟨more ++ made, by rw [hmore, hnamed, List.map_append, List.append_assoc], ?_⟩
  rw [List.forall_mem_append]
  refine ⟨?_, hmade⟩
  intro p hp
  have hmem : (p, Node.directory) ∈ named third := by
    rw [hmore]
    exact List.mem_append_left _ (List.mem_map_of_mem hp)
  by_contra hsome
  obtain ⟨node, hnode⟩ := Option.ne_none_iff_exists'.mp hsome
  have hkept := hnone p hp
  rw [h.at? (isNamed_of_mem_named hmem) hnode] at hkept
  cases hkept

theorem extends_keeps : Extends Keeps := by
  refine ⟨keeps_refl, keeps_trans, ?_⟩
  intro disk p hnone
  by_cases hp : IsNamed p
  · refine ⟨[p], ?_, by simpa using hnone⟩
    have hothers : disk.nodes.filter (·.1 ≠ p) = disk.nodes := by
      rw [List.filter_eq_self]
      intro entry hentry
      rw [decide_eq_true_iff]
      rintro rfl
      rw [Disk.at?] at hnone
      split at hnone
      · cases hnone
      · simpa using List.lookup_eq_none_iff.mp hnone entry hentry
    rw [named, Disk.put, hothers, List.filter_cons_of_pos (by simpa using hp)]
    rfl
  · exact keeps_of_named_eq (named_put_of_not disk hp .directory)

theorem leads_write (h : ¬IsNamed (place path)) (bytes : List UInt8) : Leads Keeps (Disk.write path bytes) := by
  intro disk
  rcases hrun : (Disk.write path bytes).run disk with ⟨fault | _, next⟩
  · obtain ⟨-, rfl⟩ := Disk.write_error hrun
    exact keeps_refl _
  · obtain ⟨-, rfl⟩ := Disk.write_ok hrun
    exact keeps_of_named_eq (named_put_of_not disk h _)

theorem leads_move {source target : Path} (h : ¬IsNamed (place source)) (h' : ¬IsNamed (place target)) :
    Leads Keeps (Disk.move source target) := by
  intro disk
  rcases hrun : (Disk.move source target).run disk with ⟨fault | _, next⟩
  · obtain rfl := Disk.move_error hrun
    exact keeps_refl _
  · obtain ⟨node, -, -, -, rfl⟩ := Disk.move_ok hrun
    apply keeps_of_named_eq
    rw [named_put_of_not _ h', named_remove_of_not _ h]

def namesIn (q : Path) (entry : Path × Node) : Option String :=
  if entry.1.dropLast = q ∧ entry.1 ≠ [] then entry.1.getLast? else none

theorem namesIn_eq_some {entry : Path × Node} {name : String} :
    namesIn q entry = some name ↔ entry.1 = q ++ [name] := by
  rw [namesIn]
  constructor
  · intro h
    split at h
    · next hin =>
      rw [← hin.1]
      exact (List.dropLast_append_getLast? _ h).symm
    · cases h
  · intro h
    simp [h]

theorem names_eq (h : disk.resolve path = .ok q) : disk.names path = disk.nodes.filterMap (namesIn q) := by
  rw [Disk.names, h]
  rfl

theorem filter_names_eq (h : disk.resolve path = .ok q) {keep : String → Bool}
    (hkeep : ∀ name, keep name = true → isDefinitionName name = true) :
    (disk.names path).filter keep = ((named disk).filterMap (namesIn q)).filter keep := by
  rw [names_eq h, named, List.filter_filterMap, List.filter_filterMap, List.filterMap_filter]
  apply List.filterMap_congr
  intro entry _
  split
  · rfl
  · next hnot =>
    cases hname : namesIn q entry with
    | none => rfl
    | some name =>
      have hdefinition : keep name = false := by
        rw [Bool.eq_false_iff]
        intro hkept
        apply hnot
        rw [decide_eq_true_iff]
        exact ⟨name, by rw [namesIn_eq_some.mp hname]; simp, hkeep name hkept⟩
      simp [hdefinition]

theorem find?_append (h : disk.resolve path = .ok q) (hdirectory : disk.at? q = some .directory) {name : String}
    (hname : isDefinitionName name = true) : disk.find? (path ++ [name]) = disk.at? (q ++ [name]) := by
  have hup : name ≠ ".." := by
    rintro rfl
    exact absurd hname (by decide)
  have hstep : disk.resolveFrom q [name] = .ok (q ++ [name]) := by
    simp only [Disk.resolveFrom, hdirectory, if_neg hup]
  have hresolve : disk.resolve (path ++ [name]) = .ok (q ++ [name]) := by
    rw [Disk.resolve, Disk.resolveFrom_append]
    exact bind_eq_ok.mpr ⟨q, h, hstep⟩
  rw [Disk.find?, hresolve]

def isListed (disk : Disk) (path : Path) (name : String) : Bool :=
  isDefinitionName name && disk.isFile (path ++ [name])

theorem not_listed_of_directory (h : disk.resolve path = .ok q) (hdirectory : disk.at? q = some .directory)
    {name : String} (hname : disk.at? (q ++ [name]) = some .directory) : isListed disk path name = false := by
  rw [isListed, Bool.and_eq_false_iff, or_iff_not_imp_left, Bool.not_eq_false]
  intro hdefinition
  rw [Disk.isFile, find?_append h hdirectory hdefinition, hname]

theorem isListed_congr (h : disk.resolve path = .ok q) (h' : other.resolve path = .ok q)
    (hdirectory : disk.at? q = some .directory) (hdirectory' : other.at? q = some .directory) {name : String}
    (hat : disk.at? (q ++ [name]) = other.at? (q ++ [name])) : isListed disk path name = isListed other path name := by
  rw [isListed, isListed]
  cases hdefinition : isDefinitionName name with
  | false => rfl
  | true =>
    rw [Disk.isFile, Disk.isFile, find?_append h hdirectory hdefinition, find?_append h' hdirectory' hdefinition, hat]

theorem Keeps.filter_names_eq (h : Keeps disk other) (hresolve : disk.resolve path = .ok q)
    (hother : other.resolve path = .ok q) (hat : disk.at? q = some .directory)
    (hotherAt : other.at? q = some .directory) :
    (other.names path).filter (isListed other path) = (disk.names path).filter (isListed disk path) := by
  have hlisted (disk : Disk) (name : String) (hname : isListed disk path name = true) : isDefinitionName name = true :=
    ((Bool.and_eq_true _ _).mp hname).1
  obtain ⟨made, hnamed, -⟩ := id h
  have hnew : ((made.map fun p => (p, Node.directory)).filterMap (namesIn q)).filter (isListed other path) = [] := by
    rw [List.filter_eq_nil_iff]
    intro name hname
    obtain ⟨entry, hentry, hin⟩ := List.mem_filterMap.mp hname
    obtain ⟨p, hp, rfl⟩ := List.mem_map.mp hentry
    obtain rfl : p = q ++ [name] := namesIn_eq_some.mp hin
    have hmem : (q ++ [name], Node.directory) ∈ named other := by
      rw [hnamed]
      exact List.mem_append_left _ hentry
    have hplace : other.at? (q ++ [name]) = some .directory := by
      rw [at?_of_named _ (isNamed_of_mem_named hmem), hnamed, List.lookup_append, lookup_made, if_pos hp]
      split <;> rfl
    rw [not_listed_of_directory hother hotherAt hplace]
    exact Bool.false_ne_true
  have hold : ((named disk).filterMap (namesIn q)).filter (isListed other path) =
      ((named disk).filterMap (namesIn q)).filter (isListed disk path) := by
    apply List.filter_congr
    intro name hname
    obtain ⟨entry, hentry, hin⟩ := List.mem_filterMap.mp hname
    obtain ⟨node, hnode⟩ := at?_of_mem_named hentry
    have hkept := h.at? (isNamed_of_mem_named hentry) hnode
    rw [namesIn_eq_some.mp hin] at hnode hkept
    exact isListed_congr hother hresolve hotherAt hat (hkept.trans hnode.symm)
  rw [DefinitionFile.filter_names_eq hother (hlisted other), DefinitionFile.filter_names_eq hresolve (hlisted disk),
    hnamed, List.filterMap_append, List.filter_append, hnew, hold, List.nil_append]

theorem Keeps.list_eq (h : Keeps disk other) (hdirectories : KeepsDirectories disk other) {files : List Path}
    (hlist : list disk path = .ok files) : list other path = .ok files := by
  rw [list] at hlist
  split at hlist
  · next hdirectory =>
    obtain ⟨hresolve, hat⟩ := Disk.find?_eq_some.mp (beq_iff_eq.mp hdirectory)
    have hother := Disk.resolve_mono hdirectories hresolve
    have hotherAt := hdirectories _ hat
    have hfound : other.isDirectory path = true :=
      beq_iff_eq.mpr (Disk.find?_eq_some.mpr ⟨hother, hotherAt⟩)
    have hnames := h.filter_names_eq hresolve hother hat hotherAt
    rw [list, if_pos hfound, ← hlist]
    exact congrArg (fun names => Except.ok ((Text.sorted names).map (path ++ [·]))) hnames
  · cases hlist

theorem load_congr (h : disk.resolve path = .ok q) (h' : other.resolve path = .ok q)
    (hat : disk.at? q = other.at? q) : load disk path = load other path := by
  rw [load, load, readDocument, readDocument, Disk.readText_congr h h' hat]

theorem file_of_load {definition : Definition} (h : load disk path = .ok definition) :
    ∃ bytes, disk.find? path = some (.file bytes) := by
  obtain ⟨document, hdocument, -⟩ := bind_eq_ok.mp h
  obtain ⟨text, htext, -⟩ := bind_eq_ok.mp (mapError_eq_ok.mp hdocument)
  exact Disk.file_of_readText htext

end DefinitionFile

end ClientForge
