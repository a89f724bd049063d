import ClientForge.Disk.Basic
import ClientForge.Proofs.Except
import Mathlib.Data.List.Basic

namespace ClientForge.Disk

variable {disk other third : Disk} {path : Path}

def placeFrom (here : Path) : Path → Path
  | [] => here
  | part :: rest =>
    placeFrom
      (if part = ".." then (if isBase here then here ++ [".."] else here.dropLast) else here ++ [part]) rest

def place (path : Path) : Path :=
  placeFrom [] path

theorem resolveFrom_eq_ok {here q : Path} (h : disk.resolveFrom here path = .ok q) :
    q = placeFrom here path := by
  induction path generalizing here with
  | nil =>
    cases h
    rfl
  | cons part rest ih =>
    rw [resolveFrom] at h
    split at h
    · cases h
    · cases h
    · rw [placeFrom]
      split at h
      · next hup => rw [if_pos hup, ih h]
      · next hup => rw [if_neg hup, ih h]

theorem resolve_eq_ok {q : Path} (h : disk.resolve path = .ok q) : q = place path :=
  resolveFrom_eq_ok h

theorem resolveFrom_append (here first second : Path) :
    disk.resolveFrom here (first ++ second) =
      (disk.resolveFrom here first >>= fun q => disk.resolveFrom q second) := by
  induction first generalizing here with
  | nil => rfl
  | cons part rest ih =>
    rw [List.cons_append, resolveFrom, resolveFrom]
    split
    · rfl
    · rfl
    · split
      · exact ih _
      · exact ih _

theorem resolve_of_sibling {name : String} {q : Path} (h : disk.resolve (path.sibling name) = .ok q) :
    disk.resolve path = .ok (place path) := by
  have hsome : ∃ q', disk.resolve path = .ok q' := by
    rcases List.eq_nil_or_concat path with rfl | ⟨front, last, rfl⟩
    · exact ⟨[], rfl⟩
    · rw [Path.sibling, List.concat_eq_append, List.dropLast_concat, resolve, resolveFrom_append,
        bind_eq_ok] at h
      obtain ⟨middle, hmiddle, hlast⟩ := h
      have hdirectory : disk.at? middle = some .directory := by
        rw [resolveFrom] at hlast
        split at hlast
        · cases hlast
        · cases hlast
        · assumption
      rw [List.concat_eq_append, resolve, resolveFrom_append, hmiddle]
      change ∃ q', disk.resolveFrom middle [last] = .ok q'
      rw [resolveFrom, hdirectory]
      dsimp only
      split
      · exact ⟨_, rfl⟩
      · exact ⟨_, rfl⟩
  obtain ⟨q', hq⟩ := hsome
  rw [hq, resolve_eq_ok hq]

def KeepsDirectories (disk other : Disk) : Prop :=
  ∀ p, disk.at? p = some .directory → other.at? p = some .directory

theorem resolveFrom_mono {here q : Path} (hkeeps : KeepsDirectories disk other)
    (h : disk.resolveFrom here path = .ok q) : other.resolveFrom here path = .ok q := by
  induction path generalizing here with
  | nil => exact h
  | cons part rest ih =>
    rw [resolveFrom] at h ⊢
    split at h
    · cases h
    · cases h
    · next hhere =>
      rw [hkeeps here hhere]
      dsimp only
      split at h
      · next hup =>
        rw [if_pos hup]
        exact ih h
      · next hup =>
        rw [if_neg hup]
        exact ih h

theorem resolve_mono {q : Path} (hkeeps : KeepsDirectories disk other)
    (h : disk.resolve path = .ok q) : other.resolve path = .ok q :=
  resolveFrom_mono hkeeps h

def SameDirectories (disk other : Disk) : Prop :=
  ∀ p, disk.at? p = some .directory ↔ other.at? p = some .directory

theorem SameDirectories.refl (disk : Disk) : SameDirectories disk disk :=
  fun _ => Iff.rfl

theorem SameDirectories.trans (h : SameDirectories disk other) (h' : SameDirectories other third) :
    SameDirectories disk third :=
  fun p => (h p).trans (h' p)

theorem SameDirectories.resolve_iff (h : SameDirectories disk other) {q : Path} :
    disk.resolve path = .ok q ↔ other.resolve path = .ok q :=
  ⟨resolve_mono fun p => (h p).mp, resolve_mono fun p => (h p).mpr⟩

def Grows (disk other : Disk) : Prop :=
  ∀ p node, disk.at? p = some node → other.at? p = some node

theorem grows_refl (disk : Disk) : Grows disk disk :=
  fun _ _ h => h

theorem grows_trans (disk other third : Disk) (h : Grows disk other) (h' : Grows other third) :
    Grows disk third :=
  fun p node hp => h' p node (h p node hp)

theorem find?_eq_some {node : Node} :
    disk.find? path = some node ↔ disk.resolve path = .ok (place path) ∧ disk.at? (place path) = some node := by
  rw [find?]
  constructor
  · intro h
    split at h
    · next q hq =>
      have hplace := resolve_eq_ok hq
      subst hplace
      exact ⟨hq, h⟩
    · cases h
  · rintro ⟨hq, hnode⟩
    rw [hq]
    exact hnode

theorem Grows.find? (h : Grows disk other) {node : Node} (hnode : disk.find? path = some node) :
    other.find? path = some node := by
  rw [find?_eq_some] at hnode ⊢
  exact ⟨resolve_mono (fun p => h p _) hnode.1, h _ _ hnode.2⟩

theorem SameDirectories.find?_congr (h : SameDirectories disk other)
    (hat : disk.at? (place path) = other.at? (place path)) : disk.find? path = other.find? path := by
  apply Option.ext
  intro node
  rw [find?_eq_some, find?_eq_some, h.resolve_iff, hat]

theorem lookup_filter (nodes : List (Path × Node)) (keep : Path → Bool) (p : Path) :
    (nodes.filter fun entry => keep entry.1).lookup p = if keep p then nodes.lookup p else none := by
  induction nodes with
  | nil => simp
  | cons entry rest ih =>
    obtain ⟨key, node⟩ := entry
    rw [List.filter_cons, List.lookup_cons]
    by_cases hp : p = key
    · subst hp
      cases hkeep : keep p with
      | true => rw [if_pos rfl, List.lookup_cons_self, if_pos rfl, beq_self_eq_true]
      | false => rw [if_neg Bool.false_ne_true, ih, hkeep, if_neg Bool.false_ne_true, if_neg Bool.false_ne_true]
    · rw [beq_eq_false_iff_ne.mpr hp, ← ih]
      cases keep key with
      | true => rw [if_pos rfl, List.lookup_cons, beq_eq_false_iff_ne.mpr hp]
      | false => rw [if_neg Bool.false_ne_true]

theorem lookup_filter_ne (nodes : List (Path × Node)) (p q : Path) :
    (nodes.filter (·.1 ≠ q)).lookup p = if p = q then none else nodes.lookup p := by
  rw [lookup_filter nodes fun p => p ≠ q]
  by_cases hp : p = q <;> simp [hp]

theorem at?_put (disk : Disk) {q : Path} (node : Node) (h : isBase q = false) (p : Path) :
    (disk.put q node).at? p = if p = q then some node else disk.at? p := by
  by_cases hp : p = q
  · rw [if_pos hp, hp, at?_put_self disk node h]
  · have hlookup := lookup_filter_ne disk.nodes p q
    rw [if_neg hp] at hlookup
    have hne : (p == q) = false := beq_eq_false_iff_ne.mpr hp
    rw [if_neg hp, at?, at?, put, List.lookup_cons, hne, hlookup]

theorem at?_remove (disk : Disk) {q : Path} (h : isBase q = false) (p : Path) :
    (disk.remove q).at? p = if p = q then none else disk.at? p := by
  rw [at?, at?, remove, lookup_filter_ne]
  by_cases hp : p = q
  · rw [hp, h]
    simp
  · rw [if_neg hp, if_neg hp]

theorem isBase_eq_false {q : Path} (h : disk.at? q ≠ some .directory) : isBase q = false := by
  rw [← Bool.not_eq_true]
  intro hbase
  rw [at?, if_pos hbase] at h
  exact h rfl

theorem sameDirectories_put {q : Path} (h : disk.at? q ≠ some .directory) {node : Node}
    (hnode : node ≠ .directory) : SameDirectories disk (disk.put q node) := by
  intro p
  rw [at?_put disk node (isBase_eq_false h)]
  by_cases hp : p = q
  · simp [hp, h, hnode]
  · rw [if_neg hp]

theorem sameDirectories_remove {q : Path} (h : disk.at? q ≠ some .directory) :
    SameDirectories disk (disk.remove q) := by
  intro p
  rw [at?_remove disk (isBase_eq_false h)]
  by_cases hp : p = q
  · simp [hp, h]
  · rw [if_neg hp]

theorem at?_put_eq_some {q : Path} {node new : Node} (h : disk.at? q = none) {p : Path}
    (hnode : (disk.put q new).at? p = some node) : disk.at? p = some node ∨ p = q ∧ node = new := by
  have hdirectory : disk.at? q ≠ some .directory := by simp [h]
  rw [at?_put disk new (isBase_eq_false hdirectory)] at hnode
  by_cases hp : p = q
  · rw [if_pos hp] at hnode
    exact .inr ⟨hp, (Option.some.inj hnode).symm⟩
  · rw [if_neg hp] at hnode
    exact .inl hnode

theorem grows_put {q : Path} (h : disk.at? q = none) (node : Node) : Grows disk (disk.put q node) := by
  intro p old hp
  have hdirectory : disk.at? q ≠ some .directory := by simp [h]
  rw [at?_put disk node (isBase_eq_false hdirectory), if_neg]
  · exact hp
  · rintro rfl
    rw [h] at hp
    cases hp

end ClientForge.Disk
