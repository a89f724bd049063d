import ClientForge.Proofs.Disk.Steps

namespace ClientForge.Disk

/-- What is at `p` is as it was, unless it is new: a directory or an empty file, in a place for such. -/
def GainsAt (directories files : Path → Prop) (disk next : Disk) (p : Path) : Prop :=
  next.at? p = disk.at? p ∨ disk.at? p = none ∧
    (next.at? p = some .directory ∧ directories p ∨ next.at? p = some (.file []) ∧ files p)

def Gains (directories files : Path → Prop) (disk next : Disk) : Prop :=
  ∀ p, GainsAt directories files disk next p

variable {disk next last : Disk} {path : Path} {directories files : Path → Prop}

theorem gains_refl (disk : Disk) : Gains directories files disk disk :=
  fun _ => Or.inl rfl

theorem Gains.trans (h : Gains directories files disk next) (h' : Gains directories files next last) :
    Gains directories files disk last := by
  intro p
  rcases h' p with hsame | ⟨hnone, hnew⟩
  · rw [GainsAt, hsame]
    exact h p
  · rcases h p with hsame | ⟨-, ⟨hmade, -⟩ | ⟨hmade, -⟩⟩
    · rw [GainsAt, ← hsame]
      exact .inr ⟨hnone, hnew⟩
    · cases hmade.symm.trans hnone
    · cases hmade.symm.trans hnone

theorem Gains.mono {directories' files' : Path → Prop} (h : Gains directories files disk next)
    (hdirectories : ∀ p, directories p → directories' p) (hfiles : ∀ p, files p → files' p) :
    Gains directories' files' disk next :=
  fun p => Or.imp_right (fun hnew => ⟨hnew.1, hnew.2.imp (And.imp_right (hdirectories p)) (And.imp_right (hfiles p))⟩) (h p)

theorem Gains.grows (h : Gains directories files disk next) : Grows disk next := by
  intro p node hnode
  rcases h p with hsame | ⟨hnone, -⟩
  · rw [hsame, hnode]
  · cases hnode.symm.trans hnone

theorem gains_put {q : Path} {node : Node} (hnone : disk.at? q = none)
    (hnew : node = .directory ∧ directories q ∨ node = .file [] ∧ files q) :
    Gains directories files disk (disk.put q node) := by
  have hdirectory : disk.at? q ≠ some .directory := by simp [hnone]
  intro p
  rw [GainsAt, at?_put _ _ (isBase_eq_false hdirectory)]
  split
  · next hp =>
    subst hp
    exact .inr ⟨hnone, by simpa using hnew⟩
  · exact .inl rfl

theorem isDirectory_iff : disk.isDirectory path = true ↔ disk.find? path = some .directory :=
  beq_iff_eq

theorem present_iff : disk.present path = true ↔ ∃ node, disk.find? path = some node :=
  Option.isSome_iff_exists

theorem Grows.isDirectory (h : Grows disk next) (hdirectory : disk.isDirectory path = true) :
    next.isDirectory path = true :=
  isDirectory_iff.mpr (h.find? (isDirectory_iff.mp hdirectory))

theorem Grows.present (h : Grows disk next) (hpresent : disk.present path = true) : next.present path = true := by
  obtain ⟨node, hnode⟩ := present_iff.mp hpresent
  exact present_iff.mpr ⟨node, h.find? hnode⟩

theorem KeepsDirectories.isDirectory (h : KeepsDirectories disk next) (hdirectory : disk.isDirectory path = true) :
    next.isDirectory path = true := by
  rw [isDirectory_iff, find?_eq_some] at hdirectory ⊢
  exact ⟨resolve_mono h hdirectory.1, h _ hdirectory.2⟩

theorem find?_put {q : Path} {node : Node} (h : disk.resolve path = .ok q) (hnone : disk.at? q = none) :
    (disk.put q node).find? path = some node := by
  obtain rfl := resolve_eq_ok h
  have hdirectory : disk.at? (place path) ≠ some .directory := by simp [hnone]
  rw [find?_eq_some, at?_put_self _ _ (isBase_eq_false hdirectory)]
  exact ⟨resolve_mono (fun p => grows_put hnone node p _) h, rfl⟩

theorem createDirectory_ok (h : (createDirectory path).run disk = (.ok (), next)) :
    disk.resolve path = .ok (place path) ∧ disk.at? (place path) = none ∧ next = disk.put (place path) .directory := by
  obtain ⟨q, hq, hrest⟩ := bind_eq_ok.mp (ofExcept_ok h)
  obtain ⟨rfl, hresolve⟩ := placeOf_eq_ok hq
  split at hrest
  · cases hrest
  · next hnone =>
    cases hrest
    exact ⟨hresolve, by simpa using hnone, rfl⟩

theorem run_createDirectory_of_present (h : disk.present path = true) :
    (createDirectory path).run disk = (.error ⟨.exists, path, none⟩, disk) := by
  obtain ⟨node, hnode⟩ := present_iff.mp h
  obtain ⟨hresolve, hat⟩ := find?_eq_some.mp hnode
  rw [createDirectory, run_ofExcept, placeOf, hresolve]
  simp [Except.mapError, bind, Except.bind, hat, throw, throwThe, MonadExceptOf.throw]

theorem run_unlessDirectory (h : disk.isDirectory path = true) (fault : Fault) :
    (do unless (← get).isDirectory path do throw fault : Step Unit).run disk = (.ok (), disk) := by
  rw [run_bind_ok (run_get disk), h]
  rfl

theorem unlessDirectory_ok {fault : Fault}
    (h : (do unless (← get).isDirectory path do throw fault : Step Unit).run disk = (.ok (), next)) :
    disk.isDirectory path = true ∧ next = disk := by
  rw [run_bind_ok (run_get disk)] at h
  cases hdirectory : disk.isDirectory path with
  | true =>
    rw [hdirectory] at h
    cases h
    exact ⟨rfl, rfl⟩
  | false =>
    rw [hdirectory] at h
    cases h

theorem run_ensureDirectory (h : disk.isDirectory path = true) : (ensureDirectory path).run disk = (.ok (), disk) := by
  have hpresent := present_iff.mpr ⟨_, isDirectory_iff.mp h⟩
  rw [ensureDirectory, run_tryCatch, run_createDirectory_of_present hpresent]
  exact run_unlessDirectory h _

theorem run_ensureTree (h : disk.isDirectory path = true) : (ensureTree path).run disk = (.ok (), disk) := by
  have hpresent := present_iff.mpr ⟨_, isDirectory_iff.mp h⟩
  rw [ensureTree]
  cases path.length with
  | zero => exact run_ensureDirectory h
  | succ depth =>
    rw [ensureDirectories, run_tryCatch, run_createDirectory_of_present hpresent]
    dsimp only
    rw [if_neg (by decide)]
    exact run_unlessDirectory h _

theorem at?_of_isDirectory {front : Path} (h : disk.isDirectory path = true) (hfront : front <+: path) :
    disk.at? (place front) = some .directory := by
  obtain ⟨hresolve, hat⟩ := find?_eq_some.mp (isDirectory_iff.mp h)
  obtain ⟨rest, rfl⟩ := hfront
  cases rest with
  | nil => rwa [List.append_nil] at hat
  | cons part rest =>
    rw [resolve, resolveFrom_append, bind_eq_ok] at hresolve
    obtain ⟨q, hq, hrest⟩ := hresolve
    obtain rfl := resolve_eq_ok hq
    rw [resolveFrom] at hrest
    split at hrest
    · cases hrest
    · cases hrest
    · assumption

theorem createDirectory_gains (h : (createDirectory path).run disk = (.ok (), next)) (hplace : directories (place path)) :
    next.isDirectory path = true ∧ Gains directories files disk next := by
  obtain ⟨hresolve, hnone, rfl⟩ := createDirectory_ok h
  exact ⟨isDirectory_iff.mpr (find?_put hresolve hnone), gains_put hnone (.inl ⟨rfl, hplace⟩)⟩

theorem ensureDirectory_ok (h : (ensureDirectory path).run disk = (.ok (), next)) (hplace : directories (place path)) :
    next.isDirectory path = true ∧ Gains directories files disk next := by
  rw [ensureDirectory, run_tryCatch] at h
  rcases hcreate : (createDirectory path).run disk with ⟨fault | _, made⟩
  · rw [hcreate] at h
    obtain ⟨hdirectory, rfl⟩ := unlessDirectory_ok h
    obtain ⟨-, rfl⟩ := ofExcept_error hcreate
    exact ⟨hdirectory, gains_refl _⟩
  · rw [hcreate] at h
    cases h
    exact createDirectory_gains hcreate hplace

theorem prefix_of_parent (path : Path) : path.parent <+: path := by
  rw [Path.parent]
  split
  · exact List.prefix_rfl
  · exact List.dropLast_prefix path

theorem ensureDirectories_ok {depth : ℕ} (h : (ensureDirectories depth path).run disk = (.ok (), next))
    (hplaces : ∀ front, front <+: path → directories (place front)) :
    next.isDirectory path = true ∧ Gains directories files disk next := by
  have hplace := hplaces path List.prefix_rfl
  induction depth generalizing path next with
  | zero => exact ensureDirectory_ok h hplace
  | succ depth ih =>
    rw [ensureDirectories, run_tryCatch] at h
    rcases hcreate : (createDirectory path).run disk with ⟨fault | _, made⟩
    · rw [hcreate] at h
      obtain ⟨-, rfl⟩ := ofExcept_error hcreate
      dsimp only at h
      split at h
      · obtain ⟨_, above, habove, hrest⟩ := run_bind_eq_ok.mp h
        have hfront (front : Path) (hfront : front <+: path.parent) : directories (place front) :=
          hplaces front (hfront.trans (prefix_of_parent path))
        obtain ⟨hdirectory, hgains⟩ := ensureDirectory_ok hrest hplace
        exact ⟨hdirectory, (ih habove hfront (hfront _ List.prefix_rfl)).2.trans hgains⟩
      · obtain ⟨hdirectory, rfl⟩ := unlessDirectory_ok h
        exact ⟨hdirectory, gains_refl _⟩
    · rw [hcreate] at h
      cases h
      exact createDirectory_gains hcreate hplace

theorem ensureTree_ok (h : (ensureTree path).run disk = (.ok (), next)) :
    next.isDirectory path = true ∧ Gains (fun p => ∃ front, front <+: path ∧ p = place front) files disk next :=
  ensureDirectories_ok h fun front hfront => ⟨front, hfront, rfl⟩

theorem touch_ok (h : (touch path).run disk = (.ok (), next)) (hplace : files (place path)) :
    next.present path = true ∧ Gains directories files disk next := by
  obtain ⟨q, hq, hrest⟩ := bind_eq_ok.mp (ofExcept_ok h)
  obtain ⟨rfl, hresolve⟩ := placeOf_eq_ok hq
  cases hrest
  split
  · next hsome =>
    obtain ⟨node, hnode⟩ := Option.isSome_iff_exists.mp hsome
    exact ⟨present_iff.mpr ⟨node, find?_eq_some.mpr ⟨hresolve, hnode⟩⟩, gains_refl _⟩
  · next hnone =>
    have hnone : disk.at? (place path) = none := by simpa using hnone
    exact ⟨present_iff.mpr ⟨_, find?_put hresolve hnone⟩, gains_put hnone (.inr ⟨rfl, hplace⟩)⟩

theorem run_write (h : Writable disk path) (bytes : List UInt8) :
    (write path bytes).run disk = (.ok (), disk.put (place path) (.file bytes)) := by
  rcases hrun : (write path bytes).run disk with ⟨fault | _, next⟩
  · exact absurd h (write_error hrun).1
  · obtain ⟨-, rfl⟩ := write_ok hrun
    rfl

end ClientForge.Disk
