import ClientForge.Proofs.Disk.Place
import ClientForge.Proofs.Except
import ClientForge.Proofs.Run

namespace ClientForge.Disk

variable {disk next : Disk} {path : Path}

theorem run_ofExcept (change : Disk → Except Fault Disk) (disk : Disk) :
    (Step.ofExcept change).run disk =
      match change disk with
      | .ok next => (.ok (), next)
      | .error fault => (.error fault, disk) := by
  rw [Step.ofExcept, run_bind_ok (run_get disk)]
  cases change disk <;> rfl

theorem ofExcept_ok {change : Disk → Except Fault Disk}
    (h : (Step.ofExcept change).run disk = (.ok (), next)) : change disk = .ok next := by
  rw [run_ofExcept] at h
  split at h
  · next hchange =>
    cases h
    exact hchange
  · cases h

theorem ofExcept_error {change : Disk → Except Fault Disk} {fault : Fault}
    (h : (Step.ofExcept change).run disk = (.error fault, next)) :
    change disk = .error fault ∧ next = disk := by
  rw [run_ofExcept] at h
  split at h
  · cases h
  · next hchange =>
    cases h
    exact ⟨hchange, rfl⟩

theorem placeOf_eq_ok {q : Path} (h : disk.placeOf path = .ok q) :
    q = place path ∧ disk.resolve path = .ok (place path) := by
  rw [placeOf, mapError_eq_ok] at h
  have hplace := resolve_eq_ok h
  subst hplace
  exact ⟨rfl, h⟩

def Writable (disk : Disk) (path : Path) : Prop :=
  disk.resolve path = .ok (place path) ∧ disk.at? (place path) ≠ some .directory

theorem SameDirectories.writable_iff {other : Disk} (h : SameDirectories disk other) :
    Writable disk path ↔ Writable other path := by
  rw [Writable, Writable, h.resolve_iff, Ne, Ne, h (place path)]

theorem write_ok {bytes : List UInt8} (h : (write path bytes).run disk = (.ok (), next)) :
    Writable disk path ∧ next = disk.put (place path) (.file bytes) := by
  have hchange := ofExcept_ok h
  obtain ⟨q, hq, hrest⟩ := bind_eq_ok.mp hchange
  obtain ⟨rfl, hresolve⟩ := placeOf_eq_ok hq
  split at hrest
  · cases hrest
  · next hdirectory =>
    cases hrest
    exact ⟨⟨hresolve, hdirectory⟩, rfl⟩

theorem write_error {bytes : List UInt8} {fault : Fault}
    (h : (write path bytes).run disk = (.error fault, next)) : ¬Writable disk path ∧ next = disk := by
  obtain ⟨hchange, rfl⟩ := ofExcept_error h
  refine ⟨?_, rfl⟩
  rintro ⟨hresolve, hdirectory⟩
  rw [placeOf, hresolve] at hchange
  change (if _ then _ else _) = _ at hchange
  rw [if_neg hdirectory] at hchange
  cases hchange

theorem move_ok {source target : Path} (h : (move source target).run disk = (.ok (), next)) :
    ∃ node, disk.find? source = some node ∧ Writable disk target ∧ target.getLast? ≠ some ".." ∧
      next = (disk.remove (place source)).put (place target) node := by
  have hchange := ofExcept_ok h
  obtain ⟨origin, horigin, hrest⟩ := bind_eq_ok.mp hchange
  obtain ⟨q, hq, hrest⟩ := bind_eq_ok.mp hrest
  rw [mapError_eq_ok] at horigin hq
  obtain rfl := resolve_eq_ok horigin
  obtain rfl := resolve_eq_ok hq
  split at hrest
  · cases hrest
  · next node hnode =>
    by_cases hbusy : target.getLast? = some ".."
    · rw [if_pos hbusy] at hrest
      cases hrest
    · rw [if_neg hbusy] at hrest
      by_cases hdirectory : disk.at? (place target) = some .directory
      · rw [if_pos hdirectory] at hrest
        cases hrest
      · rw [if_neg hdirectory] at hrest
        cases hrest
        exact ⟨node, find?_eq_some.mpr ⟨horigin, hnode⟩, ⟨hq, hdirectory⟩, hbusy, rfl⟩

theorem moved {source target : Path} {node : Node} (h : (move source target).run disk = (.ok (), next))
    (hsource : disk.find? source = some node) (hfile : node ≠ .directory) :
    SameDirectories disk next ∧
      ∀ p, next.at? p =
        if p = place target then some node else if p = place source then none else disk.at? p := by
  obtain ⟨found, hfound, htarget, -, rfl⟩ := move_ok h
  obtain rfl : node = found := Option.some.inj (hsource.symm.trans hfound)
  have horigin : disk.at? (place source) ≠ some .directory := by
    rw [(find?_eq_some.mp hsource).2]
    simpa using hfile
  have hremove := sameDirectories_remove horigin
  have hput : (disk.remove (place source)).at? (place target) ≠ some .directory :=
    fun hdirectory => htarget.2 ((hremove _).mpr hdirectory)
  refine ⟨hremove.trans (sameDirectories_put hput hfile), ?_⟩
  intro p
  rw [at?_put _ _ (isBase_eq_false hput), at?_remove _ (isBase_eq_false horigin)]

theorem run_move {source target : Path} {node : Node} (hsource : disk.find? source = some node)
    (htarget : Writable disk target) (hlast : target.getLast? ≠ some "..") :
    (move source target).run disk =
      (.ok (), (disk.remove (place source)).put (place target) node) := by
  obtain ⟨horigin, hnode⟩ := find?_eq_some.mp hsource
  rw [move, run_ofExcept, horigin, htarget.1]
  simp [Except.mapError, bind, Except.bind, hnode, hlast, htarget.2, pure, Except.pure]

theorem move_error {source target : Path} {fault : Fault}
    (h : (move source target).run disk = (.error fault, next)) : next = disk :=
  (ofExcept_error h).2

theorem run_unlink (h : Writable disk path) :
    (unlink path).run disk = (.ok (), disk.remove (place path)) := by
  rw [unlink, run_ofExcept, h.1]
  simp [h.2]

theorem unlink_of_not_writable (h : ¬Writable disk path) : ((unlink path).run disk).2 = disk := by
  rw [unlink, run_ofExcept]
  cases hresolve : disk.resolve path with
  | error kind => cases kind <;> rfl
  | ok q =>
    obtain rfl := resolve_eq_ok hresolve
    have hdirectory : disk.at? (place path) = some .directory := by
      by_contra hne
      exact h ⟨hresolve, hne⟩
    simp [hdirectory]

theorem leads_ofExcept {r : Disk → Disk → Prop} (hrefl : ∀ disk, r disk disk)
    {change : Disk → Except Fault Disk} (h : ∀ disk next, change disk = .ok next → r disk next) :
    Leads r (Step.ofExcept change) := by
  intro disk
  rw [run_ofExcept]
  cases hchange : change disk with
  | ok next => exact h disk next hchange
  | error fault => exact hrefl disk

structure Extends (r : Disk → Disk → Prop) : Prop where
  refl : ∀ disk, r disk disk
  trans : ∀ disk other third, r disk other → r other third → r disk third
  directory : ∀ disk p, disk.at? p = none → r disk (disk.put p .directory)

section Extends

variable {r : Disk → Disk → Prop}

theorem extends_grows : Extends Grows :=
  ⟨grows_refl, grows_trans, fun _ _ h => grows_put h .directory⟩

theorem leads_touch (hrefl : ∀ disk, r disk disk)
    (hput : ∀ disk, disk.at? (place path) = none → r disk (disk.put (place path) (.file []))) :
    Leads r (touch path) := by
  apply leads_ofExcept hrefl
  intro disk next h
  obtain ⟨q, hq, hrest⟩ := bind_eq_ok.mp h
  obtain ⟨rfl, -⟩ := placeOf_eq_ok hq
  cases hrest
  split
  · exact hrefl disk
  · next hnone => exact hput disk (by simpa using hnone)

theorem touch_grows (path : Path) : Leads Grows (touch path) :=
  leads_touch grows_refl fun _ h => grows_put h _

theorem leads_createDirectory (h : Extends r) (path : Path) : Leads r (createDirectory path) := by
  apply leads_ofExcept h.refl
  intro disk next hchange
  obtain ⟨q, -, hrest⟩ := bind_eq_ok.mp hchange
  split at hrest
  · cases hrest
  · next hnone =>
    cases hrest
    exact h.directory disk q (by simpa using hnone)

theorem leads_unlessDirectory (hrefl : ∀ disk, r disk disk) (path : Path) (fault : Fault) :
    Leads r (do unless (← get).isDirectory path do throw fault : Step Unit) := by
  intro disk
  rw [run_bind_ok (run_get disk)]
  cases disk.isDirectory path <;> exact hrefl disk

theorem leads_ensureDirectory (h : Extends r) (path : Path) : Leads r (ensureDirectory path) :=
  leads_tryCatch h.trans (leads_createDirectory h path) (leads_unlessDirectory h.refl path)

theorem leads_ensureDirectories (h : Extends r) (depth : ℕ) (path : Path) :
    Leads r (ensureDirectories depth path) := by
  induction depth generalizing path with
  | zero => exact leads_ensureDirectory h path
  | succ depth ih =>
    apply leads_tryCatch h.trans (leads_createDirectory h path)
    intro fault
    split
    · exact leads_bind h.trans (ih path.parent) fun _ => leads_ensureDirectory h path
    · exact leads_unlessDirectory h.refl path fault

theorem leads_ensureTree (h : Extends r) (path : Path) : Leads r (ensureTree path) :=
  leads_ensureDirectories h path.length path

end Extends

end ClientForge.Disk
