import ClientForge.Proofs.Disk.Ensure
import ClientForge.Proofs.Output.Success

namespace ClientForge

open Disk (Path place Gains)

namespace Output

variable {disk other : Disk} {root directory opened : Path} {marksPackages : Bool} {segments : List String}
  {slot : Slot} {entries : List (Slot × String)} {names : List String} {w after : Workspace}
  {directories files : Path → Prop}

def Descended (directory : Path) (marksPackages : Bool) (segments : List String) (disk : Disk) : Prop :=
  ∀ inner, inner ≠ [] → inner <+: segments → disk.isDirectory (inner.foldl Path.join directory) = true ∧
    (marksPackages = true → disk.present (Slot.target directory ⟨inner, packageMarker⟩) = true)

theorem descended_nil (directory : Path) (marksPackages : Bool) (disk : Disk) :
    Descended directory marksPackages [] disk :=
  fun _ hne hinner => absurd (List.prefix_nil.mp hinner) hne

theorem descended_cons {segment : String} : Descended directory marksPackages (segment :: segments) disk ↔
    (disk.isDirectory (directory.join segment) = true ∧
      (marksPackages = true → disk.present ((directory.join segment).join packageMarker) = true)) ∧
      Descended (directory.join segment) marksPackages segments disk := by
  constructor
  · intro h
    refine ⟨h [segment] (List.cons_ne_nil _ _) (List.prefix_append [segment] segments), ?_⟩
    intro inner _ hinner
    exact h (segment :: inner) (List.cons_ne_nil _ _) (List.cons_prefix_cons.mpr ⟨rfl, hinner⟩)
  · rintro ⟨hfirst, hrest⟩ inner hne hinner
    obtain ⟨first, others, rfl⟩ := List.exists_cons_of_ne_nil hne
    obtain ⟨rfl, hothers⟩ := List.cons_prefix_cons.mp hinner
    by_cases hnil : others = []
    · subst hnil
      exact hfirst
    · exact hrest others hnil hothers

theorem Descended.grows (h : Descended directory marksPackages segments disk) (hgrows : disk.Grows other) :
    Descended directory marksPackages segments other :=
  fun inner hne hinner => ⟨hgrows.isDirectory (h inner hne hinner).1, fun hmarks => hgrows.present ((h inner hne hinner).2 hmarks)⟩

theorem markPackage_ok (h : (markPackage directory).run disk = (.ok (), other))
    (hdirectory : disk.isDirectory directory = true) (hplace : files (place (directory.join packageMarker))) :
    other.present (directory.join packageMarker) = true ∧ Gains directories files disk other := by
  rw [markPackage, run_bind_ok (run_get disk)] at h
  cases hpresent : disk.present (directory.join packageMarker) with
  | true =>
    rw [hpresent] at h
    cases h
    exact ⟨hpresent, Disk.gains_refl _⟩
  | false =>
    rw [hpresent] at h
    exact Disk.touch_ok ((run_bind_ok (Disk.run_ensureTree hdirectory) _).symm.trans h) hplace

theorem run_markPackage (h : disk.present (directory.join packageMarker) = true) :
    (markPackage directory).run disk = (.ok (), disk) := by
  rw [markPackage, run_bind_ok (run_get disk), h]
  rfl

def openInner (marksPackages : Bool) (inner : Path) : Disk.Step Unit := do
  Disk.ensureDirectory inner
  if marksPackages then markPackage inner

theorem openInner_ok (h : (openInner marksPackages directory).run disk = (.ok (), other))
    (hplace : directories (place directory))
    (hmarker : marksPackages = true → files (place (directory.join packageMarker))) :
    (other.isDirectory directory = true ∧
      (marksPackages = true → other.present (directory.join packageMarker) = true)) ∧
      Gains directories files disk other := by
  obtain ⟨_, made, hmake, hmark⟩ := run_bind_eq_ok.mp h
  obtain ⟨hdirectory, hmade⟩ : made.isDirectory directory = true ∧ Gains directories files disk made :=
    Disk.ensureDirectory_ok hmake hplace
  cases marksPackages with
  | false =>
    cases hmark
    exact ⟨⟨hdirectory, nofun⟩, hmade⟩
  | true =>
    rw [if_pos rfl] at hmark
    obtain ⟨hpresent, hmarked⟩ := markPackage_ok hmark hdirectory (hmarker rfl)
    exact ⟨⟨hmarked.grows.isDirectory hdirectory, fun _ => hpresent⟩, hmade.trans hmarked⟩

theorem run_openInner (h : disk.isDirectory directory = true)
    (hmarks : marksPackages = true → disk.present (directory.join packageMarker) = true) :
    (openInner marksPackages directory).run disk = (.ok (), disk) := by
  rw [openInner, run_bind_ok (Disk.run_ensureDirectory h)]
  cases marksPackages with
  | false => rfl
  | true => exact run_markPackage (hmarks rfl)

theorem descend_cons (marksPackages : Bool) (directory : Path) (segment : String) (rest : List String) :
    descend marksPackages directory (segment :: rest) = (do
      Work.onDisk (outputFailure (directory.join segment)) (openInner marksPackages (directory.join segment))
      descend marksPackages (directory.join segment) rest) :=
  rfl

theorem onDisk_ok {α ε : Type} {asFailure : ε → Failure} {step : ExceptT ε (StateM Disk) α} {a : α}
    (h : (Work.onDisk asFailure step).run w = (.ok a, after)) :
    step.run w.disk = (.ok a, after.disk) ∧ after = { w with disk := after.disk } := by
  rw [Work.run_onDisk] at h
  rcases hstep : step.run w.disk with ⟨fault | b, next⟩
  · rw [hstep] at h
    cases h
  · rw [hstep] at h
    cases h
    exact ⟨rfl, rfl⟩

def OnWay (directory : Path) (segments : List String) (p : Path) : Prop :=
  ∃ inner, inner ≠ [] ∧ inner <+: segments ∧ p = place (inner.foldl Path.join directory)

def MarksWay (directory : Path) (marksPackages : Bool) (segments : List String) (p : Path) : Prop :=
  marksPackages = true ∧
    ∃ inner, inner ≠ [] ∧ inner <+: segments ∧ p = place (Slot.target directory ⟨inner, packageMarker⟩)

theorem onWay_first (directory : Path) (segment : String) (rest : List String) :
    OnWay directory (segment :: rest) (place (directory.join segment)) :=
  ⟨[segment], List.cons_ne_nil _ _, List.prefix_append [segment] rest, rfl⟩

theorem marksWay_first (hmarks : marksPackages = true) (directory : Path) (segment : String) (rest : List String) :
    MarksWay directory marksPackages (segment :: rest) (place ((directory.join segment).join packageMarker)) :=
  ⟨hmarks, [segment], List.cons_ne_nil _ _, List.prefix_append [segment] rest, rfl⟩

theorem OnWay.cons {segment : String} {rest : List String} {p : Path} (h : OnWay (directory.join segment) rest p) :
    OnWay directory (segment :: rest) p := by
  obtain ⟨inner, -, hinner, hp⟩ := h
  exact ⟨segment :: inner, List.cons_ne_nil _ _, List.cons_prefix_cons.mpr ⟨rfl, hinner⟩, hp⟩

theorem MarksWay.cons {segment : String} {rest : List String} {p : Path}
    (h : MarksWay (directory.join segment) marksPackages rest p) :
    MarksWay directory marksPackages (segment :: rest) p := by
  obtain ⟨hmarks, inner, -, hinner, hp⟩ := h
  exact ⟨hmarks, segment :: inner, List.cons_ne_nil _ _, List.cons_prefix_cons.mpr ⟨rfl, hinner⟩, hp⟩

theorem descend_ok (h : (descend marksPackages directory segments).run w = (.ok opened, after)) :
    Descended directory marksPackages segments after.disk ∧
      Gains (OnWay directory segments) (MarksWay directory marksPackages segments) w.disk after.disk := by
  induction segments generalizing directory w with
  | nil =>
    cases h
    exact ⟨descended_nil _ _ _, Disk.gains_refl _⟩
  | cons segment rest ih =>
    rw [descend_cons] at h
    obtain ⟨_, middle, hfirst, hrest⟩ := run_bind_eq_ok.mp h
    obtain ⟨hinner, hmade⟩ := openInner_ok (onDisk_ok hfirst).1 (onWay_first directory segment rest)
      fun hmarks => marksWay_first hmarks directory segment rest
    obtain ⟨hdescended, hothers⟩ := ih hrest
    have hgrows := hothers.grows
    exact ⟨descended_cons.mpr ⟨⟨hgrows.isDirectory hinner.1, fun hmarks => hgrows.present (hinner.2 hmarks)⟩, hdescended⟩,
      hmade.trans (hothers.mono (fun _ => OnWay.cons) fun _ => MarksWay.cons)⟩

theorem run_descend (h : Descended directory marksPackages segments w.disk) :
    (descend marksPackages directory segments).run w = (.ok (segments.foldl Path.join directory), w) := by
  induction segments generalizing directory with
  | nil => rfl
  | cons segment rest ih =>
    obtain ⟨⟨hdirectory, hmarks⟩, hrest⟩ := descended_cons.mp h
    have hfirst : (Work.onDisk (outputFailure (directory.join segment))
        (openInner marksPackages (directory.join segment))).run w = (.ok (), w) := by
      rw [Work.run_onDisk, run_openInner hdirectory hmarks]
      rfl
    rw [descend_cons, run_bind_ok hfirst, ih hrest]
    rfl

structure Opened (root : Path) (marksPackages : Bool) (slot : Slot) (disk : Disk) : Prop where
  base : disk.isDirectory root = true
  descended : Descended root marksPackages slot.directory disk

theorem Opened.grows (h : Opened root marksPackages slot disk) (hgrows : disk.Grows other) :
    Opened root marksPackages slot other :=
  ⟨hgrows.isDirectory h.base, h.descended.grows hgrows⟩

def LeadsTo (root : Path) (slot : Slot) (p : Path) : Prop :=
  (∃ front, front <+: root ∧ p = place front) ∨ OnWay root slot.directory p

theorem openDirectory_ok (h : (openDirectory root marksPackages slot.directory).run w = (.ok opened, after)) :
    Opened root marksPackages slot after.disk ∧
      Gains (LeadsTo root slot) (MarksWay root marksPackages slot.directory) w.disk after.disk := by
  obtain ⟨_, middle, hroot, hrest⟩ := run_bind_eq_ok.mp h
  obtain ⟨hdirectory, hmade⟩ := Disk.ensureTree_ok (onDisk_ok hroot).1
  obtain ⟨hdescended, hothers⟩ := descend_ok hrest
  exact ⟨⟨hothers.grows.isDirectory hdirectory, hdescended⟩,
    (hmade.mono (fun _ => .inl) fun _ => id).trans (hothers.mono (fun _ => .inr) fun _ => id)⟩

theorem Opened.kept (h : Opened root marksPackages slot disk) (hdirectories : Disk.KeepsDirectories disk other)
    (hmarkers : ∀ inner, inner ≠ [] → inner <+: slot.directory → ∀ node,
      disk.at? (place (Slot.target root ⟨inner, packageMarker⟩)) = some node →
        ∃ kept, other.at? (place (Slot.target root ⟨inner, packageMarker⟩)) = some kept) :
    Opened root marksPackages slot other := by
  refine ⟨hdirectories.isDirectory h.base, fun inner hne hinner => ?_⟩
  obtain ⟨hdirectory, hmarks⟩ := h.descended inner hne hinner
  refine ⟨hdirectories.isDirectory hdirectory, fun hmarking => ?_⟩
  obtain ⟨node, hnode⟩ := Disk.present_iff.mp (hmarks hmarking)
  obtain ⟨hresolve, hat⟩ := Disk.find?_eq_some.mp hnode
  obtain ⟨kept, hkept⟩ := hmarkers inner hne hinner node hat
  exact Disk.present_iff.mpr ⟨kept, Disk.find?_eq_some.mpr ⟨Disk.resolve_mono hdirectories hresolve, hkept⟩⟩

theorem run_openDirectory (h : Opened root marksPackages slot w.disk) :
    (openDirectory root marksPackages slot.directory).run w = (.ok (slot.directory.foldl Path.join root), w) := by
  have hroot : (Work.onDisk (outputFailure root) (Disk.ensureTree root)).run w = (.ok (), w) := by
    rw [Work.run_onDisk, Disk.run_ensureTree h.base]
    rfl
  rw [openDirectory, run_bind_ok hroot]
  exact run_descend h.descended

theorem openAll_cons (root : Path) (marksPackages : Bool) (slot : Slot) (content : String)
    (rest : List (Slot × String)) :
    openAll root marksPackages ((slot, content) :: rest) = (do
      let directory ← openDirectory root marksPackages slot.directory
      return (directory.join slot.file, content) :: (← openAll root marksPackages rest)) := by
  rw [openAll, List.mapM_cons]
  simp only [bind_assoc, pure_bind]
  rfl

def DirectoryFor (root : Path) (entries : List (Slot × String)) (p : Path) : Prop :=
  ∃ entry ∈ entries, LeadsTo root entry.1 p

def MarkerFor (root : Path) (marksPackages : Bool) (entries : List (Slot × String)) (p : Path) : Prop :=
  ∃ entry ∈ entries, MarksWay root marksPackages entry.1.directory p

theorem openAll_ok {targets : List (Path × String)} (h : (openAll root marksPackages entries).run w = (.ok targets, after)) :
    (∀ entry ∈ entries, Opened root marksPackages entry.1 after.disk) ∧
      Gains (DirectoryFor root entries) (MarkerFor root marksPackages entries) w.disk after.disk := by
  induction entries generalizing w targets with
  | nil =>
    cases h
    exact ⟨nofun, Disk.gains_refl _⟩
  | cons entry rest ih =>
    obtain ⟨slot, content⟩ := entry
    rw [openAll_cons] at h
    obtain ⟨opened, middle, hfirst, h⟩ := run_bind_eq_ok.mp h
    obtain ⟨others, last, hrest, h⟩ := run_bind_eq_ok.mp h
    cases h
    obtain ⟨hopened, hmade⟩ := openDirectory_ok hfirst
    obtain ⟨hall, hothers⟩ := ih hrest
    -- what was opened first stays open, as the others only add to the disk
    refine ⟨List.forall_mem_cons.mpr ⟨hopened.grows hothers.grows, hall⟩, (hmade.mono ?_ ?_).trans (hothers.mono ?_ ?_)⟩
    · exact fun p hp => ⟨_, List.mem_cons_self, hp⟩
    · exact fun p hp => ⟨_, List.mem_cons_self, hp⟩
    · rintro p ⟨entry, hentry, hp⟩
      exact ⟨entry, List.mem_cons_of_mem _ hentry, hp⟩
    · rintro p ⟨entry, hentry, hp⟩
      exact ⟨entry, List.mem_cons_of_mem _ hentry, hp⟩

theorem run_openAll (h : ∀ entry ∈ entries, Opened root marksPackages entry.1 w.disk) :
    (openAll root marksPackages entries).run w = (.ok (targets root entries), w) := by
  induction entries with
  | nil => rfl
  | cons entry rest ih =>
    obtain ⟨slot, content⟩ := entry
    rw [List.forall_mem_cons] at h
    rw [openAll_cons, run_bind_ok (run_openDirectory h.1), run_bind_ok (ih h.2)]
    rfl

end Output

end ClientForge
