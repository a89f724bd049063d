import ClientForge.Output
import ClientForge.Proofs.Disk.Steps

namespace ClientForge

open Disk (Path)

namespace Work

theorem run_onDisk {ε α : Type} (asFailure : ε → Failure) (step : ExceptT ε (StateM Disk) α)
    (w : Workspace) :
    (onDisk asFailure step).run w =
      ((step.run w.disk).1.mapError asFailure, { w with disk := (step.run w.disk).2 }) := by
  rw [onDisk, run_bind_ok (run_get w)]
  rcases step.run w.disk with ⟨_ | _, disk⟩ <;> rfl

def Local {α : Type} (x : Work α) : Prop :=
  ∃ step : ExceptT Failure (StateM Disk) α, ∀ w, x.run w = ((step.run w.disk).1, { w with disk := (step.run w.disk).2 })

theorem local_pure {α : Type} (a : α) : Local (pure a) :=
  ⟨pure a, fun _ => rfl⟩

theorem local_onDisk {ε α : Type} (asFailure : ε → Failure) (step : ExceptT ε (StateM Disk) α) :
    Local (onDisk asFailure step) :=
  ⟨step.adapt asFailure, run_onDisk asFailure step⟩

theorem Local.bind {α β : Type} {x : Work α} {f : α → Work β} (hx : Local x) (hf : ∀ a, Local (f a)) :
    Local (x >>= f) := by
  obtain ⟨first, hfirst⟩ := hx
  choose next hnext using hf
  refine ⟨first >>= next, fun w => ?_⟩
  rw [run_bind, run_bind, hfirst]
  rcases first.run w.disk with ⟨_ | a, disk⟩
  · rfl
  · exact hnext a _

theorem local_mapM {α β : Type} {f : α → Work β} (hf : ∀ a, Local (f a)) (list : List α) : Local (list.mapM f) := by
  induction list with
  | nil => exact local_pure []
  | cons a rest ih =>
    rw [List.mapM_cons]
    exact (hf a).bind fun b => ih.bind fun bs => local_pure (b :: bs)

def Between (r : Disk → Disk → Prop) (w w' : Workspace) : Prop :=
  r w.disk w'.disk

theorem leads_onDisk {ε α : Type} {r : Disk → Disk → Prop} {asFailure : ε → Failure}
    {step : ExceptT ε (StateM Disk) α} (h : Leads r step) :
    Leads (Between r) (onDisk asFailure step) := by
  intro w
  rw [run_onDisk]
  exact h w.disk

end Work

def Slot.target (root : Path) (slot : Slot) : Path :=
  (slot.directory.foldl Path.join root).join slot.file

namespace Output

section Extends

variable {r : Disk → Disk → Prop}

theorem leads_markPackage (h : Disk.Extends r) {directory : Path}
    (htouch : Leads r (Disk.touch (directory.join packageMarker))) : Leads r (markPackage directory) := by
  intro disk
  rw [markPackage, run_bind_ok (run_get disk)]
  cases disk.present (directory.join packageMarker) with
  | true => exact h.refl disk
  | false => exact leads_bind h.trans (Disk.leads_ensureTree h directory) (fun _ => htouch) disk

theorem leads_descend (h : Disk.Extends r) (marksPackages : Bool) {directory : Path}
    {segments : List String}
    (htouch : ∀ inner, inner ≠ [] → inner <+: segments →
      Leads r (Disk.touch (Slot.target directory ⟨inner, packageMarker⟩))) :
    Leads (Work.Between r) (descend marksPackages directory segments) := by
  induction segments generalizing directory with
  | nil => exact fun w => h.refl w.disk
  | cons segment rest ih =>
    have hfirst := htouch [segment] (List.cons_ne_nil _ _) (List.prefix_append [segment] rest)
    refine leads_bind (r := Work.Between r) (fun _ _ _ => h.trans _ _ _) (Work.leads_onDisk ?_) fun _ => ih ?_
    · refine leads_bind h.trans (Disk.leads_ensureDirectory h _) fun _ => ?_
      cases marksPackages with
      | true => exact leads_markPackage h hfirst
      | false => exact h.refl
    · intro inner _ hinner
      exact htouch (segment :: inner) (List.cons_ne_nil _ _) (List.cons_prefix_cons.mpr ⟨rfl, hinner⟩)

theorem leads_openDirectory (h : Disk.Extends r) (marksPackages : Bool) {root : Path}
    {segments : List String}
    (htouch : ∀ inner, inner ≠ [] → inner <+: segments →
      Leads r (Disk.touch (Slot.target root ⟨inner, packageMarker⟩))) :
    Leads (Work.Between r) (openDirectory root marksPackages segments) :=
  leads_bind (r := Work.Between r) (fun _ _ _ => h.trans _ _ _)
    (Work.leads_onDisk (Disk.leads_ensureTree h root)) fun _ => leads_descend h marksPackages htouch

end Extends

theorem descend_eq_ok {marksPackages : Bool} {directory opened : Path} {segments : List String}
    {w w' : Workspace} (h : (descend marksPackages directory segments).run w = (.ok opened, w')) :
    opened = segments.foldl Path.join directory := by
  induction segments generalizing directory w with
  | nil =>
    cases h
    rfl
  | cons segment rest ih =>
    obtain ⟨_, middle, -, hrest⟩ := run_bind_eq_ok.mp h
    exact ih hrest

theorem openDirectory_eq_ok {root opened : Path} {marksPackages : Bool} {segments : List String}
    {w w' : Workspace} (h : (openDirectory root marksPackages segments).run w = (.ok opened, w')) :
    opened = segments.foldl Path.join root := by
  obtain ⟨_, middle, -, hrest⟩ := run_bind_eq_ok.mp h
  exact descend_eq_ok hrest

def openAll (root : Path) (marksPackages : Bool) (entries : List (Slot × String)) :
    Work (List (Path × String)) :=
  entries.mapM fun (slot, content) => do
    let directory ← openDirectory root marksPackages slot.directory
    return (directory.join slot.file, content)

theorem local_descend (marksPackages : Bool) (directory : Path) (segments : List String) :
    Work.Local (descend marksPackages directory segments) := by
  induction segments generalizing directory with
  | nil => exact Work.local_pure directory
  | cons segment rest ih => exact (Work.local_onDisk _ _).bind fun _ => ih _

theorem local_openAll (root : Path) (marksPackages : Bool) (entries : List (Slot × String)) :
    Work.Local (openAll root marksPackages entries) := by
  refine Work.local_mapM (fun entry => Work.Local.bind ?_ fun _ => Work.local_pure _) entries
  exact (Work.local_onDisk _ _).bind fun _ => local_descend marksPackages root entry.1.directory

theorem leads_openAll {r : Disk → Disk → Prop} (h : Disk.Extends r) (marksPackages : Bool) {root : Path}
    {entries : List (Slot × String)}
    (htouch : ∀ entry ∈ entries, ∀ inner, inner ≠ [] → inner <+: entry.1.directory →
      Leads r (Disk.touch (Slot.target root ⟨inner, packageMarker⟩))) :
    Leads (Work.Between r) (openAll root marksPackages entries) := by
  have htrans (s t u : Workspace) : Work.Between r s t → Work.Between r t u → Work.Between r s u :=
    h.trans _ _ _
  apply leads_mapM (fun w => h.refl w.disk) htrans
  intro entry hentry
  exact leads_bind htrans (leads_openDirectory h marksPackages (htouch entry hentry))
    fun _ w => h.refl w.disk

theorem openAll_grows (root : Path) (marksPackages : Bool) (entries : List (Slot × String))
    (w : Workspace) : w.disk.Grows ((openAll root marksPackages entries).run w).2.disk :=
  leads_openAll Disk.extends_grows marksPackages
    (fun _ _ _ _ _ => Disk.touch_grows _) w

theorem openAll_eq_ok {root : Path} {marksPackages : Bool} {entries : List (Slot × String)}
    {targets : List (Path × String)} {w w' : Workspace}
    (h : (openAll root marksPackages entries).run w = (.ok targets, w')) :
    targets = entries.map fun entry => (entry.1.target root, entry.2) := by
  induction entries generalizing w targets with
  | nil =>
    cases h
    rfl
  | cons entry rest ih =>
    rw [openAll, List.mapM_cons] at h
    obtain ⟨first, middle, hfirst, h⟩ := run_bind_eq_ok.mp h
    obtain ⟨others, last, hrest, h⟩ := run_bind_eq_ok.mp h
    obtain ⟨directory, opened, hopen, hfirst⟩ := run_bind_eq_ok.mp hfirst
    cases h
    cases hfirst
    rw [List.map_cons, ← ih hrest, openDirectory_eq_ok hopen]
    rfl

theorem writeAll_files (root : Path) (marksPackages : Bool) (entries : List (Slot × String)) :
    writeAll (.files root marksPackages) entries =
      (openAll root marksPackages entries >>= fun targets => writeFiles targets) :=
  rfl

end Output

end ClientForge
