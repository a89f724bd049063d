import ClientForge.Proofs.Output.Settled

namespace ClientForge

open Disk (Path place KeepsDirectories)
open DefinitionFile (IsNamed Keeps keeps_trans extends_keeps)

theorem Slot.not_named {slot : Slot} (h : slot.IsPlain) (hfile : DefinitionFile.isDefinitionName slot.file = false)
    (root : Path) : ¬IsNamed (place (slot.target root)) := by
  rintro ⟨name, hlast, hname⟩
  rw [Slot.place_target h, Slot.parts, ← List.append_assoc, List.getLast?_concat] at hlast
  cases hlast
  rw [hfile] at hname
  cases hname

theorem Slot.IsModule.not_named {slot : Slot} (h : slot.IsModule) (root : Path) :
    ¬IsNamed (place (slot.target root)) := by
  obtain ⟨stem, hfile⟩ := h.ending
  apply Slot.not_named h.plain
  rw [hfile]
  exact DefinitionFile.not_named_of_ending stem (by decide) (by decide)

theorem Slot.IsModule.staged_not_named {slot : Slot} (h : slot.IsModule) (root : Path) :
    ¬IsNamed (place (slot.staged.target root)) :=
  Slot.not_named (Slot.staged_isPlain h.plain) (DefinitionFile.not_named_of_ending _ (by decide) (by decide)) root

namespace Output

variable {disk : Disk} {root : Path} {marksPackages : Bool} {slots written : List Slot}
  {entries : List (Slot × String)} {names : List String} {w after again : Workspace}

theorem leads_stage {targets : List (Path × String)} (staged : List Path)
    (h : ∀ target ∈ targets, ¬IsNamed (place (staging target.1))) : Leads Keeps (stage staged targets) := by
  induction targets generalizing staged with
  | nil => exact DefinitionFile.keeps_refl
  | cons entry rest ih =>
    obtain ⟨target, content⟩ := entry
    rw [List.forall_mem_cons] at h
    have hwrite : Leads Keeps ((Disk.write (staging target) (Text.Utf8.encode content.toList)).adapt
        (Interruption.mk target (staged ++ [staging target]))) :=
      DefinitionFile.leads_write h.1 _
    exact leads_bind keeps_trans hwrite fun _ => ih _ h.2

theorem leads_replace {targets : List Path} (staged : List Path)
    (h : ∀ target ∈ targets, ¬IsNamed (place (staging target)) ∧ ¬IsNamed (place target)) :
    Leads Keeps (replace staged targets) := by
  induction targets with
  | nil => exact DefinitionFile.keeps_refl
  | cons target rest ih =>
    rw [List.forall_mem_cons] at h
    have hmove : Leads Keeps ((Disk.move (staging target) target).adapt (Interruption.mk target staged)) :=
      DefinitionFile.leads_move h.1.1 h.1.2
    exact leads_bind keeps_trans hmove fun _ => ih h.2

theorem keeps_of_writeAll (hmodules : ∀ entry ∈ entries, entry.1.IsModule)
    (h : (writeAll (.files root marksPackages) entries).run w = (.ok names, after)) : Keeps w.disk after.disk := by
  have hopening : Leads (Work.Between Keeps) (openAll root marksPackages entries) := by
    apply leads_openAll extends_keeps marksPackages
    intro entry hentry inner hne hinner
    have hplain : Slot.IsPlain ⟨inner, packageMarker⟩ := Marks.isPlain ⟨rfl, hne, hinner⟩ (hmodules entry hentry).plain
    have hfile : DefinitionFile.isDefinitionName packageMarker = false := by decide +kernel
    apply Disk.leads_touch extends_keeps.refl
    intro disk _
    exact DefinitionFile.keeps_of_named_eq (DefinitionFile.named_put_of_not disk (Slot.not_named hplain hfile root) _)
  have hstoring : Leads Keeps (stageAndReplace (targets root entries)) := by
    have htargets : ∀ target ∈ targets root entries,
        ¬IsNamed (place (staging target.1)) ∧ ¬IsNamed (place target.1) := by
      rw [forall_mem_targets]
      intro entry hentry
      have hmodule := hmodules entry hentry
      rw [Slot.staging_target hmodule.plain]
      exact ⟨hmodule.staged_not_named root, hmodule.not_named root⟩
    refine leads_bind keeps_trans (leads_stage [] fun target htarget => (htargets target htarget).1) fun staged => ?_
    apply leads_replace
    intro path hpath
    obtain ⟨target, htarget, rfl⟩ := List.mem_map.mp hpath
    exact htargets target htarget
  obtain ⟨opened, hopen, hwrite⟩ := writeAll_eq_ok h
  obtain ⟨hrun, -⟩ := writeFiles_ok hwrite
  have hfirst : Keeps w.disk opened.disk := by
    have hkept := hopening w
    rwa [hopen] at hkept
  have hsecond : Keeps opened.disk after.disk := by
    have hkept := hstoring opened.disk
    rwa [hrun] at hkept
  exact keeps_trans _ _ _ hfirst hsecond

structure Continues (disk other : Disk) : Prop where
  directories : KeepsDirectories disk other
  definitions : Keeps disk other

theorem Continues.refl (disk : Disk) : Continues disk disk :=
  ⟨fun _ h => h, DefinitionFile.keeps_refl disk⟩

theorem Continues.trans {disk other third : Disk} (h : Continues disk other) (h' : Continues other third) :
    Continues disk third :=
  ⟨fun p hp => h'.directories p (h.directories p hp), keeps_trans _ _ _ h.definitions h'.definitions⟩

theorem continues_of_writeAll (hproper : Proper entries) (hmodules : ∀ entry ∈ entries, entry.1.IsModule)
    (h : (writeAll (.files root marksPackages) entries).run w = (.ok names, after)) : Continues w.disk after.disk :=
  ⟨(hproper.written h).1.directories, keeps_of_writeAll hmodules h⟩

/-- A disk that a later run left, but for what is in some slots: of those that the run has written to again
the content is as it was on another disk, in the run before, when that had written to the same ones. -/
structure Replays (root : Path) (slots written : List Slot) (disk before again : Disk) : Prop where
  others : ∀ p, (∀ slot ∈ slots, p ≠ place (slot.target root)) → again.at? p = disk.at? p
  files : ∀ slot ∈ slots, ∃ bytes, again.at? (place (slot.target root)) = some (.file bytes)
  written : ∀ slot ∈ written, again.at? (place (slot.target root)) = before.at? (place (slot.target root))

structure AllSettled (root : Path) (marksPackages : Bool) (slots : List Slot) (disk : Disk) : Prop where
  modules : ∀ slot ∈ slots, slot.IsModule
  settled : ∀ slot ∈ slots, Settled root marksPackages slot disk

theorem AllSettled.replays (h : AllSettled root marksPackages slots disk) (before : Disk) :
    Replays root slots [] disk before disk := by
  refine ⟨fun _ _ => rfl, ?_, nofun⟩
  intro slot hslot
  obtain ⟨bytes, hfile⟩ := (h.settled slot hslot).target
  exact ⟨bytes, (Disk.find?_eq_some.mp hfile).2⟩

theorem AllSettled.writeAll (h : AllSettled root marksPackages slots w.disk) (hproper : Proper entries)
    (hmodules : ∀ entry ∈ entries, entry.1.IsModule)
    (hrun : (writeAll (.files root marksPackages) entries).run w = (.ok names, after)) :
    AllSettled root marksPackages (slots ++ entries.map (·.1)) after.disk := by
  constructor
  · refine List.forall_mem_append.mpr ⟨h.modules, ?_⟩
    intro slot hslot
    obtain ⟨entry, hentry, rfl⟩ := List.mem_map.mp hslot
    exact hmodules entry hentry
  · refine List.forall_mem_append.mpr ⟨?_, fun slot hslot => settled_of_writeAll hproper hrun hslot⟩
    intro slot hslot
    exact (h.settled slot hslot).writeAll (h.modules slot hslot) hproper hmodules hrun

theorem Replays.at?_eq (h : Replays root slots slots disk disk w.disk) (p : Path) : w.disk.at? p = disk.at? p := by
  by_cases hp : ∃ slot ∈ slots, p = place (slot.target root)
  · obtain ⟨slot, hslot, rfl⟩ := hp
    exact h.written slot hslot
  · exact h.others p fun slot hslot hplace => hp ⟨slot, hslot, hplace⟩

variable {before other : Disk}

theorem Replays.keepsDirectories (h : Replays root slots written disk before other)
    (hsettled : AllSettled root marksPackages slots disk) : KeepsDirectories disk other := by
  intro p hp
  rw [h.others, hp]
  rintro slot hslot rfl
  obtain ⟨bytes, hfile⟩ := (hsettled.settled slot hslot).target
  rw [(Disk.find?_eq_some.mp hfile).2] at hp
  cases hp

theorem Replays.settled (h : Replays root slots written disk before other)
    (hsettled : AllSettled root marksPackages slots disk) {slot : Slot} (hslot : slot ∈ slots) :
    Settled root marksPackages slot other := by
  have hmodule := hsettled.modules slot hslot
  have hdirectories := h.keepsDirectories hsettled
  obtain ⟨hopened, ⟨_, hfile⟩, hstaged⟩ := hsettled.settled slot hslot
  refine ⟨?_, ?_, ?_⟩
  · apply hopened.keeps hmodule.plain hdirectories
    intro marker _ _ node hnode
    by_cases htarget : ∃ slot ∈ slots, place (marker.target root) = place (slot.target root)
    · obtain ⟨slot, hslot, hplace⟩ := htarget
      obtain ⟨bytes, hbytes⟩ := h.files slot hslot
      exact ⟨_, hplace ▸ hbytes⟩
    · refine ⟨node, ?_⟩
      rw [h.others _ fun slot hslot hplace => htarget ⟨slot, hslot, hplace⟩, hnode]
  · obtain ⟨bytes, hbytes⟩ := h.files slot hslot
    exact ⟨bytes, Disk.find?_eq_some.mpr ⟨Disk.resolve_mono hdirectories (Disk.find?_eq_some.mp hfile).1, hbytes⟩⟩
  · rw [h.others, hstaged]
    intro target htarget hplace
    have htargetModule := hsettled.modules target htarget
    exact htargetModule.visible.ne_staged slot
      (Slot.place_target_injective htargetModule.plain (Slot.staged_isPlain hmodule.plain) hplace.symm)

theorem Replays.writeAll (h : Replays root slots written disk w.disk again.disk)
    (hsettled : AllSettled root marksPackages slots disk) (hproper : Proper entries)
    (hentries : entries.map (·.1) ⊆ slots) (hwritten : written ⊆ slots)
    (hrun : (writeAll (.files root marksPackages) entries).run w = (.ok names, after)) :
    ∃ next, (writeAll (.files root marksPackages) entries).run again = (.ok names, next) ∧
      Replays root slots (written ++ entries.map (·.1)) disk after.disk next.disk := by
  obtain ⟨hfirst, rfl⟩ := hproper.written hrun
  obtain ⟨next, hnext, hframe⟩ := run_writeAll hproper fun entry hentry =>
    h.settled hsettled (hentries (List.mem_map_of_mem hentry))
  obtain ⟨hsecond, -⟩ := hproper.written hnext
  refine ⟨next, hnext, ?_, ?_, ?_⟩
  · intro p hp
    rw [hframe p fun entry hentry => hp _ (hentries (List.mem_map_of_mem hentry)), h.others p hp]
  · intro slot hslot
    by_cases hmem : slot ∈ entries.map (·.1)
    · obtain ⟨bytes, hfile⟩ := hsecond.find?_of_mem hmem
      exact ⟨bytes, (Disk.find?_eq_some.mp hfile).2⟩
    · obtain ⟨bytes, hbytes⟩ := h.files slot hslot
      have hmodule := hsettled.modules slot hslot
      exact ⟨bytes, hsecond.at?_eq hproper hmodule.plain hmodule.visible hbytes hmem⟩
  -- a slot of this call was written by both, any other one by neither
  · intro slot hslot
    by_cases hmem : slot ∈ entries.map (·.1)
    · obtain ⟨entry, hentry, rfl⟩ := List.mem_map.mp hmem
      rw [(Disk.find?_eq_some.mp (hfirst.content entry hentry)).2,
        (Disk.find?_eq_some.mp (hsecond.content entry hentry)).2]
    · have hold := (List.mem_append.mp hslot).resolve_right hmem
      have hmodule := hsettled.modules slot (hwritten hold)
      obtain ⟨bytes, hbytes⟩ := h.files slot (hwritten hold)
      have hbefore := (h.written slot hold).symm.trans hbytes
      rw [hsecond.at?_eq hproper hmodule.plain hmodule.visible hbytes hmem,
        hfirst.at?_eq hproper hmodule.plain hmodule.visible hbefore hmem]

end Output

end ClientForge
