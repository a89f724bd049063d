import ClientForge.Proofs.Output.Opening

namespace ClientForge

open Disk (Path Writable SameDirectories place)

namespace Output

variable {disk next : Disk}

structure Staged (before after : Disk) (files : List Path) : Prop where
  same : SameDirectories before after
  writable : ∀ file ∈ files, Writable after file
  others : ∀ p, p ∉ files.map place → after.at? p = before.at? p

theorem Staged.cons {file : Path} {files : List Path} {bytes : List UInt8} {last : Disk}
    (hwrite : (Disk.write file bytes).run disk = (.ok (), next)) (h : Staged next last files) :
    Staged disk last (file :: files) := by
  obtain ⟨hwritable, rfl⟩ := Disk.write_ok hwrite
  have hsame : SameDirectories disk (disk.put (place file) (.file bytes)) :=
    Disk.sameDirectories_put hwritable.2 Node.noConfusion
  refine ⟨hsame.trans h.same, ?_, ?_⟩
  · intro other hother
    rcases List.mem_cons.mp hother with rfl | hrest
    · exact (hsame.trans h.same).writable_iff.mp hwritable
    · exact h.writable other hrest
  · intro p hp
    rw [List.map_cons, List.mem_cons, not_or] at hp
    rw [h.others p hp.2, Disk.at?_put disk _ (Disk.isBase_eq_false hwritable.2), if_neg hp.1]

theorem Staged.writable_targets {targets : List (Path × String)}
    (h : Staged disk next (targets.map (staging ·.1))) :
    ∀ target ∈ targets.map (·.1), Writable next (staging target) := by
  intro target htarget
  obtain ⟨entry, hentry, rfl⟩ := List.mem_map.mp htarget
  exact h.writable _ (List.mem_map_of_mem hentry)

theorem run_stage_of_write {target : Path} {content : String} (staged : List Path)
    (rest : List (Path × String))
    (h : (Disk.write (staging target) (Text.Utf8.encode content.toList)).run disk = (.ok (), next)) :
    (stage staged ((target, content) :: rest)).run disk =
      (stage (staged ++ [staging target]) rest).run next := by
  rw [stage, run_bind, run_adapt, h]
  rfl

theorem run_stage_of_fault {target : Path} {content : String} {fault : Disk.Fault} (staged : List Path)
    (rest : List (Path × String))
    (h : (Disk.write (staging target) (Text.Utf8.encode content.toList)).run disk = (.error fault, next)) :
    (stage staged ((target, content) :: rest)).run disk =
      (.error ⟨target, staged ++ [staging target], fault⟩, next) := by
  rw [stage, run_bind, run_adapt, h]
  rfl

theorem run_stage (staged : List Path) (targets : List (Path × String)) (disk : Disk) :
    (∃ next, (stage staged targets).run disk =
        (.ok (staged ++ targets.map (staging ·.1)), next) ∧
        Staged disk next (targets.map (staging ·.1))) ∨
      ∃ written blocked target fault next, (stage staged targets).run disk =
          (.error ⟨target, staged ++ written ++ [blocked], fault⟩, next) ∧
        written ++ [blocked] ⊆ targets.map (staging ·.1) ∧ Staged disk next written ∧ ¬Writable next blocked := by
  induction targets generalizing staged disk with
  | nil => exact .inl ⟨disk, by simp [stage], ⟨.refl disk, by simp, fun _ _ => rfl⟩⟩
  | cons entry rest ih =>
    obtain ⟨target, content⟩ := entry
    rcases hwrite : (Disk.write (staging target) (Text.Utf8.encode content.toList)).run disk with
      ⟨fault | _, next⟩
    · obtain ⟨hblocked, rfl⟩ := Disk.write_error hwrite
      right
      refine ⟨[], staging target, target, fault, next, ?_, by simp,
        ⟨.refl _, by simp, fun _ _ => rfl⟩, hblocked⟩
      rw [run_stage_of_fault staged rest hwrite, List.append_nil]
    · rw [run_stage_of_write staged rest hwrite]
      rcases ih (staged ++ [staging target]) next with
        ⟨last, hrest, hstaged⟩ |
          ⟨written, blocked, stopped, fault, last, hrest, hsub, hstaged, hblocked⟩
      · left
        refine ⟨last, ?_, hstaged.cons hwrite⟩
        rw [hrest]
        simp
      · right
        refine ⟨staging target :: written, blocked, stopped, fault, last, ?_,
          List.cons_subset_cons _ hsub, hstaged.cons hwrite, hblocked⟩
        rw [hrest]
        simp

def replaced (disk : Disk) : List Path → List (Path × Node)
  | [] => []
  | target :: rest =>
    match disk.find? (staging target), (Disk.move (staging target) target).run disk with
    | some node, (.ok (), next) => (target, node) :: replaced next rest
    | _, _ => []

def newest : List (Path × Node) → Path → Option Node
  | [], _ => none
  | (target, node) :: rest, p => (newest rest p).or (if place target = p then some node else none)

theorem run_replace (staged : List Path) {targets : List Path} {disk : Disk}
    (h : ∀ target ∈ targets, Writable disk (staging target)) :
    ∃ result next, (replace staged targets).run disk = (result, next) ∧
      (∀ stop, result = .error stop →
        stop.staged = staged ∧ (replaced disk targets).length < targets.length) ∧
      SameDirectories disk next ∧
      ∀ p, p ∉ targets.map (fun target => place (staging target)) →
        next.at? p = (newest (replaced disk targets) p).or (disk.at? p) := by
  induction targets generalizing disk with
  | nil => exact ⟨.ok (), disk, rfl, by simp, .refl disk, fun _ _ => rfl⟩
  | cons target rest ih =>
    rw [List.forall_mem_cons] at h
    rcases hmove : (Disk.move (staging target) target).run disk with ⟨fault | _, next⟩
    · obtain rfl := Disk.move_error hmove
      have hnone : replaced next (target :: rest) = [] := by
        rw [replaced, hmove]
        cases next.find? (staging target) <;> rfl
      refine ⟨.error ⟨target, staged, fault⟩, next, ?_, ?_, .refl next, ?_⟩
      · rw [replace, run_bind, run_adapt, hmove]
        rfl
      · rintro stop ⟨⟩
        rw [hnone]
        exact ⟨rfl, Nat.succ_pos _⟩
      · intro p _
        rw [hnone]
        rfl
    · obtain ⟨node, hnode, -⟩ := Disk.move_ok hmove
      have hfile : node ≠ .directory := by
        rintro rfl
        exact h.1.2 (Disk.find?_eq_some.mp hnode).2
      obtain ⟨hsame, hmoved⟩ := Disk.moved hmove hnode hfile
      obtain ⟨result, last, hrun, hstop, hlast, hat⟩ :=
        ih fun other hother => hsame.writable_iff.mp (h.2 other hother)
      have hchanges : replaced disk (target :: rest) = (target, node) :: replaced next rest := by
        rw [replaced, hmove, hnode]
      refine ⟨result, last, ?_, ?_, hsame.trans hlast, ?_⟩
      · rw [replace, run_bind, run_adapt, hmove]
        exact hrun
      · intro stop hresult
        obtain ⟨hstaged, hless⟩ := hstop stop hresult
        rw [hchanges]
        exact ⟨hstaged, Nat.succ_lt_succ hless⟩
      · intro p hp
        rw [List.map_cons, List.mem_cons, not_or] at hp
        rw [hat p hp.2, hchanges, newest, hmoved p, if_neg hp.1, Option.or_assoc]
        by_cases hplace : p = place target
        · rw [if_pos hplace, if_pos hplace.symm]
          rfl
        · rw [if_neg hplace, if_neg (Ne.symm hplace)]
          rfl

theorem run_clear_staged {files : List Path} {disk : Disk} (h : ∀ file ∈ files, Writable disk file) :
    ∃ next, (files.forM Disk.unlink).run disk = (.ok (), next) ∧ SameDirectories disk next ∧
      ∀ p, next.at? p = if p ∈ files.map place then none else disk.at? p := by
  induction files generalizing disk with
  | nil => exact ⟨disk, rfl, .refl disk, by simp⟩
  | cons file rest ih =>
    rw [List.forall_mem_cons] at h
    have hsame := Disk.sameDirectories_remove h.1.2
    obtain ⟨last, hrun, hlast, hat⟩ := ih fun other hother => hsame.writable_iff.mp (h.2 other hother)
    refine ⟨last, ?_, hsame.trans hlast, ?_⟩
    · rw [run_forM_cons, Disk.run_unlink h.1]
      exact hrun
    · intro p
      rw [hat p, Disk.at?_remove _ (Disk.isBase_eq_false h.1.2), List.map_cons]
      by_cases hp : p = place file <;> simp [hp]

theorem run_clear_blocked {blocked : List Path} {disk : Disk} (h : ∀ file ∈ blocked, ¬Writable disk file) :
    ∃ result, (blocked.forM Disk.unlink).run disk = (result, disk) := by
  induction blocked with
  | nil => exact ⟨.ok (), rfl⟩
  | cons file rest ih =>
    rw [List.forall_mem_cons] at h
    have hunlink := Disk.unlink_of_not_writable h.1
    rw [run_forM_cons]
    rcases hrun : (Disk.unlink file).run disk with ⟨fault | _, next⟩
    · rw [hrun] at hunlink
      obtain rfl := hunlink
      exact ⟨.error fault, rfl⟩
    · rw [hrun] at hunlink
      obtain rfl := hunlink
      exact ih h.2

theorem run_clear {files blocked : List Path} {disk : Disk} (h : ∀ file ∈ files, Writable disk file)
    (hblocked : ∀ file ∈ blocked, ¬Writable disk file) :
    ∃ result next, ((files ++ blocked).forM Disk.unlink).run disk = (result, next) ∧
      SameDirectories disk next ∧
      ∀ p, next.at? p = if p ∈ files.map place then none else disk.at? p := by
  obtain ⟨next, hrun, hsame, hat⟩ := run_clear_staged h
  obtain ⟨result, hrest⟩ := run_clear_blocked fun file hfile => mt hsame.writable_iff.mpr (hblocked file hfile)
  exact ⟨result, next, (run_forM_append hrun blocked).trans hrest, hsame, hat⟩

theorem content_of_stage {staged all : List Path} {targets : List (Path × String)} {disk next : Disk}
    (h : (stage staged targets).run disk = (.ok all, next))
    (hnodup : (targets.map fun entry => place (staging entry.1)).Nodup) {entry : Path × String}
    (hentry : entry ∈ targets) :
    next.find? (staging entry.1) = some (.file (Text.Utf8.encode entry.2.toList)) := by
  induction targets generalizing staged disk with
  | nil => cases hentry
  | cons first rest ih =>
    obtain ⟨target, content⟩ := first
    rw [List.map_cons, List.nodup_cons] at hnodup
    rcases hwrite : (Disk.write (staging target) (Text.Utf8.encode content.toList)).run disk with
      ⟨fault | _, middle⟩
    · rw [run_stage_of_fault staged rest hwrite] at h
      cases h
    · rw [run_stage_of_write staged rest hwrite] at h
      rcases List.mem_cons.mp hentry with rfl | hrest
      · rcases run_stage (staged ++ [staging target]) rest middle with
          ⟨last, hrun, hstaged⟩ | ⟨_, _, _, _, _, hrun, -⟩
        · rw [hrun] at h
          cases h
          obtain ⟨hwritable, rfl⟩ := Disk.write_ok hwrite
          have hsame := (Staged.cons hwrite hstaged).same
          refine Disk.find?_eq_some.mpr ⟨(hsame.writable_iff.mp hwritable).1, ?_⟩
          rw [hstaged.others _ (by simpa using hnodup.1),
            Disk.at?_put_self _ _ (Disk.isBase_eq_false hwritable.2)]
        · rw [hrun] at h
          cases h
      · exact ih h hnodup.2 hrest

def replaceable (disk : Disk) (target : Path) : Bool :=
  target.getLast? != some ".." && disk.at? (place target) != some .directory

theorem replaceable_congr (h : SameDirectories disk next) : replaceable disk = replaceable next := by
  funext target
  have hat : (disk.at? (place target) != some .directory) = (next.at? (place target) != some .directory) := by
    rw [Bool.eq_iff_iff, bne_iff_ne, bne_iff_ne, Ne, Ne, h (place target)]
  rw [replaceable, replaceable, hat]

theorem replaced_eq_takeWhile {targets : List (Path × String)} {disk : Disk}
    (hcontent : ∀ entry ∈ targets,
      disk.find? (staging entry.1) = some (.file (Text.Utf8.encode entry.2.toList)))
    (hnodup : (targets.map fun entry => place (staging entry.1)).Nodup)
    (hapart : ∀ a ∈ targets, ∀ b ∈ targets, place a.1 ≠ place (staging b.1)) :
    replaced disk (targets.map (·.1)) =
      (targets.takeWhile fun entry => replaceable disk entry.1).map fun entry =>
        (entry.1, .file (Text.Utf8.encode entry.2.toList)) := by
  induction targets generalizing disk with
  | nil => rfl
  | cons first rest ih =>
    obtain ⟨target, content⟩ := first
    rw [List.map_cons, List.nodup_cons] at hnodup
    have hfirst := hcontent _ List.mem_cons_self
    obtain ⟨horigin, -⟩ := Disk.find?_eq_some.mp hfirst
    rw [List.map_cons, replaced, hfirst, List.takeWhile_cons]
    cases hcan : replaceable disk target with
    | false =>
      rcases hmove : (Disk.move (staging target) target).run disk with ⟨_ | _, next⟩
      · rfl
      · obtain ⟨node, -, htarget, hlast, -⟩ := Disk.move_ok hmove
        simp [replaceable, hlast, htarget.2] at hcan
    | true =>
      rw [replaceable, Bool.and_eq_true, bne_iff_ne, bne_iff_ne] at hcan
      have htarget : Writable disk target := ⟨Disk.resolve_of_sibling horigin, hcan.2⟩
      have hmove := Disk.run_move hfirst htarget hcan.1
      obtain ⟨hsame, hmoved⟩ := Disk.moved hmove hfirst Node.noConfusion
      rw [hmove]
      dsimp only
      rw [if_pos rfl, List.map_cons, ih]
      · rw [replaceable_congr hsame]
      · intro entry hentry
        have hother : place (staging entry.1) ≠ place target :=
          (hapart _ List.mem_cons_self entry (List.mem_cons_of_mem _ hentry)).symm
        have hstaging : place (staging entry.1) ≠ place (staging target) := by
          intro heq
          exact hnodup.1 (heq ▸ List.mem_map_of_mem hentry)
        rw [← hsame.find?_congr, hcontent entry (List.mem_cons_of_mem _ hentry)]
        rw [hmoved, if_neg hother, if_neg hstaging]
      · exact hnodup.2
      · intro a ha b hb
        exact hapart a (List.mem_cons_of_mem _ ha) b (List.mem_cons_of_mem _ hb)

end Output

end ClientForge
