import Mathlib.Data.List.Basic

namespace ClientForge

variable {ε δ σ α β : Type}

theorem run_bind_ok {x : ExceptT ε (StateM σ) α} {s s' : σ} {a : α} (h : x.run s = (.ok a, s'))
    (f : α → ExceptT ε (StateM σ) β) : (x >>= f).run s = (f a).run s' := by
  change (do let (r, s) ← x.run s; ExceptT.bindCont f r s : Id (Except ε β × σ)) = _
  rw [h]
  rfl

theorem run_bind_error {x : ExceptT ε (StateM σ) α} {s s' : σ} {e : ε}
    (h : x.run s = (.error e, s')) (f : α → ExceptT ε (StateM σ) β) :
    (x >>= f).run s = (.error e, s') := by
  change (do let (r, s) ← x.run s; ExceptT.bindCont f r s : Id (Except ε β × σ)) = _
  rw [h]
  rfl

theorem run_bind (x : ExceptT ε (StateM σ) α) (f : α → ExceptT ε (StateM σ) β) (s : σ) :
    (x >>= f).run s =
      match x.run s with
      | (.ok a, s') => (f a).run s'
      | (.error e, s') => (.error e, s') := by
  rcases h : x.run s with ⟨_ | a, s'⟩
  · exact run_bind_error h f
  · exact run_bind_ok h f

theorem run_bind_eq_ok {x : ExceptT ε (StateM σ) α} {f : α → ExceptT ε (StateM σ) β} {s s' : σ} {b : β} :
    (x >>= f).run s = (.ok b, s') ↔ ∃ a middle, x.run s = (.ok a, middle) ∧ (f a).run middle = (.ok b, s') := by
  constructor
  · intro h
    rw [run_bind] at h
    rcases hx : x.run s with ⟨e | a, middle⟩
    · rw [hx] at h
      cases h
    · rw [hx] at h
      exact ⟨a, middle, rfl, h⟩
  · rintro ⟨a, middle, hx, h⟩
    rwa [run_bind_ok hx]

theorem run_bind_eq_error {x : ExceptT ε (StateM σ) α} {f : α → ExceptT ε (StateM σ) β} {s s' : σ} {e : ε} :
    (x >>= f).run s = (.error e, s') ↔
      x.run s = (.error e, s') ∨ ∃ a middle, x.run s = (.ok a, middle) ∧ (f a).run middle = (.error e, s') := by
  constructor
  · intro h
    rw [run_bind] at h
    rcases hx : x.run s with ⟨cause | a, middle⟩
    · rw [hx] at h
      cases h
      exact .inl rfl
    · rw [hx] at h
      exact .inr ⟨a, middle, rfl, h⟩
  · rintro (hx | ⟨a, middle, hx, h⟩)
    · exact run_bind_error hx f
    · rwa [run_bind_ok hx]

@[simp]
theorem run_pure (a : α) (s : σ) : (pure a : ExceptT ε (StateM σ) α).run s = (.ok a, s) :=
  rfl

@[simp]
theorem run_get (s : σ) : (get : ExceptT ε (StateM σ) σ).run s = (.ok s, s) :=
  rfl

@[simp]
theorem run_set (next s : σ) : (set next : ExceptT ε (StateM σ) PUnit).run s = (.ok (), next) :=
  rfl

theorem run_liftM (x : Except ε α) (s : σ) : (liftM x : ExceptT ε (StateM σ) α).run s = (x, s) := by
  cases x <;> rfl

theorem run_discard (x : ExceptT ε (StateM σ) α) (s : σ) :
    (discard x).run s = ((x.run s).1.map fun _ => (), (x.run s).2) := by
  change (x >>= fun _ => pure ()).run s = _
  rw [run_bind]
  rcases x.run s with ⟨_ | _, s'⟩ <;> rfl

theorem discard_ok {x : ExceptT ε (StateM σ) α} {s s' : σ} (h : (discard x).run s = (.ok (), s')) :
    ∃ a, x.run s = (.ok a, s') := by
  obtain ⟨a, middle, hx, hrest⟩ := run_bind_eq_ok.mp h
  cases hrest
  exact ⟨a, hx⟩

theorem run_forM_cons (f : α → ExceptT ε (StateM σ) PUnit) (a : α) (rest : List α) (s : σ) :
    ((a :: rest).forM f).run s =
      match (f a).run s with
      | (.ok (), s') => (rest.forM f).run s'
      | (.error e, s') => (.error e, s') := by
  change (f a >>= fun _ => rest.forM f).run s = _
  rw [run_bind]
  rcases (f a).run s with ⟨_ | _, s'⟩ <;> rfl

theorem run_forM_cons_eq_ok {f : α → ExceptT ε (StateM σ) PUnit} {a : α} {rest : List α} {s s' : σ} :
    ((a :: rest).forM f).run s = (.ok (), s') ↔
      ∃ middle, (f a).run s = (.ok (), middle) ∧ (rest.forM f).run middle = (.ok (), s') := by
  refine (run_bind_eq_ok (x := f a)).trans ⟨?_, ?_⟩
  · rintro ⟨_, middle, hfirst, hrest⟩
    exact ⟨middle, hfirst, hrest⟩
  · rintro ⟨middle, hfirst, hrest⟩
    exact ⟨(), middle, hfirst, hrest⟩

theorem run_forM_append {f : α → ExceptT ε (StateM σ) PUnit} {first : List α} {s s' : σ}
    (h : (first.forM f).run s = (.ok (), s')) (second : List α) :
    ((first ++ second).forM f).run s = (second.forM f).run s' := by
  induction first generalizing s with
  | nil =>
    cases h
    rfl
  | cons a rest ih =>
    obtain ⟨middle, hfirst, hrest⟩ := run_forM_cons_eq_ok.mp h
    rw [List.cons_append, run_forM_cons, hfirst]
    exact ih hrest

theorem run_of_isOk_eq_false {x : ExceptT ε (StateM σ) α} {s : σ} (h : (x.run s).1.isOk = false) :
    ∃ e, x.run s = (.error e, (x.run s).2) := by
  rcases hrun : x.run s with ⟨e | a, s'⟩
  · exact ⟨e, rfl⟩
  · rw [hrun] at h
    cases h

theorem run_of_isOk {x : ExceptT ε (StateM σ) PUnit} {s : σ} (h : (x.run s).1.isOk = true) :
    x.run s = (.ok (), (x.run s).2) := by
  rcases hrun : x.run s with ⟨e | _, s'⟩
  · rw [hrun] at h
    cases h
  · rfl

theorem ok_of_check {result : Except ε α × σ} {view : σ → β} {seen : β}
    (h : result.map Except.isOk view = (true, seen)) : ∃ a s, result = (.ok a, s) ∧ view s = seen := by
  rcases result with ⟨_ | a, s⟩
  · cases h
  · exact ⟨a, s, rfl, congrArg Prod.snd h⟩

theorem error_of_check {result : Except ε α × σ} {view : σ → β} {seen : β}
    (h : result.map Except.isOk view = (false, seen)) : ∃ e s, result = (.error e, s) ∧ view s = seen := by
  rcases result with ⟨e | _, s⟩
  · exact ⟨e, s, rfl, congrArg Prod.snd h⟩
  · cases h

theorem run_tryCatch (x : ExceptT ε (StateM σ) α) (f : ε → ExceptT ε (StateM σ) α) (s : σ) :
    (tryCatch x f).run s =
      match x.run s with
      | (.ok a, s') => (.ok a, s')
      | (.error e, s') => (f e).run s' := by
  have h : (tryCatch x f).run s =
      (do
        let (r, s) ← x.run s
        (match r with
          | .ok a => pure (.ok a)
          | .error e => (f e).run : StateM σ (Except ε α)) s : Id (Except ε α × σ)) := rfl
  rw [h]
  rcases x.run s with ⟨_ | a, s'⟩ <;> rfl

@[simp]
theorem run_adapt (x : ExceptT ε (StateM σ) α) (f : ε → δ) (s : σ) :
    (x.adapt f).run s = ((x.run s).1.mapError f, (x.run s).2) :=
  rfl

def Leads (r : σ → σ → Prop) (x : ExceptT ε (StateM σ) α) : Prop :=
  ∀ s, r s (x.run s).2

section Leads

variable {r : σ → σ → Prop}

theorem leads_pure (hrefl : ∀ s, r s s) (a : α) : Leads r (pure a : ExceptT ε (StateM σ) α) :=
  hrefl

theorem leads_bind (htrans : ∀ s t u, r s t → r t u → r s u) {x : ExceptT ε (StateM σ) α}
    {f : α → ExceptT ε (StateM σ) β} (hx : Leads r x) (hf : ∀ a, Leads r (f a)) : Leads r (x >>= f) := by
  intro s
  have hfirst := hx s
  rw [run_bind]
  rcases hrun : x.run s with ⟨e | a, next⟩
  · rwa [hrun] at hfirst
  · rw [hrun] at hfirst
    exact htrans _ _ _ hfirst (hf a next)

theorem leads_tryCatch (htrans : ∀ s t u, r s t → r t u → r s u) {x : ExceptT ε (StateM σ) α}
    {f : ε → ExceptT ε (StateM σ) α} (hx : Leads r x) (hf : ∀ e, Leads r (f e)) :
    Leads r (tryCatch x f) := by
  intro s
  have hfirst := hx s
  rw [run_tryCatch]
  rcases hrun : x.run s with ⟨e | a, next⟩
  · rw [hrun] at hfirst
    exact htrans _ _ _ hfirst (hf e next)
  · rwa [hrun] at hfirst

theorem leads_mapM (hrefl : ∀ s, r s s) (htrans : ∀ s t u, r s t → r t u → r s u)
    {f : α → ExceptT ε (StateM σ) β} {list : List α} (hf : ∀ a ∈ list, Leads r (f a)) :
    Leads r (list.mapM f) := by
  induction list with
  | nil => exact leads_pure hrefl []
  | cons a rest ih =>
    rw [List.forall_mem_cons] at hf
    rw [List.mapM_cons]
    exact leads_bind htrans hf.1 fun b => leads_bind htrans (ih hf.2) fun bs => leads_pure hrefl (b :: bs)

theorem leads_forM (hrefl : ∀ s, r s s) (htrans : ∀ s t u, r s t → r t u → r s u)
    {f : α → ExceptT ε (StateM σ) PUnit} {list : List α} (hf : ∀ a ∈ list, Leads r (f a)) :
    Leads r (list.forM f) := by
  induction list with
  | nil => exact leads_pure hrefl PUnit.unit
  | cons a rest ih =>
    rw [List.forall_mem_cons] at hf
    exact leads_bind htrans hf.1 fun _ => ih hf.2

end Leads

theorem run_foldlM {f : β → α → ExceptT ε (StateM σ) β} {g : β → α → β} {s : σ}
    (h : ∀ b a, (f b a).run s = (.ok (g b a), s)) (list : List α) (b : β) :
    (list.foldlM f b).run s = (.ok (list.foldl g b), s) := by
  induction list generalizing b with
  | nil => rfl
  | cons a rest ih =>
    rw [List.foldlM_cons, run_bind_ok (h b a), List.foldl_cons, ih]

end ClientForge
