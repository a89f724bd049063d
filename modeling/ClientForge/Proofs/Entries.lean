import ClientForge.Entries
import Mathlib.Data.List.Nodup

namespace ClientForge.Entries

variable {α : Type}

theorem contains_iff {entries : Entries α} {key : String} :
    contains entries key = true ↔ key ∈ keys entries := by
  induction entries with
  | nil => simp [contains, get?, keys]
  | cons p rest ih =>
    rw [contains, keys] at ih
    by_cases h : p.1 = key
    · simp [contains, get?, keys, h]
    · simp [contains, get?, keys, h, Ne.symm h, ih]

theorem get?_eq_none_of_not_mem {entries : Entries α} {key : String} (h : key ∉ keys entries) :
    get? entries key = none := by
  rw [← contains_iff, contains, Bool.not_eq_true] at h
  exact Option.isSome_eq_false_iff.mp h |> Option.isNone_iff_eq_none.mp

theorem get?_map_of_injective {f : String → String} (hf : Function.Injective f) (names : List String)
    (value : String → α) (key : String) :
    get? (names.map fun name => (f name, value name)) (f key) =
      if key ∈ names then some (value key) else none := by
  induction names with
  | nil => rfl
  | cons name rest ih =>
    by_cases h : name = key
    · simp [get?, h]
    · simp [get?, hf.ne h, Ne.symm h, ih]

theorem get?_filter (keep : String → Bool) (entries : Entries α) (key : String) :
    get? (entries.filter fun p => keep p.1) key = if keep key then get? entries key else none := by
  induction entries with
  | nil => simp [get?]
  | cons p rest ih =>
    by_cases hk : p.1 = key
    · subst hk
      cases hkeep : keep p.1 <;> simp [hkeep, get?, ih]
    · cases hkeep : keep p.1 <;> simp [hkeep, get?, hk, ih]

theorem get?_erase_of_ne (entries : Entries α) {key other : String} (h : other ≠ key) :
    get? (erase entries key) other = get? entries other := by
  rw [erase, get?_filter (fun k => decide (k ≠ key)), if_pos (by simpa using h)]

theorem filter_erase (entries : Entries α) (key : String) (others : List String) :
    ((erase entries key).filter fun p => !others.contains p.1) =
      entries.filter fun p => !(key :: others).contains p.1 := by
  rw [erase, List.filter_filter]
  apply List.filter_congr
  intro p _
  rw [List.contains_cons, Bool.not_or, Bool.and_comm]
  congr 1
  rw [Bool.eq_iff_iff]
  simp

theorem put_of_not_mem {entries : Entries α} {key : String} (value : α) (h : key ∉ keys entries) :
    put entries key value = entries ++ [(key, value)] := by
  induction entries with
  | nil => rfl
  | cons p rest ih =>
    rw [keys, List.map_cons, List.mem_cons, not_or] at h
    rw [put, if_neg (Ne.symm h.1), ih h.2]
    rfl

theorem keys_put_of_not_mem {entries : Entries α} {key : String} (value : α) (h : key ∉ keys entries) :
    keys (put entries key value) = keys entries ++ [key] := by
  rw [put_of_not_mem value h, keys, List.map_append]
  rfl

theorem keys_put_of_mem {entries : Entries α} {key : String} (value : α) (h : key ∈ keys entries) :
    keys (put entries key value) = keys entries := by
  induction entries with
  | nil => cases h
  | cons p rest ih =>
    rw [put]
    split
    · next hkey =>
      subst hkey
      rfl
    · next hkey =>
      rw [keys, List.map_cons, List.mem_cons] at h
      rw [keys, List.map_cons]
      exact congrArg (p.1 :: ·) (ih (h.resolve_left (Ne.symm hkey)))

theorem mem_of_get? {entries : Entries α} {key : String} {value : α} (h : get? entries key = some value) :
    (key, value) ∈ entries := by
  induction entries with
  | nil => cases h
  | cons p rest ih =>
    rw [get?] at h
    split at h
    · next hkey =>
      cases h
      rw [← hkey]
      exact List.mem_cons_self
    · exact List.mem_cons_of_mem _ (ih h)

theorem get?_eq_some_iff {entries : Entries α} (hnodup : (keys entries).Nodup) {key : String} {value : α} :
    get? entries key = some value ↔ (key, value) ∈ entries := by
  refine ⟨mem_of_get?, fun hmem => ?_⟩
  have hkey : key ∈ keys entries := List.mem_map_of_mem (f := Prod.fst) hmem
  obtain ⟨found, hfound⟩ := Option.isSome_iff_exists.mp (contains_iff.mpr hkey)
  have hsame := List.inj_on_of_nodup_map hnodup (mem_of_get? hfound) hmem rfl
  rw [hfound, (Prod.mk.inj hsame).2]

theorem mem_put {entries : Entries α} {key : String} {value : α} {p : String × α}
    (h : p ∈ put entries key value) : p ∈ entries ∨ p = (key, value) := by
  induction entries with
  | nil => exact .inr (List.mem_singleton.mp h)
  | cons first rest ih =>
    rw [put] at h
    split at h
    · next hkey =>
      rcases List.mem_cons.mp h with rfl | hrest
      · exact .inr (by rw [hkey])
      · exact .inl (List.mem_cons_of_mem _ hrest)
    · rcases List.mem_cons.mp h with rfl | hrest
      · exact .inl List.mem_cons_self
      · exact (ih hrest).imp_left (List.mem_cons_of_mem _)

theorem nodup_keys_put {entries : Entries α} (h : (keys entries).Nodup) (key : String) (value : α) :
    (keys (put entries key value)).Nodup := by
  by_cases hkey : key ∈ keys entries
  · rwa [keys_put_of_mem value hkey]
  · rw [keys_put_of_not_mem value hkey, ← List.concat_eq_append]
    exact h.concat hkey

theorem mem_keys_put {entries : Entries α} {key other : String} {value : α} :
    other ∈ keys (put entries key value) ↔ other ∈ keys entries ∨ other = key := by
  rw [← contains_iff, ← contains_iff, contains, contains]
  by_cases h : key = other
  · subst h
    simp [get?_put_self]
  · simp [get?_put_of_ne entries value h, Ne.symm h]

theorem filter_put (keep : String → Bool) (entries : Entries α) {key : String} (value : α) (hkeep : keep key = false) :
    ((put entries key value).filter fun p => keep p.1) = entries.filter fun p => keep p.1 := by
  induction entries with
  | nil => simp [put, hkeep]
  | cons p rest ih =>
    by_cases h : p.1 = key
    · simp [put, h, hkeep]
    · rw [put, if_neg h, List.filter_cons, List.filter_cons, ih]

theorem mem_keys_putAll {entries other : Entries α} {key : String} :
    key ∈ keys (putAll entries other) ↔ key ∈ keys entries ∨ key ∈ keys other := by
  induction other generalizing entries with
  | nil => simp [putAll, keys]
  | cons p rest ih =>
    change key ∈ keys (putAll (put entries p.1 p.2) rest) ↔ _
    rw [ih, mem_keys_put, or_assoc]
    simp [keys]

theorem get?_putAll_of_not_mem {entries other : Entries α} {key : String} (h : key ∉ keys other) :
    get? (putAll entries other) key = get? entries key := by
  induction other generalizing entries with
  | nil => rfl
  | cons p rest ih =>
    rw [keys, List.map_cons, List.mem_cons, not_or] at h
    change get? (putAll (put entries p.1 p.2) rest) key = _
    rw [ih h.2, get?_put_of_ne _ _ (Ne.symm h.1)]

theorem get?_putAll_of_mem {entries other : Entries α} (hnodup : (keys other).Nodup) {p : String × α}
    (hp : p ∈ other) : get? (putAll entries other) p.1 = some p.2 := by
  induction other generalizing entries with
  | nil => cases hp
  | cons first rest ih =>
    rw [keys, List.map_cons, List.nodup_cons] at hnodup
    change get? (putAll (put entries first.1 first.2) rest) p.1 = _
    rcases List.mem_cons.mp hp with rfl | hrest
    · rw [get?_putAll_of_not_mem hnodup.1, get?_put_self]
    · exact ih hnodup.2 hrest

theorem nodup_keys_putAll {entries : Entries α} (h : (keys entries).Nodup) (other : Entries α) :
    (keys (putAll entries other)).Nodup := by
  induction other generalizing entries with
  | nil => exact h
  | cons p rest ih => exact ih (nodup_keys_put h p.1 p.2)

theorem putAll_perm {entries other : Entries α} (hentries : (keys entries).Nodup) (hother : (keys other).Nodup) :
    (putAll entries other).Perm (entries.filter (fun p => p.1 ∉ keys other) ++ other) := by
  have hleft : (putAll entries other).Nodup := (nodup_keys_putAll hentries other).of_map Prod.fst
  have hright : (entries.filter (fun p => p.1 ∉ keys other) ++ other).Nodup := by
    refine List.nodup_append.mpr ⟨(hentries.of_map Prod.fst).filter _, hother.of_map Prod.fst, ?_⟩
    rintro p hp q hq rfl
    have hnew := of_decide_eq_true (List.mem_filter.mp hp).2
    exact hnew (List.mem_map_of_mem hq)
  rw [List.perm_ext_iff_of_nodup hleft hright]
  rintro ⟨key, value⟩
  rw [← get?_eq_some_iff (nodup_keys_putAll hentries other), List.mem_append, List.mem_filter]
  by_cases hkey : key ∈ keys other
  · obtain ⟨⟨_, found⟩, hfound, rfl⟩ := List.mem_map.mp hkey
    rw [get?_putAll_of_mem hother hfound, ← get?_eq_some_iff hother, (get?_eq_some_iff hother).mpr hfound]
    simp [hkey]
  · rw [get?_putAll_of_not_mem hkey, get?_eq_some_iff hentries]
    have hold : (key, value) ∉ other := fun hmem => hkey (List.mem_map_of_mem hmem)
    simp [hkey, hold]

theorem mem_putAll {entries other : Entries α} {p : String × α} (h : p ∈ putAll entries other) :
    p ∈ entries ∨ p ∈ other := by
  induction other generalizing entries with
  | nil => exact .inl h
  | cons q rest ih =>
    rcases ih h with hput | hrest
    · rcases mem_put hput with hold | rfl
      · exact .inl hold
      · exact .inr List.mem_cons_self
    · exact .inr (List.mem_cons_of_mem _ hrest)

theorem foldl_put (keep : String → Bool) {collected entries : Entries α}
    (hnodup : (keys (collected ++ entries)).Nodup) :
    entries.foldl (fun collected p => if keep p.1 then put collected p.1 p.2 else collected) collected =
      collected ++ entries.filter fun p => keep p.1 := by
  induction entries generalizing collected with
  | nil => simp
  | cons p rest ih =>
    rw [List.foldl_cons, List.filter_cons]
    have hmem : p.1 ∉ keys collected := by
      rw [keys, List.map_append, List.map_cons] at hnodup
      intro h
      exact (List.nodup_append.mp hnodup).2.2 _ h _ List.mem_cons_self rfl
    cases keep p.1 with
    | true =>
      rw [if_pos rfl, if_pos rfl, put_of_not_mem _ hmem, ih (by simpa using hnodup), List.append_assoc]
      rfl
    | false =>
      rw [if_neg Bool.false_ne_true, if_neg Bool.false_ne_true, ih]
      refine List.Nodup.sublist ?_ hnodup
      exact ((List.sublist_cons_self p rest).append_left collected).map Prod.fst

theorem get?_append (entries other : Entries α) (key : String) :
    get? (entries ++ other) key = (get? entries key).or (get? other key) := by
  induction entries with
  | nil => simp [get?]
  | cons p rest ih => by_cases h : p.1 = key <;> simp [get?, h, ih]

theorem get?_filterMap {entries : Entries (Option α)} (hnodup : (keys entries).Nodup) (key : String) :
    get? (entries.filterMap fun p => p.2.map (Prod.mk p.1)) key = (get? entries key).join := by
  induction entries with
  | nil => rfl
  | cons p rest ih =>
    obtain ⟨first, value⟩ := p
    simp only [keys, List.map_cons, List.nodup_cons] at hnodup
    specialize ih hnodup.2
    by_cases h : first = key
    · subst h
      cases value with
      | none => simpa [get?, get?_eq_none_of_not_mem hnodup.1] using ih
      | some value => simp [get?]
    · cases value <;> simp [get?, h, ih]

theorem get?_map {β : Type} (f : α → β) (entries : Entries α) (key : String) :
    get? (entries.map fun p => (p.1, f p.2)) key = (get? entries key).map f := by
  induction entries with
  | nil => rfl
  | cons p rest ih => by_cases h : p.1 = key <;> simp [get?, h, ih]

theorem eq_of_get?_eq {entries other : Entries α} (hnodup : (keys entries).Nodup) (hkeys : keys entries = keys other)
    (h : ∀ key ∈ keys entries, get? entries key = get? other key) : entries = other := by
  induction entries generalizing other with
  | nil =>
    rw [keys, keys, List.map_nil] at hkeys
    exact (List.map_eq_nil_iff.mp hkeys.symm).symm
  | cons p rest ih =>
    cases other with
    | nil => simp [keys] at hkeys
    | cons q others =>
      obtain ⟨key, value⟩ := p
      obtain ⟨key', value'⟩ := q
      simp only [keys, List.map_cons, List.cons.injEq, List.nodup_cons] at hkeys hnodup
      obtain ⟨rfl, hkeys⟩ := hkeys
      have hvalue : value = value' := by simpa [get?] using h key List.mem_cons_self
      have hrest : rest = others := by
        apply ih hnodup.2 hkeys
        intro found hfound
        have hne : key ≠ found := by
          rintro rfl
          exact hnodup.1 hfound
        simpa [get?, hne] using h found (List.mem_cons_of_mem _ hfound)
      rw [hvalue, hrest]

end ClientForge.Entries
