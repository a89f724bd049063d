import ClientForge.Proofs.Entries
import ClientForge.Value.Basic

namespace ClientForge.Value

variable {base lower upper entries : Entries Value} {value current found : Value} {path : List String}

def IsLeaf (value : Value) : Prop :=
  ∀ entries, value ≠ .object entries

inductive Distinct : Value → Prop
  | object {entries : Entries Value} :
    (Entries.keys entries).Nodup → (∀ p ∈ entries, Distinct p.2) → Distinct (.object entries)
  | leaf {value : Value} : value.IsLeaf → Distinct value

theorem distinct_object :
    Distinct (.object entries) ↔ (Entries.keys entries).Nodup ∧ ∀ p ∈ entries, Distinct p.2 := by
  constructor
  · intro h
    cases h with
    | object hnodup hentries => exact ⟨hnodup, hentries⟩
    | leaf hleaf => exact absurd rfl (hleaf entries)
  · rintro ⟨hnodup, hentries⟩
    exact .object hnodup hentries

mutual

def isDistinct : Value → Bool
  | .object entries => decide (Entries.keys entries).Nodup && areDistinct entries
  | _ => true

def areDistinct : List (String × Value) → Bool
  | [] => true
  | (_, value) :: rest => isDistinct value && areDistinct rest

end

mutual

theorem isDistinct_iff : (value : Value) → (isDistinct value = true ↔ Distinct value)
  | .object entries => by rw [isDistinct, Bool.and_eq_true, decide_eq_true_eq, areDistinct_iff entries, distinct_object]
  | .null | .bool _ | .int _ | .real _ | .text _ | .moment _ | .list _ => iff_of_true rfl (.leaf nofun)

theorem areDistinct_iff : (entries : List (String × Value)) → (areDistinct entries = true ↔ ∀ p ∈ entries, Distinct p.2)
  | [] => by simp [areDistinct]
  | (_, value) :: rest => by
    rw [areDistinct, Bool.and_eq_true, isDistinct_iff value, areDistinct_iff rest, List.forall_mem_cons]

end

instance : Decidable (Distinct value) :=
  decidable_of_iff _ (isDistinct_iff value)

theorem Distinct.of_get? (h : Distinct (.object entries)) {key : String} (hget : Entries.get? entries key = some value) :
    Distinct value :=
  (distinct_object.mp h).2 _ (Entries.mem_of_get? hget)

theorem overlayAt_leaf (current : Option Value) (h : value.IsLeaf) : overlayAt current value = value := by
  cases value with
  | object entries => exact absurd rfl (h entries)
  | _ => simp [overlayAt]

theorem overlayAt_none (value : Value) : overlayAt none value = value := by
  cases value <;> simp [overlayAt]

theorem overlayAt_object_of_leaf (h : current.IsLeaf) : overlayAt (some current) (.object upper) = .object upper := by
  cases current with
  | object entries => exact absurd rfl (h entries)
  | _ => simp [overlayAt]

theorem overlayAt_objects : overlayAt (some (.object base)) (.object upper) = .object (overlay base upper) := by
  rw [overlayAt]

theorem leaf_or_object (value : Value) : value.IsLeaf ∨ ∃ entries, value = .object entries := by
  by_cases h : value.IsLeaf
  · exact .inl h
  · simp only [IsLeaf, not_forall, not_not] at h
    exact .inr h

theorem get?_overlay (hupper : (Entries.keys upper).Nodup) (key : String) :
    Entries.get? (overlay base upper) key =
      ((Entries.get? upper key).map (overlayAt (Entries.get? base key))).or (Entries.get? base key) := by
  induction upper generalizing base with
  | nil => simp [overlay, Entries.get?]
  | cons p rest ih =>
    obtain ⟨first, value⟩ := p
    rw [Entries.keys, List.map_cons, List.nodup_cons] at hupper
    rw [overlay, ih hupper.2, Entries.get?]
    by_cases h : first = key
    · subst h
      rw [Entries.get?_eq_none_of_not_mem hupper.1, Entries.get?_put_self]
      simp
    · rw [Entries.get?_put_of_ne _ _ h, if_neg h]

theorem get?_overlay_of_not_mem {key : String} (h : key ∉ Entries.keys upper) :
    Entries.get? (overlay base upper) key = Entries.get? base key := by
  induction upper generalizing base with
  | nil => rw [overlay]
  | cons p rest ih =>
    obtain ⟨first, value⟩ := p
    simp only [Entries.keys, List.map_cons, List.mem_cons, not_or] at h
    rw [overlay, ih h.2, Entries.get?_put_of_ne _ _ (Ne.symm h.1)]

theorem filter_overlay (keep : String → Bool) (h : ∀ key ∈ Entries.keys upper, keep key = false) :
    ((overlay base upper).filter fun p => keep p.1) = base.filter fun p => keep p.1 := by
  induction upper generalizing base with
  | nil => rw [overlay]
  | cons p rest ih =>
    obtain ⟨first, value⟩ := p
    simp only [Entries.keys, List.map_cons, List.forall_mem_cons] at h
    rw [overlay, ih h.2, Entries.filter_put keep _ _ h.1]

theorem keys_overlay (hupper : (Entries.keys upper).Nodup) :
    Entries.keys (overlay base upper) =
      Entries.keys base ++ (Entries.keys upper).filter fun key => key ∉ Entries.keys base := by
  induction upper generalizing base with
  | nil => simp [overlay, Entries.keys]
  | cons p rest ih =>
    obtain ⟨first, value⟩ := p
    have hkeys : Entries.keys ((first, value) :: rest) = first :: Entries.keys rest := rfl
    rw [hkeys, List.nodup_cons] at hupper
    rw [overlay, ih hupper.2, hkeys]
    by_cases h : first ∈ Entries.keys base
    · rw [Entries.keys_put_of_mem _ h, List.filter_cons_of_neg (by simpa using h)]
    · rw [Entries.keys_put_of_not_mem _ h, List.filter_cons_of_pos (by simpa using h), List.append_assoc,
        List.singleton_append]
      congr 2
      apply List.filter_congr
      intro key hkey
      have hne : key ≠ first := by
        rintro rfl
        exact hupper.1 hkey
      simp [hne]

theorem nodup_keys_overlay (hbase : (Entries.keys base).Nodup) (hupper : (Entries.keys upper).Nodup) :
    (Entries.keys (overlay base upper)).Nodup := by
  rw [keys_overlay hupper]
  apply hbase.append (hupper.filter _)
  intro key hkey hnew
  simp [hkey] at hnew

theorem nil_overlay (h : (Entries.keys upper).Nodup) : overlay [] upper = upper := by
  have hnil : (Entries.keys ([] : Entries Value)).Nodup := List.nodup_nil
  apply Entries.eq_of_get?_eq (nodup_keys_overlay hnil h)
  · rw [keys_overlay h]
    simp [Entries.keys]
  · intro key _
    rw [get?_overlay h]
    cases Entries.get? upper key with
    | none => rfl
    | some value => simp [Entries.get?, overlayAt_none]

theorem overlay_eq_self (hbase : (Entries.keys base).Nodup) (hupper : (Entries.keys upper).Nodup)
    (h : ∀ key value, Entries.get? upper key = some value →
      ∃ current, Entries.get? base key = some current ∧ overlayAt (some current) value = current) :
    overlay base upper = base := by
  have hknown : ∀ key ∈ Entries.keys upper, key ∈ Entries.keys base := by
    intro key hkey
    obtain ⟨value, hvalue⟩ := Option.isSome_iff_exists.mp (Entries.contains_iff.mpr hkey)
    obtain ⟨current, hcurrent, -⟩ := h key value hvalue
    exact Entries.contains_iff.mp (Option.isSome_iff_exists.mpr ⟨current, hcurrent⟩)
  apply Entries.eq_of_get?_eq (nodup_keys_overlay hbase hupper)
  · rw [keys_overlay hupper, List.filter_eq_nil_iff.mpr, List.append_nil]
    intro key hkey
    simpa using hknown key hkey
  · intro key _
    rw [get?_overlay hupper]
    cases hvalue : Entries.get? upper key with
    | none => rfl
    | some value =>
      obtain ⟨current, hcurrent, hsame⟩ := h key value hvalue
      rw [hcurrent, Option.map_some, hsame, Option.some_or]

theorem Distinct.overlayAt_self (h : Distinct value) : overlayAt (some value) value = value := by
  induction h with
  | leaf hleaf => exact overlayAt_leaf _ hleaf
  | @object entries hnodup hentries ih =>
    rw [overlayAt_objects, overlay_eq_self hnodup hnodup]
    intro key value hvalue
    exact ⟨value, hvalue, ih _ (Entries.mem_of_get? hvalue)⟩

theorem Distinct.overlayAt_overlayAt (hvalue : Distinct value) (hcurrent : Distinct current) :
    overlayAt (some (overlayAt (some current) value)) value = overlayAt (some current) value := by
  induction hvalue generalizing current with
  | leaf hleaf => rw [overlayAt_leaf _ hleaf, overlayAt_leaf _ hleaf]
  | @object upper hnodup hupper ih =>
    rcases leaf_or_object current with hleaf | ⟨base, rfl⟩
    · rw [overlayAt_object_of_leaf hleaf, (Distinct.object hnodup hupper).overlayAt_self]
    · have hbase := (distinct_object.mp hcurrent).1
      rw [overlayAt_objects, overlayAt_objects, overlay_eq_self (nodup_keys_overlay hbase hnodup) hnodup]
      intro key value hvalue
      have hmem := Entries.mem_of_get? hvalue
      rw [get?_overlay hnodup, hvalue, Option.map_some, Option.some_or]
      cases hfound : Entries.get? base key with
      | none =>
        rw [overlayAt_none]
        exact ⟨value, rfl, (hupper _ hmem).overlayAt_self⟩
      | some found => exact ⟨_, rfl, ih _ hmem (hcurrent.of_get? hfound)⟩

theorem Distinct.overlayAt_absorb (hvalue : Distinct value) (hcurrent : Distinct current) :
    overlayAt (some current) (overlayAt (some current) value) = overlayAt (some current) value := by
  induction hvalue generalizing current with
  | leaf hleaf => rw [overlayAt_leaf _ hleaf, overlayAt_leaf _ hleaf]
  | @object upper hnodup hupper ih =>
    rcases leaf_or_object current with hleaf | ⟨base, rfl⟩
    · rw [overlayAt_object_of_leaf hleaf, overlayAt_object_of_leaf hleaf]
    · have hbase := (distinct_object.mp hcurrent).1
      have hmerged := nodup_keys_overlay hbase hnodup
      rw [overlayAt_objects, overlayAt_objects]
      congr 1
      apply Entries.eq_of_get?_eq (nodup_keys_overlay hbase hmerged)
      · rw [keys_overlay hmerged, keys_overlay hnodup, List.filter_append, List.filter_filter]
        simp
      · intro key _
        rw [get?_overlay hmerged, get?_overlay hnodup]
        cases hfound : Entries.get? base key with
        | none => cases Entries.get? upper key <;> simp [overlayAt_none]
        | some found =>
          cases hvalue : Entries.get? upper key with
          | none => simp [(hcurrent.of_get? hfound).overlayAt_self]
          | some value => simp [ih _ (Entries.mem_of_get? hvalue) (hcurrent.of_get? hfound)]

def at? : List String → Value → Option Value
  | [], value => some value
  | key :: rest, value => (value.get? key).bind (at? rest)

theorem at?_cons_of_leaf (h : value.IsLeaf) (key : String) (rest : List String) : at? (key :: rest) value = none := by
  cases value with
  | object entries => exact absurd rfl (h entries)
  | _ => rfl

theorem at?_cons_object (entries : Entries Value) (key : String) (rest : List String) :
    at? (key :: rest) (.object entries) = (Entries.get? entries key).bind (at? rest) :=
  rfl

theorem Distinct.of_at? (h : Distinct value) (hat : at? path value = some found) : Distinct found := by
  induction path generalizing value with
  | nil =>
    cases hat
    exact h
  | cons key rest ih =>
    rcases leaf_or_object value with hleaf | ⟨entries, rfl⟩
    · rw [at?_cons_of_leaf hleaf] at hat
      cases hat
    · rw [at?_cons_object] at hat
      obtain ⟨child, hchild, hat⟩ := Option.bind_eq_some_iff.mp hat
      exact ih (h.of_get? hchild) hat

theorem Distinct.at?_overlayAt_objects (h : Distinct value) (hlower : at? path current = some (.object lower))
    (hupper : at? path value = some (.object upper)) :
    at? path (overlayAt (some current) value) = some (.object (overlay lower upper)) := by
  induction path generalizing current value with
  | nil =>
    cases hlower
    cases hupper
    rw [overlayAt_objects, at?]
  | cons key rest ih =>
    rcases leaf_or_object current with hleaf | ⟨below, rfl⟩
    · simp [at?_cons_of_leaf hleaf] at hlower
    rcases leaf_or_object value with hleaf | ⟨above, rfl⟩
    · simp [at?_cons_of_leaf hleaf] at hupper
    obtain ⟨old, hold, hlower⟩ := Option.bind_eq_some_iff.mp hlower
    obtain ⟨new, hnew, hupper⟩ := Option.bind_eq_some_iff.mp hupper
    rw [Value.get?] at hold hnew
    rw [overlayAt_objects, at?_cons_object, get?_overlay (distinct_object.mp h).1, hold, hnew]
    exact ih (h.of_get? hnew) hlower hupper

theorem Distinct.at?_overlayAt_leaf (h : Distinct value) (current : Option Value) (hleaf : found.IsLeaf)
    (hat : at? path value = some found) : at? path (overlayAt current value) = some found := by
  induction path generalizing current value with
  | nil =>
    cases hat
    rw [overlayAt_leaf current hleaf, at?]
  | cons key rest ih =>
    rcases leaf_or_object value with hvalue | ⟨above, rfl⟩
    · rwa [overlayAt_leaf current hvalue]
    cases current with
    | none => rwa [overlayAt_none]
    | some current =>
      rcases leaf_or_object current with hcurrent | ⟨below, rfl⟩
      · rwa [overlayAt_object_of_leaf hcurrent]
      obtain ⟨new, hnew, hat⟩ := Option.bind_eq_some_iff.mp hat
      rw [Value.get?] at hnew
      rw [overlayAt_objects, at?_cons_object, get?_overlay (distinct_object.mp h).1, hnew]
      exact ih (h.of_get? hnew) _ hat

/-- The overlay of objects keeps what is there, wins at every leaf and keeps the order of keys, at any depth. -/
theorem overlay_absorbs (hbase : Distinct (.object base)) (hupper : Distinct (.object upper)) :
    overlay base [] = base ∧ overlay [] base = base ∧ overlay base base = base ∧
      overlay (overlay base upper) upper = overlay base upper ∧
      overlay base (overlay base upper) = overlay base upper ∧
      (∀ path lower higher, at? path (.object base) = some (.object lower) →
        at? path (.object upper) = some (.object higher) →
        ∃ merged, at? path (.object (overlay base upper)) = some (.object merged) ∧
          Entries.keys merged = Entries.keys lower ++ (Entries.keys higher).filter (· ∉ Entries.keys lower)) ∧
      ∀ path found, found.IsLeaf → at? path (.object upper) = some found →
        at? path (.object (overlay base upper)) = some found := by
  have hself := hbase.overlayAt_self
  have hagain := hupper.overlayAt_overlayAt hbase
  have habsorb := hupper.overlayAt_absorb hbase
  simp only [overlayAt_objects, object.injEq] at hself hagain habsorb
  refine ⟨by rw [overlay], nil_overlay (distinct_object.mp hbase).1, hself, hagain, habsorb, ?_, ?_⟩
  · intro path lower higher hlower hhigher
    refine ⟨overlay lower higher, ?_, keys_overlay (distinct_object.mp (hupper.of_at? hhigher)).1⟩
    rw [← overlayAt_objects]
    exact hupper.at?_overlayAt_objects hlower hhigher
  · intro path found hleaf hfound
    rw [← overlayAt_objects]
    exact hupper.at?_overlayAt_leaf _ hleaf hfound

theorem overlay_absorbs_columns :
    let base : Entries Value :=
      [("h", .object [("type", .text "string"), ("description", .text "Columns")]), ("v", .null)]
    let upper : Entries Value := [("v", .object []), ("h", .object [("default", .int 1), ("type", .text "list")])]
    Distinct (.object base) ∧ Distinct (.object upper) ∧
      overlay base upper =
        [("h", .object [("type", .text "list"), ("description", .text "Columns"), ("default", .int 1)]),
          ("v", .object [])] ∧
      overlay base base = base ∧ overlay (overlay base upper) upper = overlay base upper ∧
      overlay base (overlay base upper) = overlay base upper ∧
      (∃ merged, at? ["h"] (.object (overlay base upper)) = some (.object merged) ∧
        Entries.keys merged = ["type", "description", "default"]) ∧
      at? ["h", "type"] (.object (overlay base upper)) = some (.text "list") := by
  intro base upper
  have hbase : Distinct (.object base) := by decide
  have hupper : Distinct (.object upper) := by decide
  obtain ⟨-, -, hself, hagain, habsorb, hkeys, hleaf⟩ := overlay_absorbs hbase hupper
  refine ⟨hbase, hupper, ?_, hself, hagain, habsorb, ?_, ?_⟩
  · simp [base, upper, overlay, overlayAt, Entries.get?, Entries.put]
  · exact hkeys ["h"] _ _ rfl rfl
  · exact hleaf ["h", "type"] _ (by simp [IsLeaf]) rfl

end ClientForge.Value
