import ClientForge.Choice.Irregular
import ClientForge.Proofs.Value.Overlay

namespace ClientForge

namespace Value

variable {base : Entries Value} {layers : List (Entries Value)} {value found : Value} {path : List String}

/-- There is nothing at the path, nor is it cut off by a leaf on the way. -/
def Silent (path : List String) (value : Value) : Prop :=
  at? path value = none ∧ ∀ before, before <+: path → before ≠ path → ∀ found, at? before value = some found → ¬found.IsLeaf

theorem silent_cons_object {key : String} {rest : List String} {entries : Entries Value} :
    Silent (key :: rest) (.object entries) ↔ ∀ child, Entries.get? entries key = some child → Silent rest child := by
  constructor
  · rintro ⟨hnone, hopen⟩ child hchild
    rw [at?_cons_object, hchild] at hnone
    refine ⟨hnone, fun before hbefore hne found hfound => ?_⟩
    apply hopen (key :: before) (List.cons_prefix_cons.mpr ⟨rfl, hbefore⟩)
    · simpa using hne
    · rw [at?_cons_object, hchild]
      exact hfound
  · intro h
    constructor
    · rw [at?_cons_object, Option.bind_eq_none_iff]
      exact fun child hchild => (h child hchild).1
    · intro before hbefore hne found hfound
      cases before with
      | nil =>
        cases hfound
        exact fun hleaf => hleaf entries rfl
      | cons first others =>
        obtain ⟨rfl, hothers⟩ := List.cons_prefix_cons.mp hbefore
        obtain ⟨child, hchild, hfound⟩ := Option.bind_eq_some_iff.mp hfound
        exact (h child hchild).2 others hothers (fun heq => hne (by rw [heq])) found hfound

theorem Distinct.at?_overlayAt_of_silent (h : Distinct value) (hsilent : Silent path value) (current : Value) :
    at? path (overlayAt (some current) value) = at? path current := by
  induction path generalizing current value with
  | nil => cases hsilent.1
  | cons key rest ih =>
    rcases leaf_or_object value with hleaf | ⟨upper, rfl⟩
    · exact absurd hleaf (hsilent.2 [] List.nil_prefix (List.cons_ne_nil key rest).symm value rfl)
    rcases leaf_or_object current with hleaf | ⟨base, rfl⟩
    · rw [overlayAt_object_of_leaf hleaf, hsilent.1, at?_cons_of_leaf hleaf]
    rw [overlayAt_objects, at?_cons_object, at?_cons_object, get?_overlay (distinct_object.mp h).1]
    cases hnew : Entries.get? upper key with
    | none => rfl
    | some new =>
      have hchild := silent_cons_object.mp hsilent new hnew
      cases Entries.get? base key with
      | none =>
        rw [Option.map_some, Option.some_or, overlayAt_none]
        exact hchild.1
      | some old => exact ih (h.of_get? hnew) hchild old

theorem Distinct.origin_of_overlayAt (h : Distinct value) (current : Option Value) (hleaf : found.IsLeaf)
    (hat : at? path (overlayAt current value) = some found) :
    at? path value = some found ∨ ∃ old, current = some old ∧ at? path old = some found := by
  induction path generalizing current value with
  | nil =>
    left
    rcases leaf_or_object value with hvalue | ⟨upper, rfl⟩
    · rwa [overlayAt_leaf current hvalue] at hat
    cases hat
    rcases current with _ | current
    · rw [overlayAt_none, at?]
    rcases leaf_or_object current with hcurrent | ⟨base, rfl⟩
    · rw [overlayAt_object_of_leaf hcurrent, at?]
    · rw [overlayAt_objects] at hleaf
      exact absurd rfl (hleaf _)
  | cons key rest ih =>
    rcases leaf_or_object value with hvalue | ⟨upper, rfl⟩
    · rw [overlayAt_leaf current hvalue] at hat
      exact .inl hat
    rcases current with _ | current
    · rw [overlayAt_none] at hat
      exact .inl hat
    rcases leaf_or_object current with hcurrent | ⟨base, rfl⟩
    · rw [overlayAt_object_of_leaf hcurrent] at hat
      exact .inl hat
    rw [overlayAt_objects, at?_cons_object, get?_overlay (distinct_object.mp h).1] at hat
    cases hnew : Entries.get? upper key with
    | none =>
      rw [hnew] at hat
      exact .inr ⟨_, rfl, hat⟩
    | some new =>
      rw [hnew] at hat
      rcases ih (h.of_get? hnew) _ hat with hupper | ⟨old, hold, hbase⟩
      · left
        rw [at?_cons_object, hnew]
        exact hupper
      · refine .inr ⟨_, rfl, ?_⟩
        rw [at?_cons_object, hold]
        exact hbase

theorem at?_foldl_of_silent (hlayers : ∀ layer ∈ layers, Distinct (.object layer))
    (hsilent : ∀ layer ∈ layers, Silent path (.object layer)) (base : Entries Value) :
    at? path (.object (layers.foldl overlay base)) = at? path (.object base) := by
  induction layers generalizing base with
  | nil => rfl
  | cons layer rest ih =>
    rw [List.forall_mem_cons] at hlayers hsilent
    rw [List.foldl_cons, ih hlayers.2 hsilent.2, ← overlayAt_objects,
      hlayers.1.at?_overlayAt_of_silent hsilent.1]

theorem origin_of_foldl (hlayers : ∀ layer ∈ layers, Distinct (.object layer)) (hleaf : found.IsLeaf)
    (hat : at? path (.object (layers.foldl overlay base)) = some found) :
    at? path (.object base) = some found ∨ ∃ layer ∈ layers, at? path (.object layer) = some found := by
  induction layers generalizing base with
  | nil => exact .inl hat
  | cons layer rest ih =>
    rw [List.forall_mem_cons] at hlayers
    rw [List.exists_mem_cons_iff]
    rcases ih hlayers.2 hat with hmerged | hrest
    · rw [← overlayAt_objects] at hmerged
      rcases hlayers.1.origin_of_overlayAt _ hleaf hmerged with hlayer | ⟨_, ⟨⟩, hbase⟩
      · exact .inr (.inl hlayer)
      · exact .inl hbase
    · exact .inr (.inr hrest)

theorem at?_empty (hleaf : found.IsLeaf) : at? path (.object []) ≠ some found := by
  cases path with
  | nil =>
    rintro ⟨⟩
    exact hleaf _ rfl
  | cons key rest => nofun

end Value

namespace Irregular

open Value (at? IsLeaf Silent Distinct)

variable {extra table : Entries (Entries Value)}

def keysFor (name : String) (space : Option String) : List String :=
  (space.filter fun space => space ≠ "" ∧ space ≠ name).toList ++ [name]

def applying (name : String) (space : Option String) (extra : Entries (Entries Value)) : List (Entries Value) :=
  [parameters, extra].flatMap fun table => (keysFor name space).filterMap (Entries.get? table)

theorem foldl_layer (table : Entries (Entries Value)) (keys : List String) (base : Entries Value) :
    keys.foldl (fun base key => layer table key base) base =
      (keys.filterMap (Entries.get? table)).foldl Value.overlay base := by
  induction keys generalizing base with
  | nil => rfl
  | cons key rest ih =>
    rw [List.foldl_cons, ih, layer, List.filterMap_cons]
    cases Entries.get? table key <;> rfl

theorem layers_eq (name : String) (space : Option String) (table : Entries (Entries Value)) (base : Entries Value) :
    layers name space table base = ((keysFor name space).filterMap (Entries.get? table)).foldl Value.overlay base := by
  rw [← foldl_layer, keysFor]
  cases space with
  | none => rfl
  | some space => by_cases h : space = "" ∨ space = name <;> simp [layers, Option.filter, ← not_or, h]

theorem corrections_eq (name : String) (space : Option String) (extra : Entries (Entries Value)) :
    corrections name space extra = (applying name space extra).foldl Value.overlay [] := by
  rw [corrections, layers_eq, layers_eq, applying, ← List.foldl_append]
  simp

theorem distinct_applying (hextra : ∀ p ∈ extra, Distinct (.object p.2)) (name : String) (space : Option String) :
    ∀ layer ∈ applying name space extra, Distinct (.object layer) := by
  intro layer hlayer
  obtain ⟨table, htable, hlayer⟩ := List.mem_flatMap.mp hlayer
  obtain ⟨key, -, hget⟩ := List.mem_filterMap.mp hlayer
  have hmem := Entries.mem_of_get? hget
  rcases List.mem_cons.mp htable with rfl | htable
  · have hparameters : ∀ p ∈ parameters, Distinct (.object p.2) := by decide
    exact hparameters _ hmem
  · rw [List.mem_singleton.mp htable] at hmem
    exact hextra _ hmem

theorem nodup_keys_foldl {layers : List (Entries Value)} (hlayers : ∀ layer ∈ layers, Distinct (.object layer))
    {base : Entries Value} (hbase : (Entries.keys base).Nodup) : (Entries.keys (layers.foldl Value.overlay base)).Nodup := by
  induction layers generalizing base with
  | nil => exact hbase
  | cons layer rest ih =>
    rw [List.forall_mem_cons] at hlayers
    exact ih hlayers.2 (Value.nodup_keys_overlay hbase (Value.distinct_object.mp hlayers.1).1)

theorem nodup_keys_corrections (hextra : ∀ p ∈ extra, Distinct (.object p.2)) (name : String) (space : Option String) :
    (Entries.keys (corrections name space extra)).Nodup := by
  rw [corrections_eq]
  exact nodup_keys_foldl (distinct_applying hextra name space) List.nodup_nil

/-- Every leaf of a layer stands in the corrections unless a later layer has a say at its path, and there are no other
leaves. -/
theorem corrections_follow_priority (name : String) (space : Option String)
    (hextra : ∀ p ∈ extra, Distinct (.object p.2)) :
    (∀ before layer after path found, applying name space extra = before ++ layer :: after →
      at? path (.object layer) = some found → found.IsLeaf → (∀ later ∈ after, Silent path (.object later)) →
      at? path (.object (corrections name space extra)) = some found) ∧
    ∀ path found, at? path (.object (corrections name space extra)) = some found → found.IsLeaf →
      ∃ layer ∈ applying name space extra, at? path (.object layer) = some found := by
  have hdistinct := distinct_applying hextra name space
  rw [corrections_eq]
  constructor
  · intro before layer after path found hlayers hfound hleaf hsilent
    rw [hlayers] at hdistinct ⊢
    simp only [List.forall_mem_append, List.forall_mem_cons] at hdistinct
    obtain ⟨-, hlayer, hafter⟩ := hdistinct
    rw [List.foldl_append, List.foldl_cons, Value.at?_foldl_of_silent hafter hsilent, ← Value.overlayAt_objects]
    exact hlayer.at?_overlayAt_leaf _ hleaf hfound
  · intro path found hfound hleaf
    exact (Value.origin_of_foldl hdistinct hleaf hfound).resolve_left (Value.at?_empty hleaf)

theorem corrections_of_cat_nodes :
    let extra : Entries (Entries Value) :=
      [("cat", [("h", .object [("type", .text "string")])]), ("cat.nodes", [("v", .object [("default", .bool true)])])]
    let corrected : Value := .object (corrections "cat.nodes" (some "cat") extra)
    (∀ p ∈ extra, Distinct (.object p.2)) ∧
      at? ["h", "type"] corrected = some (.text "string") ∧
      at? ["h", "description"] corrected = some (.text "Comma-separated list of column names to display") ∧
      ∃ layer ∈ applying "cat.nodes" (some "cat") extra, at? ["v", "default"] (.object layer) = some (.bool true) := by
  intro extra corrected
  have hextra : ∀ p ∈ extra, Distinct (.object p.2) := by decide
  obtain ⟨hkept, horigin⟩ := corrections_follow_priority "cat.nodes" (some "cat") hextra
  refine ⟨hextra, ?_, ?_, ?_⟩
  · refine hkept [_] _ [_] _ (.text "string") rfl rfl (by simp [IsLeaf]) ?_
    simp [Value.silent_cons_object, Entries.get?]
  · refine hkept [] _ [_, _] _ (.text "Comma-separated list of column names to display") rfl rfl (by simp [IsLeaf]) ?_
    simp [Value.silent_cons_object, Entries.get?]
  · exact horigin ["v", "default"] (.bool true) rfl (by simp [IsLeaf])

end Irregular

end ClientForge
