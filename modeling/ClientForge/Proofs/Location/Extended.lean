import ClientForge.Proofs.Naming

namespace ClientForge.Location

variable {name segment : String} {segments : List String} {extended : Bool} {location : Location}

theorem rename_of_not_mem (h : segment ∉ renames.map (·.1)) : rename segment = segment := by
  have hlookup : renames.lookup segment = none := by
    rw [List.lookup_eq_none_iff]
    intro entry hentry
    rw [bne_iff_ne]
    rintro rfl
    exact h (List.mem_map_of_mem hentry)
  rw [rename, hlookup, Option.getD_none]

theorem rename_not_mem (segment : String) : rename segment ∉ renames.map (·.1) := by
  have hspelled : ∀ word ∈ renames.map (·.2), word ∉ renames.map (·.1) := by decide
  by_cases hkey : segment ∈ renames.map (·.1)
  · have hvalue : ∀ key ∈ renames.map (·.1), rename key ∈ renames.map (·.2) := by decide
    exact hspelled _ (hvalue segment hkey)
  · rwa [rename_of_not_mem hkey]

theorem rename_marker : rename marker = marker :=
  rename_of_not_mem (by decide)

theorem isIdentifier_marker : IsIdentifier marker := by
  decide

theorem not_mem_of_mem_extend (h : segment ∈ extend segments) : segment ∉ renames.map (·.1) := by
  obtain ⟨plain, -, rfl⟩ := List.mem_map.mp h
  exact rename_not_mem plain

theorem head?_extend (segments : List String) : (extend segments).head? = some marker := by
  rw [extend, List.head?_map]
  split
  · next h => rw [h, Option.map_some, rename_marker]
  · rw [List.head?_cons, Option.map_some, rename_marker]

theorem extend_extend (segments : List String) : extend (extend segments) = extend segments := by
  have hfixed : ∀ segment ∈ extend segments, rename segment = segment :=
    fun segment hsegment => rename_of_not_mem (not_mem_of_mem_extend hsegment)
  rw [extend, if_pos (head?_extend segments), List.map_congr_left hfixed, List.map_id']

theorem extend_marker_cons (h : segments.head? ≠ some marker) : extend (marker :: segments) = extend segments := by
  rw [extend, extend, if_pos List.head?_cons, if_neg h]

theorem splitName_marker_append (name : String) : splitName (marker ++ "." ++ name) = marker :: splitName name := by
  have hpoint : '.' ∉ marker.toList := by decide
  have hmarker (c : Char) (hc : c ∈ marker.toList) : (c == '.') = false :=
    beq_false_of_ne (ne_of_mem_of_not_mem hc hpoint)
  rw [splitName, splitName, String.toList_append, String.toList_append, List.append_assoc]
  change (Text.splitOn _ (_ ++ '.' :: name.toList)).map String.ofList = _
  rw [Text.splitOn_append_cons hmarker (by decide), List.map_cons, String.ofList_toList]

theorem resolve_of_split (hsplit : splitName name = segments) (h : ∀ segment ∈ segments, IsLooseIdentifier segment) :
    resolve name true = .ok (ofSegments (extend segments)) := by
  subst hsplit
  obtain ⟨location, hlocation⟩ : ∃ location, resolve name true = .ok location := exists_resolve_iff.mpr h
  rw [hlocation, (resolve_eq_ok hlocation).1, if_pos rfl]

/-- On the extended surface a name is read as its marked form with all segments spelled out; that form is read
as itself, and the marker may as well be written in front of the name. -/
theorem resolve_normalises (h : resolve name extended = .ok location) :
    ∃ place, resolve name true = .ok place ∧ place.segments.head? = some marker ∧
      (∀ segment ∈ place.segments, segment ∉ renames.map (·.1)) ∧
      resolve (".".intercalate place.segments) true = .ok place ∧
      ((splitName name).head? ≠ some marker → resolve (marker ++ "." ++ name) true = .ok place) := by
  have haccepted : ∀ segment ∈ splitName name, IsLooseIdentifier segment := exists_resolve_iff.mp ⟨location, h⟩
  have hresolve : resolve name true = .ok (ofSegments (extend (splitName name))) := resolve_of_split rfl haccepted
  have hne : extend (splitName name) ≠ [] := extend_ne_nil (splitName_ne_nil name)
  have hnames : ∀ segment ∈ extend (splitName name), IsLooseIdentifier segment := by
    have hsegments := segments_of_resolve hresolve
    rw [segments_ofSegments hne] at hsegments
    exact fun segment hsegment => isNameLike_iff.mp (hsegments segment hsegment)
  refine ⟨_, hresolve, ?_⟩
  rw [segments_ofSegments hne]
  refine ⟨head?_extend _, fun segment => not_mem_of_mem_extend, ?_, fun hmarker => ?_⟩
  · have hsplit : splitName (".".intercalate (extend (splitName name))) = extend (splitName name) :=
      splitName_intercalate hne fun segment hsegment =>
        (isWord_of_isNameLike (isNameLike_iff.mpr (hnames segment hsegment))).no_point
    have hjoined := resolve_of_split hsplit hnames
    rwa [extend_extend] at hjoined
  · have hmarked : ∀ segment ∈ marker :: splitName name, IsLooseIdentifier segment := by
      rw [List.forall_mem_cons]
      exact ⟨⟨marker, isIdentifier_marker, .inl rfl⟩, haccepted⟩
    rw [← extend_marker_cons hmarker]
    exact resolve_of_split (splitName_marker_append name) hmarked

theorem resolve_normalises_abbreviations :
    let place : Location := ⟨["xpack", "index_lifecycle_management", "machine_learning"], "explain"⟩
    resolve "ilm.ml.explain" false = .ok ⟨["ilm", "ml"], "explain"⟩ ∧ resolve "ilm.ml.explain" true = .ok place ∧
      resolve "xpack.index_lifecycle_management.machine_learning.explain" true = .ok place ∧
      resolve "xpack.ilm.ml.explain" true = .ok place := by
  intro place
  have hname : resolve "ilm.ml.explain" false = .ok ⟨["ilm", "ml"], "explain"⟩ := by decide
  have hplace : resolve "ilm.ml.explain" true = .ok place := by decide
  obtain ⟨found, hfound, -, -, hjoined, hmarked⟩ := resolve_normalises hname
  obtain rfl : place = found := Except.ok.inj (hplace.symm.trans hfound)
  exact ⟨hname, hplace, hjoined, hmarked (by decide)⟩

end ClientForge.Location
