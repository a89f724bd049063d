import ClientForge.DefinitionFile
import ClientForge.Proofs.Checked

namespace ClientForge

open Value (IsText IsFlag IsList IsObject OrNull)

structure Parameter.Declared (entries : Entries Value) : Prop where
  type : entries.Admits "type" (OrNull IsText)
  description : entries.Admits "description" (OrNull IsText)
  required : entries.Admits "required" IsFlag
  options : entries.Admits "options" (OrNull (IsList fun _ => True))

structure Deprecation.Declared (entries : Entries Value) : Prop where
  version : entries.Admits "version" (OrNull IsText)
  description : entries.Admits "description" (OrNull IsText)

structure Documentation.Declared (entries : Entries Value) : Prop where
  url : entries.Admits "url" (OrNull IsText)
  description : entries.Admits "description" (OrNull IsText)

structure Body.Declared (entries : Entries Value) : Prop where
  description : entries.Admits "description" (OrNull IsText)
  required : entries.Admits "required" IsFlag

def Parameter.AllDeclared : Value → Prop :=
  IsObject fun entries => ∀ p ∈ entries, p.2.IsObject Parameter.Declared

structure Route.Declared (entries : Entries Value) : Prop where
  path : entries.Has "path" IsText
  methods : entries.Has "methods" (IsList fun items => items ≠ [] ∧ ∀ item ∈ items, item.IsText)
  parts : entries.Admits "parts" Parameter.AllDeclared
  deprecated : entries.Admits "deprecated" (OrNull (IsObject Deprecation.Declared))

namespace Definition

variable {name source : String} {entries : Entries Value} {value : Value} {failure : Failure}

def RoutesAt (entries : Entries Value) (value : Value) : Prop :=
  Entries.get? entries "paths" = some value ∨
    Entries.get? entries "paths" = none ∧ entries.Has "url" (IsObject fun url => Entries.get? url "paths" = some value)

structure Declared (entries : Entries Value) : Prop where
  routes : ∃ value, RoutesAt entries value ∧
    value.IsList fun items => items ≠ [] ∧ ∀ item ∈ items, item.IsObject Route.Declared
  documentation : entries.Admits "documentation" (OrNull fun value => value.IsText ∨ value.IsObject Documentation.Declared)
  params : entries.Admits "params" (OrNull Parameter.AllDeclared)
  body : entries.Admits "body" (OrNull (IsObject Body.Declared))
  stability : entries.Admits "stability" (OrNull IsText)
  visibility : entries.Admits "visibility" (OrNull IsText)

def IsDocument (document : Value) : Prop :=
  ∃ name entries, document = .object [(name, .object entries)] ∧ Declared entries

theorem isValid_optionalText : (optionalText value).IsValid ↔ value.OrNull IsText := by
  simp only [optionalText, Value.isValid_checkOptional, Value.isValid_checkText]

theorem isValid_readDeprecation : (readDeprecation entries).IsValid ↔ Deprecation.Declared entries := by
  simp only [readDeprecation, Checked.isValid_seq, Checked.isValid_map, Checked.isValid_valid, Value.isValid_fieldOr,
    isValid_optionalText, and_true]
  constructor
  · rintro ⟨version, description⟩
    exact ⟨version, description⟩
  · intro h
    exact ⟨h.version, h.description⟩

theorem isValid_readDocumentation : (readDocumentation entries).IsValid ↔ Documentation.Declared entries := by
  simp only [readDocumentation, Checked.isValid_seq, Checked.isValid_map, Checked.isValid_valid, Value.isValid_fieldOr,
    isValid_optionalText, and_true]
  constructor
  · rintro ⟨url, description⟩
    exact ⟨url, description⟩
  · intro h
    exact ⟨h.url, h.description⟩

theorem isValid_readBody : (readBody entries).IsValid ↔ Body.Declared entries := by
  simp only [readBody, Checked.isValid_seq, Checked.isValid_map, Checked.isValid_valid, Value.isValid_fieldOr,
    isValid_optionalText, Value.isValid_checkBool, and_true]
  constructor
  · rintro ⟨description, required⟩
    exact ⟨description, required⟩
  · intro h
    exact ⟨h.description, h.required⟩

theorem isValid_parameter : (Parameter.ofValue value).IsValid ↔ value.IsObject Parameter.Declared := by
  simp only [Parameter.ofValue, Value.isValid_checkModel, Parameter.ofEntries, Checked.isValid_seq, Checked.isValid_map,
    Checked.isValid_valid, Value.isValid_fieldOr, Value.isValid_checkOptional, Value.isValid_checkText,
    Value.isValid_checkBool, Value.isValid_checkList, Entries.admits_true, implies_true, and_true]
  refine exists_congr fun _ => and_congr_right fun _ => ?_
  constructor
  · rintro ⟨⟨⟨type, description⟩, required⟩, options⟩
    exact ⟨type, description, required, options⟩
  · intro h
    exact ⟨⟨⟨h.type, h.description⟩, h.required⟩, h.options⟩

theorem isValid_parameters : (Value.checkEntries Parameter.ofValue value).IsValid ↔ Parameter.AllDeclared value := by
  simp only [Value.isValid_checkEntries, isValid_parameter, Parameter.AllDeclared]

theorem isValid_readRoute : (readRoute entries).IsValid ↔ Route.Declared entries := by
  simp only [readRoute, Checked.isValid_seq, Checked.isValid_map, Checked.isValid_valid, Value.isValid_fieldOr,
    Value.isValid_field, Value.isValid_checkText, Value.isValid_checkNonempty, isValid_parameters,
    Value.isValid_checkOptional, Value.isValid_checkModel, isValid_readDeprecation, and_true]
  constructor
  · rintro ⟨⟨⟨path, methods⟩, parts⟩, deprecated⟩
    exact ⟨path, methods, parts, deprecated⟩
  · intro h
    exact ⟨⟨⟨h.path, h.methods⟩, h.parts⟩, h.deprecated⟩

theorem declared_of_link (url : String) : Documentation.Declared [("url", .text url)] where
  url value h := by
    cases h
    exact .inr ⟨url, rfl⟩
  description _ h := by cases h

theorem isValid_documentationModel :
    (documentationModel value).IsValid ↔ value.OrNull fun value => value.IsText ∨ value.IsObject Documentation.Declared := by
  simp only [documentationModel, Value.isValid_checkOptional, Value.isValid_checkModel, isValid_readDocumentation]
  cases value with
  | text url =>
    refine iff_of_true (.inr ⟨_, rfl, ?_⟩) (.inr (.inl ⟨url, rfl⟩))
    exact declared_of_link url
  | _ => simp [OrNull, IsText]

theorem isValid_paramsModel : (paramsModel value).IsValid ↔ value.OrNull Parameter.AllDeclared := by
  cases value with
  | null => exact iff_of_true (Checked.isValid_valid []) (.inl rfl)
  | _ =>
    rw [OrNull, or_iff_right (by rintro ⟨⟩), paramsModel, isValid_parameters]
    rintro ⟨⟩

theorem routeList?_eq_some : routeList? entries = some value ↔ RoutesAt entries value := by
  rw [routeList?, RoutesAt, Option.or_eq_some_iff, Option.bind_eq_some_iff]
  refine or_congr_right (and_congr_right fun _ => exists_congr fun url => and_congr_right fun _ => ?_)
  cases url <;> simp [Value.get?, IsObject]

theorem isValid_ofEntries : (ofEntries name entries).IsValid ↔ Declared entries := by
  rw [ofEntries]
  split
  · next hnone =>
    refine iff_of_false (Checked.not_isValid_issue _) fun h => ?_
    obtain ⟨value, hvalue, -⟩ := h.routes
    rw [routeList?_eq_some.mpr hvalue] at hnone
    cases hnone
  · next routes hroutes =>
    simp only [Checked.isValid_seq, Checked.isValid_map, Checked.isValid_valid, Checked.isValid_within,
      Value.isValid_fieldOr, Value.isValid_checkNonempty, Value.isValid_checkOptional, Value.isValid_checkModel,
      isValid_documentationModel, isValid_readRoute, isValid_paramsModel, isValid_readBody, isValid_optionalText,
      and_true]
    constructor
    · rintro ⟨⟨⟨⟨⟨documentation, items⟩, params⟩, body⟩, stability⟩, visibility⟩
      exact ⟨⟨routes, routeList?_eq_some.mp hroutes, items⟩, documentation, params, body, stability, visibility⟩
    · intro h
      obtain ⟨value, hvalue, items⟩ := h.routes
      cases hroutes.symm.trans (routeList?_eq_some.mpr hvalue)
      exact ⟨⟨⟨⟨⟨h.documentation, items⟩, h.params⟩, h.body⟩, h.stability⟩, h.visibility⟩

def Lists (item : Value) (route : Route) : Prop :=
  item.get? "path" = some (.text route.template) ∧
    item.get? "methods" = some (.list ((route.method :: route.otherMethods).map .text))

theorem forall₂_isText {items : List Value} {texts : List String}
    (h : List.Forall₂ (fun item s => Value.checkText item = .valid s) items texts) : items = texts.map .text := by
  induction h with
  | nil => rfl
  | cons hitem _ ih => rw [Value.checkText_eq_valid.mp hitem, ih, List.map_cons]

theorem lists_of_readRoute {route : Route} (h : readRoute entries = .valid route) : Lists (.object entries) route := by
  simp only [readRoute, Checked.seq_eq_valid, Checked.map_eq_valid] at h
  obtain ⟨_, extra, ⟨_, deprecated, ⟨_, parts, ⟨_, methods, ⟨path, hpath, rfl⟩, hmethods, rfl⟩, -, rfl⟩, -, rfl⟩, -, rfl⟩ := h
  obtain ⟨_, hpath, hread⟩ := Value.field_eq_valid.mp hpath
  obtain rfl := Value.checkText_eq_valid.mp hread
  obtain ⟨_, hmethods, hread⟩ := Value.field_eq_valid.mp hmethods
  obtain ⟨items, rfl, hitems⟩ := Value.checkList_eq_valid.mp (Value.checkNonempty_eq_valid.mp hread)
  obtain rfl := forall₂_isText hitems
  exact ⟨hpath, hmethods⟩

theorem lists_of_ofEntries {definition : Definition} (h : ofEntries name entries = .valid definition) :
    definition.name = name ∧ ∃ items, RoutesAt entries (.list items) ∧ List.Forall₂ Lists items definition.routes := by
  rw [ofEntries] at h
  split at h
  · cases h
  · next hroutes =>
    simp only [Checked.seq_eq_valid, Checked.map_eq_valid] at h
    obtain ⟨_, extra, ⟨_, visibility, ⟨_, stability, ⟨_, body, ⟨_, params, ⟨_, found, ⟨documentation, -, rfl⟩,
      hfound, rfl⟩, -, rfl⟩, -, rfl⟩, -, rfl⟩, -, rfl⟩, -, rfl⟩ := h
    rw [Checked.within_eq_valid] at hfound
    obtain ⟨items, rfl, hitems⟩ := Value.checkList_eq_valid.mp (Value.checkNonempty_eq_valid.mp hfound)
    refine ⟨rfl, items, routeList?_eq_some.mp hroutes, hitems.imp fun item route hread => ?_⟩
    obtain ⟨fields, rfl, hread⟩ := Value.checkModel_eq_valid.mp hread
    exact lists_of_readRoute hread

theorem templates_of_lists {items : List Value} {definition : Definition}
    (h : List.Forall₂ Lists items definition.routes) :
    items.map (Value.get? "path") = definition.templates.map fun template => some (.text template) := by
  rw [templates, List.map_map]
  generalize definition.routes = routes at h ⊢
  induction h with
  | nil => rfl
  | cons hitem _ ih => rw [List.map_cons, List.map_cons, hitem.1, ih, Function.comp_apply]

theorem ofDocument_cases (document : Value) (source : String) :
    (∃ name entries, document = .object [(name, .object entries)]) ∨
      (¬∃ name entries, document = .object [(name, .object entries)]) ∧
        ∃ cause, ofDocument document source = .error (.unloadable source (some cause)) := by
  unfold ofDocument
  split
  · exact .inl ⟨_, _, rfl⟩
  · next hno =>
    refine .inr ⟨?_, _, rfl⟩
    rintro ⟨_, _, h⟩
    cases h
    exact hno _ rfl
  · next hno =>
    refine .inr ⟨?_, _, rfl⟩
    rintro ⟨_, _, h⟩
    cases h
    exact hno _ _ rfl

/-- A document is read if and only if it declares an endpoint, and then its one key names the endpoint whatever name is
declared below it. -/
theorem ofDocument_reads_documents (document : Value) (source : String) :
    ((∃ definition, ofDocument document source = .ok definition) ↔ IsDocument document) ∧
      (∀ failure, ofDocument document source = .error failure → ∃ cause, failure = .unloadable source (some cause)) ∧
      ∀ definition, ofDocument document source = .ok definition →
        ∃ entries items, document = .object [(definition.name, .object entries)] ∧ RoutesAt entries (.list items) ∧
          items.map (Value.get? "path") = definition.templates.map (fun template => some (.text template)) ∧
          List.Forall₂ Lists items definition.routes := by
  rcases ofDocument_cases document source with ⟨name, entries, rfl⟩ | ⟨hno, cause, herror⟩
  · have hdeclared : IsDocument (.object [(name, .object entries)]) ↔ (ofEntries name entries).IsValid := by
      rw [isValid_ofEntries, IsDocument]
      constructor
      · rintro ⟨_, _, h, hentries⟩
        cases h
        exact hentries
      · intro h
        exact ⟨name, entries, rfl, h⟩
    rw [hdeclared]
    cases hread : ofEntries name entries with
    | valid definition =>
      simp only [ofDocument, hread]
      refine ⟨iff_of_true ⟨definition, rfl⟩ (Checked.isValid_valid definition), fun _ h => (nomatch h), ?_⟩
      rintro _ ⟨⟩
      obtain ⟨rfl, items, hroutes, hlists⟩ := lists_of_ofEntries hread
      exact ⟨entries, items, rfl, hroutes, templates_of_lists hlists, hlists⟩
    | invalid first others =>
      simp only [ofDocument, hread]
      refine ⟨iff_of_false (fun ⟨_, h⟩ => nomatch h) (fun ⟨_, h⟩ => nomatch h), ?_, fun _ h => nomatch h⟩
      rintro _ ⟨⟩
      exact ⟨_, rfl⟩
  · rw [herror]
    refine ⟨iff_of_false (fun ⟨_, h⟩ => nomatch h) ?_, ?_, fun _ h => nomatch h⟩
    · rintro ⟨name, entries, h, -⟩
      exact hno ⟨name, entries, h⟩
    · rintro _ ⟨⟩
      exact ⟨cause, rfl⟩

end Definition

end ClientForge
