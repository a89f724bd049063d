import ClientForge.Endpoint.Basic
import ClientForge.Proofs.Except

namespace ClientForge

def Definition.ofTemplates (name template : String) (others : List String) : Definition :=
  let route (template : String) : Route := ⟨template, "GET", [], [], none, []⟩
  ⟨name, none, route template, others.map route, [], none, none, none, []⟩

namespace Endpoint

structure Resolved (surroundings : Surroundings) (definition : Definition) (endpoint : Endpoint) :
    Prop where
  definition_eq : endpoint.definition = definition
  location : Location.resolve definition.name surroundings.extended = .ok endpoint.location
  method : endpoint.method = MethodChoice.resolve definition.name definition.route.method
  path : PathChoice.resolve definition.name definition.templates = .ok endpoint.path
  arguments : Arguments.ofDefinition definition (Irregular.corrections definition.name
    endpoint.location.outputModules.head? surroundings.overrides) = .ok endpoint.arguments
  package_eq : endpoint.package = surroundings.package
  helperModule_eq : endpoint.helperModule = surroundings.helperModule

theorem resolve_eq_ok {surroundings : Surroundings} {definition : Definition} {endpoint : Endpoint} :
    resolve surroundings definition = .ok endpoint ↔ Resolved surroundings definition endpoint := by
  simp only [resolve, bind_eq_ok, mapError_eq_ok]
  constructor
  · rintro ⟨location, hlocation, path, hpath, arguments, harguments, h⟩
    cases h
    exact ⟨rfl, hlocation, rfl, hpath, harguments, rfl, rfl⟩
  · rintro ⟨rfl, hlocation, hmethod, hpath, harguments, hpackage, hhelper⟩
    refine ⟨_, hlocation, _, hpath, _, harguments, ?_⟩
    rw [← hmethod, ← hpackage, ← hhelper]
    rfl

variable {surroundings : Surroundings} {definition : Definition} {endpoint : Endpoint}

theorem Resolved.required (h : Resolved surroundings definition endpoint) :
    endpoint.arguments.required =
      Arguments.requiredNames definition.name definition.templates definition.bodyRequired := by
  obtain ⟨params, -, heq⟩ := except_map_eq_ok.mp h.arguments
  rw [← heq]

theorem resolve_ofTemplates {name template : String} {others : List String} {location : Location}
    {choice : PathChoice} (hlocation : Location.resolve name false = .ok location)
    (hcorrections : Irregular.corrections name location.outputModules.head? [] = [])
    (hpath : PathChoice.resolve name (template :: others) = .ok choice) :
    resolve ⟨false, [], "", "helpers"⟩ (.ofTemplates name template others) =
      .ok ⟨.ofTemplates name template others, location, MethodChoice.resolve name "GET", choice,
        ⟨[], (Definition.ofTemplates name template others).parts,
          Arguments.requiredNames name (template :: others) false⟩, "", "helpers"⟩ := by
  have htemplates : (Definition.ofTemplates name template others).templates = template :: others := by
    simp [Definition.templates, Definition.routes, Definition.ofTemplates, Function.comp_def]
  rw [resolve_eq_ok]
  refine ⟨rfl, hlocation, rfl, ?_, ?_, rfl, rfl⟩
  · rwa [htemplates]
  · change Arguments.ofDefinition _ (Irregular.corrections name _ []) = _
    rw [hcorrections, Arguments.ofDefinition, htemplates]
    rfl

end Endpoint

end ClientForge
