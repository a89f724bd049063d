import ClientForge.Arguments
import ClientForge.Choice.Resolve
import ClientForge.Location

namespace ClientForge

structure Endpoint where
  definition : Definition
  location : Location
  method : MethodChoice
  path : PathChoice
  arguments : Arguments
  package : String
  helperModule : String
  deriving Repr

structure Surroundings where
  extended : Bool
  overrides : Entries (Entries Value)
  package : String
  helperModule : String
  deriving Repr

namespace Endpoint

def malformedName (name : String) (fault : NameFault) : Failure :=
  .malformedName name (some fault.message)

def unresolvablePaths (paths : UnresolvedPaths) : Failure :=
  .unresolvablePaths paths.endpoint paths.templates paths.fault.message

def resolve (surroundings : Surroundings) (definition : Definition) : Except Failure Endpoint := do
  let name := definition.name
  let location ← (Location.resolve name surroundings.extended).mapError (malformedName name)
  let method := MethodChoice.resolve name definition.route.method
  let path ← (PathChoice.resolve name definition.templates).mapError unresolvablePaths
  let corrections :=
    Irregular.corrections name location.outputModules.head? surroundings.overrides
  let arguments ← (Arguments.ofDefinition definition corrections).mapError (·.failure)
  return { definition, location, method, path, arguments
           package := surroundings.package, helperModule := surroundings.helperModule }

def remarks (extended : Bool) (definition : Definition) : List String :=
  match Location.resolve definition.name extended with
  | .ok _ => PathChoice.remarks definition.name definition.templates
  | .error _ => []

def functionName (endpoint : Endpoint) : String :=
  endpoint.location.functionName

def importPath (endpoint : Endpoint) : String :=
  ".".intercalate <|
    (endpoint.package :: endpoint.location.packageModules ++ [endpoint.functionName]).filter (· ≠ "")

def takenArguments (endpoint : Endpoint) : List String :=
  endpoint.method.branches.foldl
    (fun names branch =>
      if branch.argument = "body" ∨ names.contains branch.argument then names
      else names ++ [branch.argument])
    endpoint.path.names

end Endpoint

end ClientForge
