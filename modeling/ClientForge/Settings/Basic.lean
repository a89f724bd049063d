import ClientForge.Entries
import ClientForge.Value.Basic

namespace ClientForge

structure Surface where
  input : String
  output : String
  package : String
  deriving DecidableEq, Repr

structure Settings where
  api : Surface
  extended : Surface
  helperModule : String
  withTests : Bool
  verbose : Bool
  linter : Option (List String)
  testHelper : Option String
  overrides : Entries (Entries Value)
  deriving Repr

namespace Settings

def standard : Settings :=
  { api := ⟨"rest-api-spec/api", "elasticsearch_api/api", "elasticsearch_api.api"⟩
    extended := ⟨"rest-api-spec/xpack", "elasticsearch_api/xpack", "elasticsearch_api.xpack"⟩
    helperModule := "elasticsearch_api.utils"
    withTests := false
    verbose := false
    linter := some ["ruff", "check", "--fix", "--quiet"]
    testHelper := none
    overrides := [] }

def surface (settings : Settings) (extended : Bool) : Surface :=
  if extended then settings.extended else settings.api

end Settings

end ClientForge
