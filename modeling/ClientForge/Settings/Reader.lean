import ClientForge.Settings.Basic
import ClientForge.Settings.Environment
import ClientForge.Value.Check

namespace ClientForge

namespace Settings

open Value (checkBool checkList checkModel checkOptional checkText field fieldOr)

def names : List String :=
  ["api", "xpack", "utils_module", "generate_tests", "verbose", "linter", "test_helper", "overrides"]

def nameOf (document : Entries Value) (key : String) : String :=
  let name := Environment.lowerName key
  if names.contains name && !Entries.contains document name then name else key

def checkSurface : Value → Checked Surface :=
  checkModel "SurfaceConfig" fun entries =>
    Surface.mk <$> field entries "input" checkText <*> field entries "output" checkText <*>
      fieldOr entries "package" "" checkText

def oddPlace (key : String) : Place :=
  if key = "null" then .key "None"
  else if key = "true" then .index 1
  else if key = "false" then .index 0
  else .key key

def checkNamed {α : Type} (odd : List String) (check : String → Value → Checked α) :
    Value → Checked (Entries α)
  | .object entries =>
    .all <| entries.map fun (key, value) =>
      let entry := (check key value).map (Prod.mk key)
      if odd.contains key then
        (((fun (_ : Unit) entry => entry) <$> (Checked.issue .notText).within (.key "[key]")) <*>
          entry).within (oddPlace key)
      else entry.within (.key key)
  | _ => .issue .notObject

def lastSteps (paths : List (List String)) : List String :=
  paths.filterMap fun
    | [key] => some key
    | _ => none

def below (step : String) (paths : List (List String)) : List (List String) :=
  paths.filterMap fun
    | first :: rest => if first = step then some rest else none
    | [] => none

def checkOverrides (odd : List (List String)) : Value → Checked (Entries (Entries Value)) :=
  checkNamed (lastSteps odd) fun name =>
    checkNamed (lastSteps (below name odd)) fun _ value => .valid value

def checkNames (entries : Entries Value) : Checked (List Unit) :=
  .all <| (Value.others entries names).map fun (key, _) =>
    (Checked.issue .forbidden).within (.key key)

def check (environment document : Entries Value) (odd : List (List String)) : Checked Settings :=
  let given := Entries.ofPairs (document.map fun (key, value) => (nameOf document key, value))
  let entries := Value.overlay environment given
  (fun api extended helperModule withTests verbose linter testHelper overrides _ =>
    ⟨api, extended, helperModule, withTests, verbose, linter, testHelper, overrides⟩) <$>
    fieldOr entries "api" standard.api checkSurface <*>
    fieldOr entries "xpack" standard.extended checkSurface <*>
    fieldOr entries "utils_module" standard.helperModule checkText <*>
    fieldOr entries "generate_tests" standard.withTests checkBool <*>
    fieldOr entries "verbose" standard.verbose checkBool <*>
    fieldOr entries "linter" standard.linter (checkOptional (checkList checkText)) <*>
    fieldOr entries "test_helper" standard.testHelper (checkOptional checkText) <*>
    fieldOr entries "overrides" standard.overrides (checkOverrides (below "overrides" odd)) <*>
    checkNames entries

end Settings

end ClientForge
