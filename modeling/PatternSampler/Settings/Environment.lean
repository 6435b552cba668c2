import PatternSampler.Settings.Value

/-! # Settings in the environment

A variable whose name starts with `RXGEN_`, in any case, is a setting. The rest of its name is the key,
with a point for every two underscores. Its text is read as the first of these that it is: a truth
value, a whole number, a number with a fraction, or else a string.
-/

namespace PatternSampler.Environment

/-- How the names of settings start, in lower case. -/
def namePrefix : String := "rxgen_"

/-- What stands between the parts of a key. -/
def separator : String := "__"

/-- Where values from the environment say that they came from. -/
def origin : String := "the environment"

/-- The key of a variable's setting, if it is one. -/
def key? (name : String) : Option String :=
  let name := Text.lowercase name
  if namePrefix.toList.isPrefixOf name.toList then
    some (((String.ofList (name.toList.drop namePrefix.length)).splitOn separator |> ".".intercalate))
  else none

def scalar (text : String) : Scalar :=
  let word := Text.lowercase text
  if word = "true" then .bool true
  else if word = "false" then .bool false
  else
    match Text.signed64? text with
    | some n => .integer n
    | none =>
      match Text.Binary64.ofText? text with
      | some x => .float x
      | none => .string text

def entries (environment : List (String × String)) : List (String × SettingValue) :=
  environment.filterMap fun (name, text) =>
    (key? name).map (·, .scalar (scalar text) (some origin))

end PatternSampler.Environment
