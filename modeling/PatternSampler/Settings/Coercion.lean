import PatternSampler.Batch
import PatternSampler.Settings.Value
import PatternSampler.Text.Quoted

/-! # Settings from values

The three settings are taken from the tree of values. A number may be written in many ways: as a whole
number, as a truth value, as a number with a fraction, which is rounded, or as a string that holds one
of the words for truth values or a number. A format is a name in any case, or a table whose only key is
one. A section is a table with the settings as its entries, or a list with the settings in order.
-/

namespace PatternSampler

structure Settings where
  /-- How far above its minimum the count of a repetition without a maximum can go. -/
  extra : UInt32
  count : Nat
  format : OutputFormat
  deriving Repr, DecidableEq

inductive SettingsError where
  | badPath (key : String)
  /-- A place that its list cannot have. This is a panic and no error that anybody handles. -/
  | badPlace (cause : PlaceFault)
  | missingFile (name : String)
  | badFile (name : String)
  /-- A value that is no number of the kind that is needed. -/
  | notANumber (found expected key : String) (origin : Option String)
  | notASection (found sectionName : String)
  /-- A section given as a list that is too short. -/
  | shortSection (length : Nat) (sectionName : String) (needed : Nat)
  | missingSetting (name : String)
  | unknownFormat (name : String)
  | notAFormat
  deriving Repr, DecidableEq

namespace SettingsError

def message : SettingsError → String
  | badPath key => "invalid path: " ++ key
  | badPlace cause => cause.message
  | missingFile name => "configuration file \"" ++ name ++ "\" not found"
  | badFile name => "invalid document in " ++ name
  | notANumber found expected key origin =>
    "invalid type: " ++ found ++ ", expected " ++ expected ++ " for key `" ++ key ++ "`"
      ++ (origin.map (" in " ++ ·)).getD ""
  | notASection found sectionName => "invalid type: " ++ found ++ ", expected struct " ++ sectionName
  | shortSection length sectionName needed =>
    "invalid length " ++ toString length ++ ", expected struct " ++ sectionName ++ " with "
      ++ toString needed ++ (if needed = 1 then " element" else " elements")
  | missingSetting name => "missing field `" ++ name ++ "`"
  | unknownFormat name => "enum OutputFormat does not have variant constructor " ++ name
  | notAFormat =>
    "value of enum OutputFormat should be represented by either string or table with exactly one key"

end SettingsError

namespace SettingValue

/-! ## Numbers -/

/-- How wide a whole number is. One that is beyond 64 bits has 128, and a sign. -/
def width (n : Int) : Nat :=
  if -Text.signed64Half ≤ n ∧ n ≤ Text.word64Max then 64 else 128

/-- How a value that is no number is described. -/
def described : SettingValue → String
  | .scalar .nil _ => "unit value"
  | .scalar (.bool b) _ => "boolean `" ++ toString b ++ "`"
  | .scalar (.integer n) _ => toString (width n) ++ "-bit integer `" ++ toString n ++ "`"
  | .scalar (.float x) _ => "floating point `" ++ x.text ++ "`"
  | .scalar (.string s) _ => "string " ++ Text.quoted s
  | .list _ _ => "sequence"
  | .table _ _ => "map"

def wordNumber? (word : String) : Option Nat :=
  if word = "true" ∨ word = "on" ∨ word = "yes" then some 1
  else if word = "false" ∨ word = "off" ∨ word = "no" then some 0
  else none

/-- The number of 64 bits that the value of `key` stands for. -/
def toNatural (key : String) (v : SettingValue) : Except SettingsError Nat :=
  let refuse (expected : String) : Except SettingsError Nat :=
    .error (.notANumber v.described expected key v.origin)
  match v with
  | .scalar (.integer n) _ =>
    if 0 ≤ n ∧ n ≤ Text.word64Max then .ok n.toNat else refuse "an unsigned 64 bit or less integer"
  | .scalar (.bool b) _ => .ok b.toNat
  | .scalar (.float x) _ => .ok (x.toNatural Text.word64Max)
  | .scalar (.string s) _ =>
    match wordNumber? (Text.lowercase s) <|> Text.word64? s with
    | some n => .ok n
    | none => refuse "an integer"
  | _ => refuse "an integer"

/-- The number of 32 bits that the value of `key` stands for. -/
def toWord32 (key : String) (v : SettingValue) : Except SettingsError UInt32 := do
  let n ← v.toNatural key
  if n < UInt32.size then .ok (UInt32.ofNat n)
  else
    .error (.notANumber ("64-bit unsigned integer `" ++ toString n ++ "`")
      "an unsigned 32 bit integer" key none)

/-! ## Formats -/

/-- The format of a name, in any case. -/
def formatOfName (name : String) : Except SettingsError OutputFormat :=
  match OutputFormat.ofName? (Text.lowercase name) with
  | some format => .ok format
  | none => .error (.unknownFormat name)

def toFormat : SettingValue → Except SettingsError OutputFormat
  | .scalar (.string name) _ => formatOfName name
  | .table [(name, _)] _ => formatOfName name
  | _ => .error .notAFormat

/-! ## Sections -/

/-- How a value that is no section is described. -/
def describedShort : SettingValue → String
  | .scalar (.integer n) _ => "integer `" ++ toString n ++ "`"
  | v => v.described

/-- A part of a section, or why it is not there. -/
inductive SectionPart where
  | found (key : String) (value : SettingValue)
  | missing (name : String)
  | beyond (length : Nat)

/-- The part of a section with a name and a place: the entry of a table with this name, or the element
    of a list at this place. -/
def sectionPart (sectionName path name : String) (place : Nat) :
    SettingValue → Except SettingsError SectionPart
  | .table entries _ =>
    match entries.find? (·.1 = name) with
    | some (_, v) => .ok (.found (path ++ "." ++ name) v)
    | none => .ok (.missing name)
  | .list elements _ =>
    match elements[place]? with
    | some v => .ok (.found (path ++ "[" ++ toString place ++ "]") v)
    | none => .ok (.beyond elements.length)
  | v => .error (.notASection v.describedShort sectionName)

/-- What a part of a section stands for. A list that is too short is an error at once; that a table
    lacks the part counts only after its other parts, so it is left open here. -/
def SectionPart.read {α : Type} (sectionName : String) (needed : Nat)
    (coerce : String → SettingValue → Except SettingsError α) :
    SectionPart → Except SettingsError (Option α)
  | .found key v => some <$> coerce key v
  | .missing _ => .ok none
  | .beyond length => .error (.shortSection length sectionName needed)

/-- A setting that must not have been left open. -/
def required {α : Type} (name : String) : Option α → Except SettingsError α
  | some a => .ok a
  | none => .error (.missingSetting name)

def generatorSettings (v : SettingValue) : Except SettingsError UInt32 := do
  let extra ← v.sectionPart "GeneratorConfig" "generator" "unbounded_extra" 0
  required "unbounded_extra" (← extra.read "GeneratorConfig" 1 toWord32)

def outputSettings (v : SettingValue) : Except SettingsError (Nat × OutputFormat) := do
  let count ← v.sectionPart "OutputConfig" "output" "count" 0
  let count ← count.read "OutputConfig" 2 toNatural
  let format ← v.sectionPart "OutputConfig" "output" "format" 1
  let format ← format.read "OutputConfig" 2 fun _ => toFormat
  return (← required "count" count, ← required "format" format)

def namedSection (root : SettingValue) (name : String) : Except SettingsError SettingValue :=
  required name ((root.entries.find? (·.1 = name)).map (·.2))

/-- The settings in a tree of values. The first setting that cannot be taken is the error. -/
def toSettings (root : SettingValue) : Except SettingsError Settings := do
  let extra ← generatorSettings (← root.namedSection "generator")
  let (count, format) ← outputSettings (← root.namedSection "output")
  return ⟨extra, count, format⟩

end SettingValue

end PatternSampler
