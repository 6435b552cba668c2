import PatternSampler.Settings.Coercion
import PatternSampler.Settings.Environment
import PatternSampler.Toml.Document

/-! # Layers of settings

Settings come from layers: the defaults first, then files and the environment in the order in which they
were added. Later layers go over earlier ones, and single overrides go over all layers. Everything is
read when the settings are built, so nothing goes wrong before but a key that is no path.
-/

namespace PatternSampler

/-- What a program can see of its surroundings: the files by their names, and the variables. -/
structure Surroundings where
  files : List (String × String)
  environment : List (String × String)
  deriving Repr

namespace Surroundings

/-- The steps of a file's name that lead somewhere. -/
def nameParts (name : String) : List String :=
  (name.splitOn "/").filter fun part => part ≠ "" ∧ part ≠ "."

/-- A file's name with no more than the steps that lead somewhere. -/
def plainName (name : String) : String :=
  (if "/".isPrefixOf name then "/" else "") ++ "/".intercalate (nameParts name)

/-- Whether a name can only be that of a directory: it ends in a slash, or stays where it is. -/
def isDirectoryName (name : String) : Bool :=
  match (name.splitOn "/").getLast? with
  | some part => part = "" || part = "."
  | none => true

/-- The ending that a file's name may leave out. -/
def fileEnding : String := ".toml"

/-- The plain names of the files that a name may mean, in the order in which they are tried. The name
    of a directory means a file only with the ending. -/
def candidates (name : String) : List String :=
  if (nameParts name).isEmpty then []
  else
    let withEnding := plainName name ++ fileEnding
    if isDirectoryName name then [withEnding] else [plainName name, withEnding]

/-- The file with a name, or else with this name and the ending: the full name and the content. -/
def file? (s : Surroundings) (name : String) : Option (String × String) :=
  (candidates name).findSome? fun name => s.files.find? (·.1 = name)

end Surroundings

inductive Layer where
  /-- A file; one that is not required may be missing. -/
  | file (name : String) (required : Bool)
  | environment
  deriving Repr, DecidableEq

/-- The layers of settings over the defaults, and the overrides over the layers. -/
structure Loader where
  layers : List Layer
  overrides : List (List PathStep × Scalar)
  deriving Repr

namespace Loader

def empty : Loader := ⟨[], []⟩

def withFile (l : Loader) (name : String) : Loader :=
  { l with layers := l.layers ++ [.file name true] }

def withOptionalFile (l : Loader) (name : String) : Loader :=
  { l with layers := l.layers ++ [.file name false] }

def withEnvironment (l : Loader) : Loader := { l with layers := l.layers ++ [.environment] }

/-- Override one setting. The last override of a key counts. Overrides of keys that differ in case only are
    kept apart; it is an assumption that they are applied in the order of the calls. -/
def setOverride (l : Loader) (key : String) (value : Scalar) : Except SettingsError Loader :=
  match PathStep.ofText? key with
  | none => .error (.badPath key)
  | some path =>
    .ok { l with overrides := l.overrides.filter (·.1 ≠ path) ++ [(path, value)] }

/-- The settings that hold when no layer says anything else. -/
def defaults : SettingValue :=
  .table
    [("generator", .table [("unbounded_extra", .scalar (.integer defaultExtra.toNat) none)] none),
     ("output", .table [("count", .scalar (.integer 1) none),
       ("format", .scalar (.string OutputFormat.text.name) none)] none)]
    none

end Loader

def Layer.entries (s : Surroundings) : Layer → Except SettingsError (List (String × SettingValue))
  | .environment => .ok (Environment.entries s.environment)
  | .file name required =>
    match s.file? name with
    | some (name, content) =>
      match Toml.topSettings? (some name) content with
      | some entries => .ok entries
      | none => .error (.badFile name)
    | none => if required then .error (.missingFile name) else .ok []

namespace Loader

/-- The tree `root` after `set` for each of some values. -/
def setAll {α : Type} (set : SettingValue → α → Except PlaceFault SettingValue) (root : SettingValue)
    (values : List α) : Except SettingsError SettingValue :=
  match values.foldlM set root with
  | .ok root => .ok root
  | .error cause => .error (.badPlace cause)

/-- The tree of values after all layers and overrides. -/
def tree (l : Loader) (s : Surroundings) : Except SettingsError SettingValue := do
  let root ← l.layers.foldlM (fun root layer => do
    setAll (fun root (key, v) => root.setKey key v) root (← layer.entries s)) defaults
  setAll (fun root (path, v) => root.setAt path (.scalar v none)) root l.overrides

def build (l : Loader) (s : Surroundings) : Except SettingsError Settings := do
  (← l.tree s).toSettings

end Loader

end PatternSampler
