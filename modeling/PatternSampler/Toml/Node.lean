import PatternSampler.Settings.Value

/-! # The tree of a TOML document

Tables can be made in several ways, and how a table was made decides what may still be added to it. A
table that a header made cannot be made again, a table that dotted keys made takes more dotted keys but
no header of its own, and an inline table takes nothing more.
-/

namespace PatternSampler.Toml

/-- How a table was made. -/
inductive Making where
  | onTheWay
  | header
  | dotted
  deriving Repr, DecidableEq

inductive Node where
  | scalar (value : Scalar)
  | array (elements : List Node)
  | inlineTable (entries : List (String × Node))
  | table (making : Making) (entries : List (String × Node))
  /-- Tables under one header in double brackets, the last of them open. -/
  | tables (closed : List (List (String × Node))) (last : List (String × Node))
  deriving Repr

abbrev Entries := List (String × Node)

namespace Entries

def find? (es : Entries) (key : String) : Option Node := (List.find? (·.1 = key) es).map (·.2)

def replace (es : Entries) (key : String) (node : Node) : Entries :=
  es.map fun (k, v) => if k = key then (k, node) else (k, v)

/-- Set the value at the end of a dotted key, which must be new. Dotted keys go through tables that
    other dotted keys made. Through tables that were made on the way to others they only pass. -/
def setDotted (value : Node) : List String → Entries → Option Entries
  | [], _ => none
  | [key], es => if (es.find? key).isSome then none else some (es ++ [(key, value)])
  | key :: more, es =>
    match es.find? key with
    | none => do return es ++ [(key, .table .dotted (← setDotted value more []))]
    | some (.table .dotted sub) => do
      return es.replace key (.table .dotted (← setDotted value more sub))
    | some (.table .onTheWay sub) =>
      if more.length < 2 then none
      else do return es.replace key (.table .onTheWay (← setDotted value more sub))
    | some (.tables closed last) =>
      if more.length < 2 then none
      else do return es.replace key (.tables closed (← setDotted value more last))
    | some _ => none

/-- Change the entries of the table at the end of a path. Tables that are not there are made. -/
def alterTable (f : Entries → Option Entries) : List String → Entries → Option Entries
  | [], es => f es
  | key :: more, es =>
    match es.find? key with
    | none => do return es ++ [(key, .table .onTheWay (← alterTable f more []))]
    | some (.table making sub) => do
      return es.replace key (.table making (← alterTable f more sub))
    | some (.tables closed last) => do
      return es.replace key (.tables closed (← alterTable f more last))
    | some _ => none

/-- Make the table of a header. It may be there only because of tables below it. -/
def openTable (key : String) (es : Entries) : Option Entries :=
  match es.find? key with
  | none => some (es ++ [(key, .table .header [])])
  | some (.table .onTheWay sub) => some (es.replace key (.table .header sub))
  | some _ => none

/-- Make one more table of a header in double brackets. -/
def openElement (key : String) (es : Entries) : Option Entries :=
  match es.find? key with
  | none => some (es ++ [(key, .tables [] [])])
  | some (.tables closed last) => some (es.replace key (.tables (closed ++ [last]) []))
  | some _ => none

end Entries

mutual

/-- A value as a setting that came from `origin`. -/
def Node.setting (origin : Option String) : Node → SettingValue
  | .scalar value => .scalar value origin
  | .array elements => .list (settings origin elements) origin
  | .inlineTable entries | .table _ entries => .table (entrySettings origin entries) origin
  | .tables closed last =>
    .list (tableSettings origin closed ++ [.table (entrySettings origin last) origin]) origin

def settings (origin : Option String) : List Node → List SettingValue
  | [] => []
  | n :: ns => n.setting origin :: settings origin ns

def entrySettings (origin : Option String) : List (String × Node) → List (String × SettingValue)
  | [] => []
  | (key, n) :: es => (key, n.setting origin) :: entrySettings origin es

def tableSettings (origin : Option String) : List (List (String × Node)) → List SettingValue
  | [] => []
  | es :: more => .table (entrySettings origin es) origin :: tableSettings origin more

end

end PatternSampler.Toml
