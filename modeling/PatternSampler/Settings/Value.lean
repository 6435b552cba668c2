import PatternSampler.Settings.Path
import PatternSampler.Text.Binary64
import PatternSampler.Text.Lowercase

/-! # Values of settings

Settings form a tree of tables and lists with scalars at its leaves. A value remembers where it came
from, if that has a name. Keys are compared in lower case.

Setting a scalar or a list replaces what was there. Setting a table puts its entries into the table that
is there, one by one. On the way to a setting, tables and lists are made where there are none, and lists
grow. Only a place before the start of a list cannot be reached, nor one that no list reaches. Nothing
reports such a place as an error: whoever asks for it panics.
-/

namespace PatternSampler

inductive Scalar where
  | nil
  | bool (b : Bool)
  | integer (n : Int)
  | float (x : Text.Binary64)
  | string (s : String)
  deriving Repr, DecidableEq

/-- What a panic over a place says. -/
inductive PlaceFault where
  /-- Counted from the end, the place lies before the start. -/
  | beforeStart
  | tooLong
  deriving Repr, DecidableEq

namespace PlaceFault

def message : PlaceFault → String
  | beforeStart => "attempt to subtract with overflow"
  | tooLong => "capacity overflow"

end PlaceFault

/-- How many elements no list reaches. -/
def longestList : Nat := UInt32.size

/-- A value of a setting, with the name of the place it came from. -/
inductive SettingValue where
  | scalar (value : Scalar) (origin : Option String)
  | list (elements : List SettingValue) (origin : Option String)
  | table (entries : List (String × SettingValue)) (origin : Option String)
  deriving Repr

namespace SettingValue

def origin : SettingValue → Option String
  | scalar _ origin | list _ origin | table _ origin => origin

/-- A value that is nothing yet. -/
def nothing : SettingValue := scalar .nil none

def entries : SettingValue → List (String × SettingValue)
  | table entries _ => entries
  | _ => []

def elements : SettingValue → List SettingValue
  | list elements _ => elements
  | _ => []

/-- Where a list came from. What becomes a list only now came from nowhere. -/
def listOrigin : SettingValue → Option String
  | list _ origin => origin
  | _ => none

/-- Where a table came from. What becomes a table only now came from nowhere. -/
def tableOrigin : SettingValue → Option String
  | table _ origin => origin
  | _ => none

def entry? (key : String) (v : SettingValue) : Option SettingValue :=
  (v.entries.find? (·.1 = Text.lowercase key)).map (·.2)

/-- Change the entry of a key, or add one for it. -/
def alterEntry (key : String) (f : Option SettingValue → SettingValue) :
    List (String × SettingValue) → List (String × SettingValue)
  | [] => [(key, f none)]
  | (k, v) :: es => if k = key then (k, f (some v)) :: es else (k, v) :: alterEntry key f es

/-- The value as a table in which the entry of a key is changed. -/
def alterKey (key : String) (f : Option SettingValue → SettingValue) (v : SettingValue) :
    SettingValue :=
  table (alterEntry (Text.lowercase key) f v.entries) v.tableOrigin

/-- The place in a list of some length that a step leads to. Negative places count from the end. -/
def placeIn (length : Nat) (place : Int) : Except PlaceFault Nat :=
  if 0 ≤ place then
    if place.toNat < longestList then .ok place.toNat else .error .tooLong
  else if place.natAbs ≤ length then .ok (length - place.natAbs)
  else .error .beforeStart

/-- The value as a list in which the element at a place is changed. The list grows as far as needed. -/
def alterIndex (place : Int) (f : SettingValue → Except PlaceFault SettingValue) (v : SettingValue) :
    Except PlaceFault SettingValue := do
  let n ← placeIn v.elements.length place
  let element ← f (v.elements[n]?.getD nothing)
  let grown := v.elements ++ List.replicate (n + 1 - v.elements.length) nothing
  return list (grown.set n element) v.listOrigin

mutual

/-- What a key holds after a value is set on it that held `old` before. -/
def mergeInto (old : Option SettingValue) : SettingValue → SettingValue
  | table entries _ => mergeEntries (old.getD (table [] none)) entries
  | v => v

/-- The value as a table with entries put into it. -/
def mergeEntries (target : SettingValue) : List (String × SettingValue) → SettingValue
  | [] => target
  | (key, v) :: es => mergeEntries (target.alterKey key fun old => mergeInto old v) es

end

/-- The tree `root` with a value set at the end of a path. -/
def setAt (root : SettingValue) (path : List PathStep) (value : SettingValue) :
    Except PlaceFault SettingValue :=
  match path with
  | [] => .ok value
  | [.key name] => .ok (root.alterKey name fun old => mergeInto old value)
  | .key name :: steps => do
    let changed ← ((root.entry? name).getD nothing).setAt steps value
    return root.alterKey name fun _ => changed
  | .index place :: steps => root.alterIndex place fun old => old.setAt steps value

/-- The tree `root` with a value set on a key. A key that can be read as a path is one. -/
def setKey (root : SettingValue) (key : String) (value : SettingValue) :
    Except PlaceFault SettingValue :=
  root.setAt ((PathStep.ofText? key).getD [.key key]) value

end SettingValue

end PatternSampler
