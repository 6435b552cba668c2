import Mathlib
import PatternSampler.Batch
import PatternSampler.Proofs.Text.Json.Layout
import PatternSampler.Proofs.Text.Json.Values

/-! # Batches can be read back

A batch in JSON format is read back as the same batch, whatever its texts hold and however large its seed
is. This says nothing of the text format, where samples with line feeds can be mistaken for others.
-/

namespace PatternSampler

namespace JsonValue

def string? : JsonValue → Option String
  | .string s => some s
  | _ => none

def number? : JsonValue → Option Nat
  | .number n => some n
  | _ => none

def list? : JsonValue → Option (List JsonValue)
  | .list elements => some elements
  | _ => none

/-- The member of an object with this name. -/
def member? (name : String) : JsonValue → Option JsonValue
  | .object members => members.lookup name
  | _ => none

end JsonValue

namespace SampleBatch

open JsonValue

/-- The batch that a value says. Its seed has to be one. -/
def ofJson? (v : JsonValue) : Option SampleBatch := do
  let pattern ← (← v.member? "pattern").string?
  let seed ← (← v.member? "seed").number?
  let samples ← (← (← v.member? "samples").list?).mapM string?
  if seed < UInt64.size then return ⟨pattern, UInt64.ofNat seed, samples⟩ else none

/-- The batch in a document. -/
def ofText? (text : String) : Option SampleBatch := JsonValue.ofText? text >>= ofJson?

theorem mapM_string (texts : List String) : texts.mapM (string? ∘ string) = some texts := by
  induction texts with
  | nil => rfl
  | cons text texts ih => simp [string?, ih]

theorem ofJson?_toJson (b : SampleBatch) : ofJson? b.toJson = some b := by
  obtain ⟨pattern, seed, samples⟩ := b
  have small : seed.toNat < UInt64.size := seed.toNat_lt
  simp [ofJson?, toJson, member?, List.lookup, string?, number?, list?, mapM_string, small]

/-- `SampleBatch.render` in JSON format is a `Document` of `SampleBatch.toJson` and of no other value.
    `ofText?` reads the batch back, so no other batch is rendered alike. -/
theorem document_render (b : SampleBatch) :
    (∀ v, Document (b.render .json) v ↔ v = b.toJson) ∧ ofText? (b.render .json) = some b ∧
      ∀ b' : SampleBatch, b'.render .json = b.render .json → b' = b := by
  have read (b : SampleBatch) : JsonValue.ofText? (b.render .json) = some b.toJson :=
    ofText?_eq_some_iff.mpr (document_document b.toJson)
  have back (b : SampleBatch) : ofText? (b.render .json) = some b := by
    rw [ofText?, read b]
    exact ofJson?_toJson b
  refine ⟨fun v => ?_, back b, fun b' same => ?_⟩
  · rw [← ofText?_eq_some_iff, read b, Option.some.injEq, eq_comm]
  · have again := back b'
    rw [same, back b] at again
    exact (Option.some.inj again).symm

end SampleBatch

end PatternSampler
