import PatternSampler.Generator
import PatternSampler.Text.Json

/-! # Batches of samples

A request runs the whole way from a pattern to a batch of texts drawn from it, and a batch can be
written out in two formats. A batch records the seed of its source, so it can be drawn again.
-/

namespace PatternSampler

/-- How a batch is written out. -/
inductive OutputFormat where
  | text
  /-- A document with the pattern, the seed and the samples. -/
  | json
  deriving Repr, DecidableEq

namespace OutputFormat

def name : OutputFormat → String
  | text => "text"
  | json => "json"

/-- The format with exactly this name. -/
def ofName? (name : String) : Option OutputFormat :=
  if name = text.name then some text
  else if name = json.name then some json
  else none

end OutputFormat

inductive ProcessingError where
  | invalidFormat (name : String)
  | pattern (cause : ParseError)
  | fault (cause : Fault)
  deriving Repr, DecidableEq

namespace ProcessingError

def message : ProcessingError → String
  | invalidFormat name => "invalid output format '" ++ name ++ "' (expected 'text' or 'json')"
  | pattern cause => "invalid pattern: " ++ cause.message
  | fault cause => cause.message

end ProcessingError

/-- The format with exactly this name, or else an error that says which there are. -/
def OutputFormat.ofName (name : String) : Except ProcessingError OutputFormat :=
  match ofName? name with
  | some format => .ok format
  | none => .error (.invalidFormat name)

structure SampleBatch where
  pattern : String
  seed : UInt64
  samples : List String
  deriving Repr, DecidableEq

namespace SampleBatch

def toJson (b : SampleBatch) : JsonValue :=
  .object [("pattern", .string b.pattern), ("seed", .number b.seed.toNat),
    ("samples", .list (b.samples.map .string))]

def render (b : SampleBatch) : OutputFormat → String
  | .text => "\n".intercalate b.samples
  | .json => b.toJson.document

end SampleBatch

/-- What to draw: how many texts from which pattern, with which seed. -/
structure GenerationRequest where
  pattern : String
  seed : Option UInt64 := none
  count : Nat := 1
  extra : UInt32 := defaultExtra
  deriving Repr, DecidableEq

/-- The batch of a request. A request without a seed takes `entropy` for one. -/
def GenerationRequest.run (r : GenerationRequest) (entropy : UInt64) :
    Except ProcessingError SampleBatch :=
  match Generator.ofPattern r.pattern with
  | .error e => .error (.pattern e)
  | .ok g =>
    let seed := r.seed.getD entropy
    match (g.withExtra r.extra).samples r.count seed with
    | .error e => .error (.fault e)
    | .ok samples => .ok ⟨r.pattern, seed, samples⟩

end PatternSampler
