import PatternSampler.CommandLine.Arguments
import PatternSampler.Settings.Loader
import PatternSampler.Token.Listing

/-! # The command line

The commands of the program, as functions of what they are given and of the surroundings to what they
write and how they end. The settings of a generation come from the file in the working directory, if
there is one, from a file that is named, from the environment and from the options, each over the ones
before. They are settled before the pattern is read, so what is wrong with them is reported first.
-/

namespace PatternSampler

inductive CommandError where
  | settings (cause : SettingsError)
  | processing (cause : ProcessingError)
  | lex (cause : LexError)
  | parse (cause : ParseError)
  | fault (cause : Fault)
  deriving Repr, DecidableEq

namespace CommandError

def message : CommandError → String
  | settings cause => cause.message
  | processing cause => cause.message
  | lex cause => cause.message
  | parse cause => cause.message
  | fault cause => cause.message

def lift {ε α : Type} (wrap : ε → CommandError) : Except ε α → Except CommandError α
  | .error cause => .error (wrap cause)
  | .ok a => .ok a

end CommandError

/-- A batch as it is printed: with a line feed at the end, but nothing at all for no lines of text. -/
def SampleBatch.printed (b : SampleBatch) (format : OutputFormat) : String :=
  if format = .text ∧ b.samples = [] then "" else b.render format ++ "\n"

/-- A listing as it is printed: with a line feed at the end, but nothing at all for no tokens. -/
def printedListing (lexemes : List Lexeme) : String :=
  if lexemes = [] then "" else tokenListing lexemes ++ "\n"

/-- The file with settings that is looked for in the working directory. -/
def localSettingsFile : String := "rxgen.toml"

namespace Given

def loader (g : Given) : Except SettingsError Loader := do
  let layers := Loader.empty.withOptionalFile localSettingsFile
  let layers := (g.config.elim layers layers.withFile).withEnvironment
  let layers ← g.format.elim (.ok layers) fun format =>
    layers.setOverride "output.format" (.string format.name)
  g.count.elim (.ok layers) fun count => layers.setOverride "output.count" (.integer count.toNat)

/-- What a generation prints. Without a seed, `entropy` is the seed. -/
def generated (g : Given) (pattern : String) (s : Surroundings) (entropy : UInt64) :
    Except CommandError String := do
  let settings ← CommandError.lift .settings do (← g.loader).build s
  let request : GenerationRequest :=
    { pattern, seed := g.seed, count := settings.count, extra := settings.extra }
  let batch ← CommandError.lift .processing (request.run entropy)
  return batch.printed settings.format

end Given

def listed (pattern : String) : Except CommandError String :=
  CommandError.lift .lex (printedListing <$> tokenize pattern)

/-- What a check of a pattern prints, with or without its tree. -/
def checked (pattern : String) (withTree : Bool) : Except CommandError String := do
  let tree ← CommandError.lift .parse (parse pattern)
  let outline ← if withTree then CommandError.lift .fault tree.outline else .ok ""
  return outline ++ "ok\n"

inductive Outcome where
  | success (output : String)
  | failure (cause : CommandError)
  | misuse (cause : Misuse)
  /-- The settings cannot be put together, and nobody handles it. -/
  | panic (cause : PlaceFault)
  deriving Repr, DecidableEq

def versionText : String := "rxgen 0.1.0\n"

def helpText : String :=
  "Generate random strings from a restricted regular expression\n\n"
    ++ "Usage:\n"
    ++ "  rxgen generate <pattern> [--seed N] [--count N] [--format text|json] [--config FILE]\n"
    ++ "  rxgen tokens <pattern>\n"
    ++ "  rxgen check <pattern> [--ast]\n"

namespace Invocation

/-- What an invocation prints. -/
def output (s : Surroundings) (entropy : UInt64) : Invocation → Except CommandError String
  | help => .ok helpText
  | version => .ok versionText
  | run .generate pattern given => given.generated pattern s entropy
  | run .tokens pattern _ => listed pattern
  | run .check pattern given => checked pattern given.ast

def fileNames : Invocation → List String
  | run .generate _ given =>
    (localSettingsFile :: given.config.toList).flatMap Surroundings.candidates
  | _ => []

end Invocation

namespace Outcome

/-- How the program ends with what a command comes to. -/
def ended : Except CommandError String → Outcome
  | .ok output => success output
  | .error (.settings (.badPlace cause)) => panic cause
  | .error cause => failure cause

/-- How the program ends with these arguments. -/
def ofArguments (s : Surroundings) (entropy : UInt64) (texts : List String) : Outcome :=
  match Invocation.ofArguments texts with
  | .error cause => misuse cause
  | .ok invocation => ended (invocation.output s entropy)

def exitCode : Outcome → UInt32
  | success _ => 0
  | failure _ => 1
  | misuse _ => 2
  | panic _ => 101

def standardOutput : Outcome → String
  | success output => output
  | _ => ""

/-- What is written beside the output. A panic also names the place in the program where it arose, which is
    left out here. -/
def standardError : Outcome → String
  | success _ => ""
  | failure cause => "Error: " ++ cause.message ++ "\n"
  | misuse cause => "error: " ++ cause.message ++ "\n\n" ++ helpText
  | panic cause => "thread 'main' panicked:\n" ++ cause.message ++ "\n"

end Outcome

end PatternSampler
