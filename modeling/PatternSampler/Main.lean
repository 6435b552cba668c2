import PatternSampler.CommandLine

/-! # The program

Reads the files and the environment that the command line may ask for, and writes what comes out.
-/

namespace PatternSampler

def readFile? (name : String) : IO (Option (String × String)) := do
  try return some (name, ← IO.FS.readFile name) catch _ => return none

/-- The variables of this process, as the system lists them: each ends with a zero character. -/
def readVariables : IO (List (String × String)) := do
  let some (_, listing) ← readFile? "/proc/self/environ" | return []
  return (listing.splitOn "\x00").filterMap fun entry =>
    match entry.splitOn "=" with
    | name :: value => if name = "" then none else some (name, "=".intercalate value)
    | [] => none

/-- A number that nobody can foresee. -/
def readEntropy : IO UInt64 := do
  return (← IO.getRandomBytes 8).foldl (fun word byte => word * 256 + byte.toUInt64) 0

def runProgram (arguments : List String) : IO UInt32 := do
  let names :=
    match Invocation.ofArguments arguments with
    | .ok invocation => invocation.fileNames
    | .error _ => []
  let surroundings : Surroundings :=
    { files := (← names.mapM readFile?).filterMap id, environment := ← readVariables }
  let outcome := Outcome.ofArguments surroundings (← readEntropy) arguments
  IO.print outcome.standardOutput
  IO.eprint outcome.standardError
  return outcome.exitCode

end PatternSampler

def main (arguments : List String) : IO UInt32 := PatternSampler.runProgram arguments
