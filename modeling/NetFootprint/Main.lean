import NetFootprint.CommandLine.Run

/-!
# The program

Looks at the environment and at the file that the command needs, runs the command, and writes what
it gives.
-/

namespace NetFootprint.CommandLine

/-- A string of the system as a text. -/
def received (s : String) : String := Text.ofCharacters s.toList

/-- A text as a string of the system. -/
def sent (s : String) : String := String.ofList (Text.characters s)

def readVariable (name : String) : IO (Option String) := do return (← IO.getEnv name).map received

def processEnvironment : IO Environment := do
  return { phase := ← readVariable "LAYERGAUGE_PHASE"
           accelerated := ← readVariable "LAYERGAUGE_ACCELERATED"
           gpuMemoryMb := ← readVariable "LAYERGAUGE_GPU_MEMORY_MB"
           verbosity := ← readVariable "LAYERGAUGE_VERBOSITY" }

/-- Why the system did not open a file. -/
def openProblem : IO.Error → OpenProblem
  | .noFileOrDirectory .. => .missing
  | .inappropriateType .. => .isDirectory
  | .permissionDenied .. => .forbidden
  | .invalidArgument .. => .badPath
  | _ => .missing

def readContent (p : Path) : IO (Except OpenProblem (List UInt8)) := do
  try
    return .ok (← IO.FS.readBinFile (sent p.text)).toList
  catch e => return .error (openProblem e)

/-- What a command needs to know of the outside. -/
def lookAround (words : List String) : IO Surroundings := do
  let environment ← processEnvironment
  match neededFile? words with
  | none => return ⟨environment, fun _ => .error .missing⟩
  | some p =>
    let content ← readContent p
    return ⟨environment, fun _ => content⟩

end NetFootprint.CommandLine

open NetFootprint.CommandLine in
/-- Runs the command that the arguments spell. A misuse ends it with a code of its own. -/
def main (words : List String) : IO UInt32 := do
  let words := words.map received
  let outcome := run (← lookAround words) words
  IO.print (sent outcome.stdout)
  IO.eprint (sent outcome.stderr)
  match outcome.ending with
  | .ok code => return UInt32.ofNat code
  | .error _ => return 70
