import NetFootprint.About
import NetFootprint.Analysis
import NetFootprint.CommandLine.Arguments
import NetFootprint.CommandLine.InputSpec
import NetFootprint.CommandLine.ModelFile

/-!
# Running a command

From the words of a command line to what is written and the exit code. The environment and the
files are given, so a run depends on nothing else.
-/

namespace NetFootprint.CommandLine

/-- What a command writes, and its exit code unless a misuse cut it short. -/
structure Outcome where
  stdout : String
  stderr : String
  ending : Except Misuse Nat

/-- What a command can see of the outside. -/
structure Surroundings where
  environment : Environment
  openFile : Path → Except OpenProblem (List UInt8)

/-- A command that ends with a message. -/
def Outcome.failed (log message : String) : Outcome :=
  ⟨"", log ++ "Error: " ++ message ++ "\n", .ok 1⟩

/-- A command that ends with a failure, after something was logged. -/
def Outcome.ofFailure (log : String) : Failure → Outcome
  | .fault f => .failed log f.message
  | .misuse m => ⟨"", log, .error m⟩

def readModel (s : Surroundings) (path : String) : Except Unreadable Model :=
  let p := Path.ofText path
  match s.openFile p with
  | .error problem => .error (.told (problem.message p.text))
  | .ok bytes => Model.ofBytes p.stem bytes

/-- The specification that an option gives. -/
def readSpecOption : Value → Except Failure (String × List Int)
  | .text spec => readInputSpec spec
  | _ => .error (.misuse .absent)

/-- The external inputs of a model and those of the command line, which replace them by name. -/
def gatherInputs (m : Model) (specs : List Value) : Except Failure (List (Value × Value)) := do
  let declared ← m.inputEntries
  specs.foldlM (fun entries spec => do
    let (name, shape) ← readSpecOption spec
    return setEntry (Value.text name) (.list (shape.map .int)) entries) declared

/-- The settings that the command line gives. -/
def givenSettings (a : AnalyzeArguments) (m : Model) : List (String × Value) :=
  [("phase", a.phase), ("accelerated", if a.accelerated then .bool true else .null),
    ("gpu_memory_mb", a.budgetMb), ("element_size", m.elementSize)]

/-- What is to be analysed, and under which settings. -/
def prepare (s : Surroundings) (a : AnalyzeArguments) (m : Model) :
    Except Failure (Subject × Config) := do
  let inputs ← gatherInputs m a.inputs
  let config ← Config.ofEnvironment s.environment (givenSettings a m)
  return ({ layers := .records m.layers, inputNames := .list (inputs.map Prod.fst)
            inputShapes := .list (inputs.map Prod.snd), label := m.name }, config)

/-- The verbosity of a command: given, or else taken from the environment. -/
def verbosityOf (s : Surroundings) (a : AnalyzeArguments) : Except Misuse Verbosity :=
  match a.verbosity with
  | .null => .ok (Verbosity.ofEnvironment s.environment.verbosity)
  | v => Verbosity.ofValue v

/-- A report in the form that was asked for. -/
def present (asJson : Bool) (r : Report) : Except Misuse String := do
  if asJson then return Json.page (← r.toValue) else r.table

/-- Analyses a model at a verbosity. -/
def analyzeModel (s : Surroundings) (a : AnalyzeArguments) (verbosity : Verbosity) (m : Model) :
    Outcome :=
  match prepare s a m with
  | .error f => .ofFailure "" f
  | .ok (subject, config) =>
    let (log, result) := (subject.analyzeUnder config).published (.plain verbosity "")
    match result with
    | .error f => .ofFailure log f
    | .ok r =>
      match present a.asJson r with
      | .ok shown => ⟨shown ++ "\n", log, .ok 0⟩
      | .error m => ⟨"", log, .error m⟩

def runAnalyze (s : Surroundings) (a : AnalyzeArguments) : Outcome :=
  match verbosityOf s a with
  | .error m => ⟨"", "", .error m⟩
  | .ok verbosity =>
    match readModel s a.model with
    | .error (.told message) => .failed "" s!"cannot read {a.model}: {message}"
    | .error (.misuse m) => ⟨"", "", .error m⟩
    | .ok m => analyzeModel s a verbosity m

/-- The file that a command line needs, if it needs one. -/
def neededFile? (words : List String) : Option Path :=
  match readCommand words with
  | .ok (.analyze a) => some (Path.ofText a.model)
  | _ => none

def run (s : Surroundings) (words : List String) : Outcome :=
  match readCommand words with
  | .error .help | .ok .help => ⟨About.usageText ++ "\n", "", .ok 0⟩
  | .error .refused => ⟨"", About.usageText ++ "\n", .ok 2⟩
  | .ok .version => ⟨About.versionText ++ "\n", "", .ok 0⟩
  | .ok .info => ⟨About.infoText ++ "\n", "", .ok 0⟩
  | .ok (.analyze a) => runAnalyze s a

end NetFootprint.CommandLine
