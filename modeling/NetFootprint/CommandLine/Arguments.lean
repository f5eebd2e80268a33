import NetFootprint.CommandLine.Grammar
import NetFootprint.Number.Numeral
import NetFootprint.Value

/-!
# Commands

What a command line asks for. Arguments take effect in the order in which they are written, so a
request for help counts unless an argument before it is wrong.
-/

namespace NetFootprint.CommandLine

/-- What an analysis is asked to do. What is null is not given; an option that is given without a
value has the empty list in its place. -/
structure AnalyzeArguments where
  model : String
  inputs : List Value
  phase : Value
  accelerated : Bool
  budgetMb : Value
  asJson : Bool
  verbosity : Value

inductive Command where
  | help
  | version
  | info
  | analyze (a : AnalyzeArguments)

/-- Why there is no command: help was asked for, or the words are wrong. -/
inductive Stop where
  | help
  | refused
  deriving DecidableEq, Repr

def helpRule : Rule := ⟨"help", ["-h", "--help"], false⟩

def mainGrammar : Grammar where
  rules := [helpRule, ⟨"version", ["--version", "-v"], false⟩, ⟨"info", ["--info"], false⟩]
  positional := .remainder

def analyzeGrammar : Grammar where
  rules :=
    [helpRule, ⟨"input", ["--input"], true⟩, ⟨"phase", ["--phase"], true⟩,
     ⟨"accelerated", ["--accelerated"], false⟩, ⟨"budget", ["--budget-mb"], true⟩,
     ⟨"json", ["--json"], false⟩, ⟨"verbose", ["--verbose"], true⟩]
  positional := .single

/-- The arguments of an analysis so far; the model is still missing. -/
structure Collected where
  model : Option String := none
  inputs : List Value := []
  phase : Value := .null
  accelerated : Bool := false
  budgetMb : Value := .null
  asJson : Bool := false
  verbosity : Value := .null

/-- A value that can be read, or else a wrong word. -/
def wanted {α : Type} : Option α → Except Stop α
  | some a => .ok a
  | none => .error .refused

/-- The value that the words of an option spell. Every word has to be readable. -/
def optionValue (read : String → Option Value) : List String → Except Stop Value
  | [word] => wanted (read word)
  | words => do return .list (← words.mapM (fun word => wanted (read word)))

def phaseWord? (word : String) : Option Value :=
  if word = "train" ∨ word = "test" then some (.text word) else none

/-- The effect of an option of an analysis. -/
def Collected.apply (p : Collected) (key : String) (words : List String) :
    Except Stop Collected :=
  match key with
  | "help" => .error .help
  | "input" => do
    return { p with inputs := p.inputs ++ [← optionValue (fun word => some (.text word)) words] }
  | "phase" => do return { p with phase := ← optionValue phaseWord? words }
  | "accelerated" => .ok { p with accelerated := true }
  | "budget" => do
    let budgetMb ← optionValue (fun word => (Numeral.decimal? word).map .float) words
    return { p with budgetMb }
  | "json" => .ok { p with asJson := true }
  | "verbose" => do
    let verbosity ← optionValue (fun word => (Numeral.whole? word).map .int) words
    return { p with verbosity }
  | _ => .error .refused

/-- The effect of an item of an analysis. -/
def Collected.step (p : Collected) : Item → Except Stop Collected
  | .option key words => p.apply key words
  | .positional words => .ok { p with model := words.head? }

def readAnalyze (words : List String) : Except Stop (AnalyzeArguments × List String) := do
  let scan := analyzeGrammar.scan words
  let p ← scan.items.foldlM Collected.step {}
  if scan.refused then throw .refused
  let model ← wanted p.model
  return ({ model, inputs := p.inputs, phase := p.phase, accelerated := p.accelerated
            budgetMb := p.budgetMb, asJson := p.asJson, verbosity := p.verbosity }, scan.extras)

/-- What is known of a command line so far. -/
structure Progress where
  version : Bool := false
  info : Bool := false
  analyze : Option AnalyzeArguments := none
  extras : List String := []

/-- The effect of an item in front of a command, or of the command itself. -/
def Progress.step (p : Progress) : Item → Except Stop Progress
  | .option "help" _ => .error .help
  | .option "version" _ => .ok { p with version := true }
  | .option "info" _ => .ok { p with info := true }
  | .option _ _ => .error .refused
  | .positional ("analyze" :: words) => do
    let (a, extras) ← readAnalyze words
    return { p with analyze := some a, extras }
  | .positional _ => .error .refused

def readCommand (words : List String) : Except Stop Command := do
  let scan := mainGrammar.scan words
  let p ← scan.items.foldlM Progress.step {}
  if scan.refused || !scan.extras.isEmpty || !p.extras.isEmpty then throw .refused
  if p.version then return .version
  if p.info then return .info
  match p.analyze with
  | some a => return .analyze a
  | none => return .help

end NetFootprint.CommandLine
