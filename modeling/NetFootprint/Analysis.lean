import NetFootprint.Config
import NetFootprint.Network.Build

/-!
# Analyses

An analysis builds a network, reports its memory, and checks it against the memory of the device.
-/

namespace NetFootprint

/-- What is analysed: the layers, the external inputs and a label. -/
structure Subject where
  layers : Layers
  inputNames : Value
  inputShapes : Value
  label : Value

namespace Subject

def request (s : Subject) (c : Config) : Request where
  layers := s.layers
  phase := .text c.phase.name
  inputNames := s.inputNames
  inputShapes := s.inputShapes
  elementSize := c.settings.elementSize
  label := s.label

/-- The figures that the summary of an analysis shows. -/
def figures (c : Config) (n : Network) (totalMb : Float) : Log.Summary :=
  [("network", if n.label.truthy then n.label else .text "N/A"), ("phase", .text c.phase.name),
    ("accelerated", c.accelerated), ("layers", .int n.layers.length),
    ("blobs", .int n.graph.registered.length), ("total_mb", .float totalMb),
    ("budget_mb", c.gpuMemoryMb)]

/-- The report of a network, refused if the network does not fit the device. -/
def judge (c : Config) (r : Report) : Except Failure Report := do
  match ← c.budget with
  | none => return r
  | some budget =>
    r.checkBudget (.int budget)
    return r

def analyzeUnder (s : Subject) (c : Config) : Log.Logged Report :=
  let built := (s.request c).build
  match built.result with
  | .error e => ⟨built.events, .error e⟩
  | .ok n =>
    match n.report c.accelerated with
    | .error m => ⟨built.events, .error (.misuse m)⟩
    | .ok r =>
      match r.totalMb with
      | .error m => ⟨built.events, .error (.misuse m)⟩
      | .ok totalMb => ⟨built.events ++ [.summary (figures c n totalMb)], judge c r⟩

/-- Analyses a network under settings, which are checked first. -/
def analyze (s : Subject) (settings : Settings) : Log.Logged Report :=
  match settings.validate with
  | .error e => ⟨[], .error e⟩
  | .ok c => s.analyzeUnder c

end Subject

end NetFootprint
