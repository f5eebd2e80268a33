import NetFootprint.Fault
import NetFootprint.Phase

/-!
# Configuration

The settings of an analysis: given by the caller, or taken from environment variables where the
caller gives none. Settings are checked before they are used.
-/

namespace NetFootprint

/-- The phase of settings: chosen, or a value that is still to be read. -/
inductive PhaseSetting where
  | chosen (p : Phase)
  | given (v : Value)

/-- Settings as they are given. -/
structure Settings where
  phase : PhaseSetting := .chosen .test
  accelerated : Value := .bool false
  gpuMemoryMb : Value := .null
  elementSize : Value := .null

/-- Settings that are checked. -/
structure Config where
  phase : Phase
  /-- Any true value stands for an accelerated library. -/
  accelerated : Value
  /-- The memory of the device in mebibytes; null without a limit. -/
  gpuMemoryMb : Value
  elementSize : Option (List Float)

/-- The variables of the environment that settings are taken from. -/
structure Environment where
  phase : Option String
  accelerated : Option String
  gpuMemoryMb : Option String
  verbosity : Option String

/-- The budget in bytes for an amount in mebibytes; none if the amount is null. -/
def budgetBytes (gpuMemoryMb : Value) : Except Misuse (Option Int) :=
  match gpuMemoryMb with
  | .null => .ok none
  | v => (v.scaledToInt mebibyte).map some

namespace Settings

/-- The fault of a setting. A value that is null is not shown. -/
def refuse (message key : String) (v : Value) : Fault := .configuration message (.text key) v

def readPhase (s : Settings) : Except Failure Phase :=
  match s.phase with
  | .chosen p => .ok p
  | .given v => explain (refuse "phase must be 'train' or 'test'" "phase" v) (Phase.ofValue v)

/-- The memory limit must be positive. -/
def requireBudget (s : Settings) : Except Failure Unit :=
  match s.gpuMemoryMb with
  | .null => .ok ()
  | v => do
    if ← v.notPositive then throw (.fault (refuse "GPU memory budget must be positive"
      "gpu_memory_mb" v))

/-- The element size that is set. It needs extents, and all of them positive. -/
def readElementSize (s : Settings) : Except Failure (Option (List Float)) :=
  match s.elementSize with
  | .null => .ok none
  | v => do
    let extents ← v.toFloats
    if extents.isEmpty || extents.any (fun e => e <= 0) then
      throw (.fault (refuse "element size must contain positive extents" "element_size"
        (.text (Value.exactTuple (extents.map .float)))))
    return some extents

def validate (s : Settings) : Except Failure Config := do
  let phase ← s.readPhase
  s.requireBudget
  let elementSize ← s.readElementSize
  return { phase, accelerated := s.accelerated, gpuMemoryMb := s.gpuMemoryMb, elementSize }

def set (s : Settings) (name : String) (v : Value) : Except Misuse Settings :=
  if name = "phase" then .ok { s with phase := .given v }
  else if name = "accelerated" then .ok { s with accelerated := v }
  else if name = "gpu_memory_mb" then .ok { s with gpuMemoryMb := v }
  else if name = "element_size" then .ok { s with elementSize := v }
  else .error .wrongKind

def setAll (s : Settings) (fields : List (String × Value)) : Except Misuse Settings :=
  fields.foldlM (fun s f => s.set f.1 f.2) s

/-- The spellings that switch a flag on. -/
def trueWords : List String := ["1", "on", "true", "yes"]

/-- The spellings that switch a flag off. -/
def falseWords : List String := ["0", "off", "false", "no", ""]

def readFlag (key spelling : String) : Except Failure Bool :=
  let word := Text.lower (Text.trim spelling)
  if trueWords.contains word then .ok true
  else if falseWords.contains word then .ok false
  else .error (.fault (refuse "cannot interpret accelerated flag" key (.text spelling)))

def readNumber (key spelling : String) : Except Failure Float :=
  explain (refuse "GPU memory budget must be a number" key (.text spelling))
    (Value.text spelling).toFloat

/-- The settings of an environment; an empty phase or limit counts as unset. -/
def ofEnvironment (env : Environment) : Except Failure Settings := do
  let phase : PhaseSetting := match env.phase with
    | none | some "" => .chosen .test
    | some p => .given (.text p)
  let accelerated ← match env.accelerated with
    | none => pure (Value.bool false)
    | some s => (readFlag "LAYERGAUGE_ACCELERATED" s).map Value.bool
  let gpuMemoryMb ← match env.gpuMemoryMb with
    | none | some "" => pure Value.null
    | some s => (readNumber "LAYERGAUGE_GPU_MEMORY_MB" s).map Value.float
  return { phase, accelerated, gpuMemoryMb }

/-- The settings of an environment with those given in their place; what is null is not given. -/
def merged (env : Environment) (given : List (String × Value)) : Except Failure Settings := do
  (← ofEnvironment env).setAll (given.filter (fun f => !(f.2 == Value.null)))

/-- The settings as an object. A phase that is still to be read cannot be shown. -/
def toValue (s : Settings) : Except Misuse Value := do
  let phase ← match s.phase with
    | .chosen p => pure p
    | .given _ => throw Misuse.absent
  let elementSize ← if s.elementSize.truthy then do pure (Value.list (← s.elementSize.members))
    else pure .null
  return .object [("phase", .text phase.name), ("accelerated", s.accelerated),
    ("gpu_memory_mb", s.gpuMemoryMb), ("element_size", elementSize)]

end Settings

namespace Config

/-- The checked settings of an environment, with those given in their place. -/
def ofEnvironment (env : Environment) (given : List (String × Value)) : Except Failure Config := do
  (← Settings.merged env given).validate

def budget (c : Config) : Except Misuse (Option Int) := budgetBytes c.gpuMemoryMb

def settings (c : Config) : Settings where
  phase := .chosen c.phase
  accelerated := c.accelerated
  gpuMemoryMb := c.gpuMemoryMb
  elementSize := match c.elementSize with
    | none => .null
    | some sizes => .list (sizes.map .float)

end Config

end NetFootprint
