import NetFootprint.LayerType
import NetFootprint.Text.Case
import NetFootprint.Value.Mapping
import NetFootprint.Value.Text

/-!
# Faults

The errors that are explained to the user. A fault is its cause; the summary, the numbered
suggestions and the context that a user reads are functions of it. Empty names and tags are left
out of the context.
-/

namespace NetFootprint

def mebibyte : Nat := 1024 * 1024

/-- An amount of bytes in mebibytes, as a float. -/
def Amount.inMebibytes : Amount → Except Misuse Float
  | .whole n =>
    match Double.ofQuotient? n mebibyte with
    | some x => .ok x
    | none => .error .tooLarge
  | .float x => .ok (x / 1048576.0)

def Amount.mebibytes (bytes : Amount) : Except Misuse String := do
  return Double.fixed 2 (← bytes.inMebibytes)

/-- Why an operation was refused. Names and tags are texts as a rule, but any value may stand for
one; null stands for one that is not there. -/
inductive Fault where
  /-- A fault with a wording of its own. -/
  | general (message : String) (suggestions : List Value) (context : List (Value × Value))
  /-- No layer family goes by the tag. The supported tags are kept, and those like it. -/
  | unsupportedLayerType (tag layer supported : Value) (similar : List String)
  /-- A blob is used that no earlier layer has produced. -/
  | missingBlob (blob layer type role : Value)
  /-- An output has the name of a blob that exists. -/
  | duplicateOutput (blob layer type : Value)
  | invalidParameter (message : String) (layer type parameter : Value)
  | configuration (message : String) (key value : Value)
  /-- More memory is needed than there is; both amounts are kept in bytes and as texts in
  mebibytes. -/
  | budgetExceeded (required available accelerated : Value) (requiredMb availableMb : String)

def contextEntry (key : String) (v : Value) : Value × Value := (.text key, v)

namespace Fault

/-- Whether the first sequence occurs in the second. -/
def occursIn {α : Type} [BEq α] (part : List α) : List α → Bool
  | [] => part.isEmpty
  | c :: cs => part.isPrefixOf (c :: cs) || occursIn part cs

/-- The first three tags that contain the given one or are contained in it, letter case aside. -/
def similarTags (tag : String) (supported : List String) : List String :=
  let wanted := Text.codes (Text.lower tag)
  (supported.filter (fun t =>
    let known := Text.codes (Text.lower t)
    occursIn wanted known || occursIn known wanted)).take 3

/-- A context entry, unless its value is missing, empty or zero. -/
def entry? (key : String) (v : Value) : List (Value × Value) :=
  if v.truthy then [contextEntry key v] else []

def layerContext (layer type : Value) : List (Value × Value) :=
  entry? "layer_name" layer ++ entry? "layer_type" type

def summary : Fault → String
  | general message _ _ => message
  | unsupportedLayerType tag _ _ _ => s!"Layer type '{tag.plain}' is not supported"
  | missingBlob blob _ _ role => s!"No blob named '{blob.plain}' available as {role.plain}"
  | duplicateOutput blob _ _ => s!"Output blob '{blob.plain}' already exists"
  | invalidParameter message _ _ _ => s!"Invalid parameter: {message}"
  | configuration message _ _ => s!"Configuration error: {message}"
  | budgetExceeded .. => "Memory error: network exceeds the device memory budget"

def texts (ss : List String) : List Value := ss.map .text

def suggestions : Fault → List Value
  | general _ suggestions _ => suggestions
  | unsupportedLayerType _ _ _ similar =>
    texts ((if similar.isEmpty then [] else ["Try using: " ++ joinWith ", " similar]) ++
      ["Check the spelling and capitalization of the layer type",
       "Remove the layer from the declaration if it does not affect memory"])
  | missingBlob .. =>
    texts ["Declare the producing layer before its consumers",
      "Check that the producing layer is included in the current phase"]
  | duplicateOutput blob _ _ =>
    texts [s!"Rename the output '{blob.plain}' to a fresh name",
      "In-place operation is only supported by Dropout and ReLU layers"]
  | invalidParameter .. =>
    texts ["Increase the input tile shape", "Check kernel, pad, stride and dilation values"]
  | configuration .. =>
    texts ["Check configuration parameters", "Review the LAYERGAUGE_* environment variables"]
  | budgetExceeded _ _ accelerated _ _ =>
    texts (["Reduce the input tile shape", "Reduce the batch size"] ++
      match accelerated with
      | .bool false => ["Enable the accelerated library to replace explicit buffers"]
      | _ => [])

/-- What the fault concerns, in the order in which it is shown. -/
def context : Fault → List (Value × Value)
  | general _ _ context => context
  | unsupportedLayerType tag layer _ _ => layerContext layer tag
  | missingBlob blob layer type _ => layerContext layer type ++ [contextEntry "blob" blob]
  | duplicateOutput blob layer type => layerContext layer type ++ [contextEntry "blob" blob]
  | invalidParameter _ layer type parameter =>
    layerContext layer type ++ entry? "parameter" parameter
  | configuration _ key value =>
    entry? "config_key" key ++
      match value with
      | .null => []
      | v => [contextEntry "config_value" (.text v.plain)]
  | budgetExceeded _ _ accelerated requiredMb availableMb =>
    [contextEntry "required_mb" (.text requiredMb),
     contextEntry "available_mb" (.text availableMb)] ++
      match accelerated with
      | .null => []
      | v => [contextEntry "accelerated" v]

/-- The numbered suggestions from the given number on. -/
def numbered (n : Nat) : List Value → List String
  | [] => []
  | v :: rest => s!"  {n}. {v.plain}" :: numbered (n + 1) rest

/-- The whole message: the summary, then the suggestions and the context as blocks of their own if
there are any. -/
def message (f : Fault) : String :=
  let suggestions := f.suggestions
  let context := f.context
  joinWith "\n" ([f.summary] ++
    (if suggestions.isEmpty then [] else ["", "Suggestions:"] ++ numbered 1 suggestions) ++
    (if context.isEmpty then []
     else ["", "Context:"] ++ context.map (fun e => s!"  {e.1.plain}: {e.2.plain}")))

/-- The fault of a tag that no family of this library goes by, of a layer of some name. -/
def unknownTag (tag layer : String) : Fault :=
  .unsupportedLayerType (.text tag) (.text layer) (.list (texts LayerType.tags))
    (similarTags tag LayerType.tags)

/-- A text that is asked for what only texts have. -/
def textOnly : Value → Except Misuse String
  | .text s => .ok s
  | _ => .error .absent

/-- The fault of a tag that is not among supported tags. Without supported tags none is looked
for. -/
def unsupported (tag layer supported : Value) : Except Misuse Fault := do
  if supported.truthy then
    let spelled ← textOnly tag
    let known ← (← supported.members).mapM textOnly
    return .unsupportedLayerType tag layer supported (similarTags spelled known)
  else return .unsupportedLayerType tag layer (.list []) []

/-- The suggestions of a fault with a wording of its own: any sequence, or nothing. -/
def suggestionsOf (v : Value) : Except Misuse (List Value) :=
  if v.truthy then v.members else .ok []

/-- The context of a fault with a wording of its own: an object, a list of pairs, or nothing. -/
def contextOf : Value → Except Misuse (List (Value × Value))
  | .object entries => Value.mapping (.object entries)
  | .list items => Value.mapping (.list items)
  | v => if v.truthy then .error .absent else .ok []

/-- A fault with a wording of its own. The message has to be a text, which is found out last. -/
def worded (message suggestions context : Value) : Except Misuse Fault := do
  let suggestions ← suggestionsOf suggestions
  let context ← contextOf context
  match message with
  | .text s => return .general s suggestions context
  | _ => throw .wrongKind

/-- The fault of a network that needs `required` bytes where `available` are there. Amounts beyond
the range of floats cannot be reported. -/
def overBudget (required available accelerated : Value) : Except Misuse Fault := do
  let requiredMb ← (← required.amount).mebibytes
  let availableMb ← (← available.amount).mebibytes
  return .budgetExceeded required available accelerated requiredMb availableMb

/-- A shape that is not the one expected, told under the name of a parameter; both shapes are given
as texts. -/
def shapeMismatch (expected actual : String) (parameter layer type : Value) : Fault :=
  .invalidParameter s!"Shape mismatch: expected {expected}, got {actual}" layer type
    (if parameter.truthy then parameter else .text "shape")

end Fault

/-- Why an operation gave no result: it was refused with an explanation, or it was misused. -/
inductive Failure where
  | fault (f : Fault)
  | misuse (m : Misuse)

/-- A misuse inside an operation is a failure of the operation. -/
instance : MonadLift (Except Misuse) (Except Failure) := ⟨fun x => x.mapError .misuse⟩

/-- Explains an argument of the wrong kind or content by a fault; any other misuse stays. -/
def explain {α : Type} (f : Fault) : Except Misuse α → Except Failure α
  | .ok a => .ok a
  | .error .wrongKind | .error .malformed => .error (.fault f)
  | .error m => .error (.misuse m)

end NetFootprint
