import NetFootprint.CommandLine.Path
import NetFootprint.Json.Reader
import NetFootprint.Text.Utf8
import NetFootprint.Value.Mapping

/-!
# Model files

A model file holds a network as JSON: a list of layers, or an object with the layers, the external
inputs, the name of the network and its element size.
-/

namespace NetFootprint.CommandLine

/-- A network as its file describes it. -/
structure Model where
  name : Value
  inputs : Value
  layers : Value
  elementSize : Value

/-- Why there is no model: a sentence for the user, or a misuse. -/
inductive Unreadable where
  | told (message : String)
  | misuse (m : Misuse)

namespace Model

/-- Writes every line end as a line feed. -/
def plainLineEnds : List Char → List Char
  | [] => []
  | '\r' :: '\n' :: rest => '\n' :: plainLineEnds rest
  | '\r' :: rest => '\n' :: plainLineEnds rest
  | c :: rest => c :: plainLineEnds rest

/-- The model of a decoded file; the file's name stands in for a name. -/
def ofValue (stem : String) : Value → Except Unreadable Model
  | .list layers => .ok
    { name := .text stem, inputs := .object [], layers := .list layers, elementSize := .null }
  | .object entries => .ok
    { name := (entries.lookup "name").getD (.text stem)
      inputs := (entries.lookup "inputs").getD (.object [])
      layers := (entries.lookup "layers").getD (.list [])
      elementSize := (entries.lookup "element_size").getD .null }
  | _ => .error (.told "model must be a list of layers or an object")

/-- The model in the content of a file, or what is wrong with the content. -/
def ofBytes (stem : String) (bytes : List UInt8) : Except Unreadable Model :=
  match Utf8.decode bytes with
  | .error flaw => .error (.told flaw.message)
  | .ok cs =>
    let source := plainLineEnds cs
    match Json.read source with
    | .error ⟨.nesting, _⟩ => .error (.misuse .tooDeep)
    | .error complaint => .error (.told (complaint.message source))
    | .ok v => ofValue stem v

/-- Whether two keys of a model are the same. Not-a-number is written by a name of its own, so it
is one key wherever it stands. -/
def sameKey (a b : Value) : Bool := a == b || a.equals b

/-- The external inputs: an object, or a list of pairs. -/
def inputEntries (m : Model) : Except Misuse (List (Value × Value)) :=
  m.inputs.mappingBy sameKey

end Model

end NetFootprint.CommandLine
