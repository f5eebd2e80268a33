import NetFootprint.Fault
import NetFootprint.Phase

/-!
# Layer declarations

A network is described by an ordered list of layer records. A declaration is such a record after
reading: texts for names and tag, the parameters as they are, and the phases the layer is restricted
to or removed from. Only the source of external inputs, which has no record, may give its outputs
names that are no texts.
-/

namespace NetFootprint

/-- One layer of a network description. -/
structure Declaration where
  type : String
  name : String
  inputs : List String
  outputs : List Value
  params : List (String × Value)
  /-- The only phases with this layer; none for all. -/
  included : List Phase
  /-- The phases without this layer. -/
  excluded : List Phase

namespace Declaration

def inPhase (d : Declaration) (p : Phase) : Bool :=
  !d.excluded.contains p && (d.included.isEmpty || d.included.contains p)

def param (d : Declaration) (key : String) : Value := (d.params.lookup key).getD .null

/-- The fault of a layer that does not fit, and the parameter that is at fault. -/
def fault (d : Declaration) (message parameter : String) : Fault :=
  .invalidParameter message (.text d.name) (.text d.type) (.text parameter)

def recordFault (message name type parameter : String) : Failure :=
  .fault (.invalidParameter message (.text name) (.text type) (.text parameter))

/-- The phases of a record's `key` entry: one phase or a list of them. -/
def phasesOf (name type key : String) (v : Value) : Except Failure (List Phase) :=
  v.oneOrMore.mapM fun p =>
    explain (.invalidParameter s!"unknown phase {p.exact} in '{key}'" (.text name) (.text type)
      (.text key)) (Phase.ofValue p)

/-- The texts of the members of the first entry found under one of two keys; no texts without
one. -/
def namesOf (fields : List (String × Value)) (key other : String) : Except Misuse (List String) :=
  match fields.lookup key, fields.lookup other with
  | some v, _ => do return (← v.members).map Value.plain
  | none, some v => do return (← v.members).map Value.plain
  | none, none => .ok []

def ofValue (v : Value) : Except Failure Declaration :=
  match v with
  | .object fields => do
    let name := ((fields.lookup "name").getD (.text "")).plain
    let type ← match fields.lookup "type" with
      | some t => pure t.plain
      | none => throw (recordFault "layer declaration has no 'type'" name "" "type")
    let params ← match (fields.lookup "params").getD (.object []) with
      | .object params => pure params
      | _ => throw (recordFault "'params' must be a mapping" name type "params")
    let inputs ← namesOf fields "inputs" "bottom"
    let outputs ← namesOf fields "outputs" "top"
    let included ← phasesOf name type "include" ((fields.lookup "include").getD .null)
    let excluded ← phasesOf name type "exclude" ((fields.lookup "exclude").getD .null)
    return { type, name, inputs, outputs := outputs.map .text, params, included, excluded }
  | v => throw (.fault (.invalidParameter
      s!"layer declaration must be a mapping, got {v.kindName}" .null .null .null))

/-- The entry for a phase list, left out if the list is empty. -/
def phaseEntry (key : String) (phases : List Phase) : List (String × Value) :=
  if phases.isEmpty then [] else [(key, .list (phases.map (fun p => .text p.name)))]

def toValue (d : Declaration) : Value :=
  .object ([("type", .text d.type), ("name", .text d.name),
    ("inputs", .list (d.inputs.map .text)), ("outputs", .list d.outputs),
    ("params", .object d.params)] ++
    phaseEntry "include" d.included ++ phaseEntry "exclude" d.excluded)

/-- Whether two declarations are the same in every part. -/
def same (a b : Declaration) : Bool :=
  a.type == b.type && a.name == b.name && a.inputs == b.inputs &&
    Value.sameItems a.outputs b.outputs && Value.sameEntries a.params b.params &&
    a.included == b.included && a.excluded == b.excluded

end Declaration

end NetFootprint
