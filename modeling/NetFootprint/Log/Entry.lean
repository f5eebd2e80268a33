import NetFootprint.Json.Writer
import NetFootprint.Log.Verbosity
import NetFootprint.Value.Mapping
import NetFootprint.Value.Text

/-!
# Log entries

An entry of the log with its context. It can be written as a line of text or as a JSON object.
-/

namespace NetFootprint.Log

/-- The component that entries belong to unless they name another one. -/
def defaultComponent : String := "layergauge"

/-- An entry. What is null is not there. -/
structure Entry where
  level : Value
  message : Value
  timestamp : Value
  component : Value
  network : Value
  layer : Value
  memoryMb : Value
  /-- All further context; nothing, or entries under keys. -/
  extra : Value

namespace Entry

/-- The parts of the context that have a place of their own in an entry. -/
def ownKeys : List String := ["component", "network", "layer", "memory_mb"]

/-- The entry for a message with a context. -/
def ofContext (level : Verbosity) (message timestamp : Value) (context : List (String × Value)) :
    Entry where
  level := .text level.name
  message := message
  timestamp := timestamp
  component := (context.lookup "component").getD (.text defaultComponent)
  network := (context.lookup "network").getD .null
  layer := (context.lookup "layer").getD .null
  memoryMb := (context.lookup "memory_mb").getD .null
  extra := .object (context.filter (fun e => !ownKeys.contains e.1))

def fieldNames : List String :=
  ["level", "message", "timestamp", "component", "network", "layer", "memory_mb", "extra"]

/-- Further context as an entry keeps it: a list of pairs becomes an object, anything else stays as
it is. -/
def extraOf : Value → Except Misuse Value
  | .list pairs => do
    return .object ((← Value.mapping (.list pairs)).map (fun e => (Json.keyText e.1, e.2)))
  | v => .ok v

/-- The entry with the given parts. The first three are needed, and no others than those of an entry
are allowed. -/
def ofFields (fields : List (String × Value)) : Except Misuse Entry :=
  if fields.any (fun f => !fieldNames.contains f.1) then .error .wrongKind
  else
    match fields.lookup "level", fields.lookup "message", fields.lookup "timestamp" with
    | some level, some message, some timestamp => .ok
      { level, message, timestamp
        component := (fields.lookup "component").getD (.text defaultComponent)
        network := (fields.lookup "network").getD .null
        layer := (fields.lookup "layer").getD .null
        memoryMb := (fields.lookup "memory_mb").getD .null
        extra := (fields.lookup "extra").getD (.object []) }
    | _, _, _ => .error .wrongKind

/-- The parts that are there, by name. -/
def present (e : Entry) : List (String × Value) :=
  ([("level", e.level), ("message", e.message), ("timestamp", e.timestamp),
    ("component", e.component), ("network", e.network), ("layer", e.layer),
    ("memory_mb", e.memoryMb)].filter (fun p => !(p.2 == Value.null))) ++
    (if e.extra.truthy then [("extra", e.extra)] else [])

def json (e : Entry) : String := Json.line (.object e.present)

/-- The amount of memory behind a line. -/
def memoryText : Value → Except Misuse (List String)
  | .null => .ok []
  | v => do return ["[" ++ (← v.fixed 1) ++ "MB]"]

/-- The message of a line, which has to be a text. -/
def messageText : Value → Except Misuse String
  | .text s => .ok s
  | _ => .error .wrongKind

def text (e : Entry) : Except Misuse String := do
  let memory ← memoryText e.memoryMb
  let message ← messageText e.message
  let layer := match e.layer with
    | .null => []
    | v => ["(layer=" ++ v.plain ++ ")"]
  return joinWith " "
    (["[" ++ e.level.plain ++ "]", "[" ++ e.component.plain ++ "]", message] ++ layer ++ memory)

end Entry

end NetFootprint.Log
