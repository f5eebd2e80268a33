import NetFootprint.Fault
import NetFootprint.Log.Entry
import NetFootprint.Log.Summary
import NetFootprint.Value.Mapping

/-!
# The logger

Decides what of the log is written, in which form, and who is told. Nothing is kept: each operation
gives the text that is to be written and the entries that the listeners receive.
-/

namespace NetFootprint.Log

/-- The settings of the log. -/
structure Logger where
  verbosity : Verbosity
  /-- Whether entries are written as JSON. -/
  asJson : Bool
  /-- The tags of those who are told about every entry. -/
  listeners : List Value
  /-- The time that entries are stamped with. -/
  now : String

/-- An entry as a listener receives it. -/
structure Delivery where
  tag : Value
  text : String
  json : String

/-- What an operation on the log gives: the text to be written, what the listeners receive, and
what stopped it, if anything did. -/
structure Emission where
  written : String
  delivered : List Delivery
  failure : Option Misuse

/-- Something that may be written to the log. -/
inductive Event where
  | entry (level : Verbosity) (message : String) (context : List (String × Value))
  | summary (figures : Summary)

def Event.level : Event → Verbosity
  | .entry level _ _ => level
  | .summary _ => .info

namespace Logger

def plain (verbosity : Verbosity) (now : String) : Logger :=
  { verbosity, asJson := false, listeners := [], now }

/-- What an entry below the chosen level gives. -/
def nothing : Emission := ⟨"", [], none⟩

/-- What is written for an entry, without its line end. -/
def lineOf (lg : Logger) (e : Entry) : Except Misuse String :=
  if lg.asJson then .ok e.json else e.text

/-- Writes an entry and hands it to the listeners. -/
def emit (lg : Logger) (e : Entry) : Emission :=
  match lg.lineOf e with
  | .error m => ⟨"", [], some m⟩
  | .ok line =>
    match lg.listeners, e.text with
    | [], _ => ⟨line ++ "\n", [], none⟩
    | _ :: _, .error m => ⟨line ++ "\n", [], some m⟩
    | tags, .ok text => ⟨line ++ "\n", tags.map (fun tag => ⟨tag, text, e.json⟩), none⟩

/-- Names that a context cannot use, because the message has a place of its own. -/
def reserved : List String := ["message", "self"]

/-- The context that a value spells: an object, or a list of pairs whose keys are texts. -/
def contextOf : Value → Except Misuse (List (String × Value))
  | .object entries => .ok entries
  | .list pairs => Value.textMapping (.list pairs)
  | _ => .error .wrongKind

def log (lg : Logger) (level : Verbosity) (message : Value) (context : List (String × Value)) :
    Emission :=
  if context.any (fun e => reserved.contains e.1) then ⟨"", [], some .wrongKind⟩
  else if lg.verbosity.shows level then
    lg.emit (Entry.ofContext level message (.text lg.now) context)
  else nothing

def summarize (lg : Logger) (figures : Summary) : Emission :=
  if lg.verbosity.shows .info then
    match figures.text with
    | .ok box => ⟨box, [], none⟩
    | .error m => ⟨"", [], some m⟩
  else nothing

/-- Logs the summary of figures that are still to be read: an object or a list of pairs, of which
only those under texts count. Figures of another kind are found out where the summary is written. -/
def summarizeValue (lg : Logger) (figures : Value) : Except Misuse Emission :=
  match figures with
  | .object entries => .ok (lg.summarize entries)
  | .list pairs => do
    let entries ← Value.mapping (.list pairs)
    return lg.summarize (entries.filterMap fun e =>
      match e.1 with
      | .text key => some (key, e.2)
      | _ => none)
  | _ => .ok (if lg.verbosity.shows .info then ⟨"", [], some .absent⟩ else nothing)

def record (lg : Logger) : Event → Emission
  | .entry level message context => lg.log level (.text message) context
  | .summary figures => lg.summarize figures

/-- Logs events in order, up to the first that cannot be written. -/
def publish (lg : Logger) : List Event → Emission
  | [] => nothing
  | e :: rest =>
    let here := lg.record e
    match here.failure with
    | some _ => here
    | none =>
      let after := lg.publish rest
      ⟨here.written ++ after.written, here.delivered ++ after.delivered, after.failure⟩

end Logger

/-- The result of an operation together with the events on the way to it. -/
structure Logged (α : Type) where
  events : List Event
  result : Except Failure α

/-- The text that an operation writes to the log, and its result. An event that cannot be written
ends the operation. -/
def Logged.published {α : Type} (l : Logged α) (lg : Logger) : String × Except Failure α :=
  let emission := lg.publish l.events
  match emission.failure with
  | some m => (emission.written, .error (.misuse m))
  | none => (emission.written, l.result)

end NetFootprint.Log
