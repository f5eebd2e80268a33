import NetFootprint.Layer.Footprint

/-!
# Memory reports

The figures of a network, one row per layer, all in bytes, with their totals and a table of them in
mebibytes. The rows of a network hold whole numbers; a report may also be put together from other
numbers, and from anything that no total is asked of.
-/

namespace NetFootprint

/-- The figures of a layer. -/
structure Report.Row where
  name : Value
  type : Value
  parameter : Value
  overhead : Value
  forward : Value
  backward : Value

/-- The figures of a network. -/
structure Report where
  /-- The mark of a network that runs on an accelerated library, as it was given. -/
  accelerated : Value
  phase : Value
  rows : List Report.Row

namespace Report

namespace Row

/-- The row of a layer with whole figures. -/
def ofFootprint (name type : String) (f : Footprint) : Row where
  name := .text name
  type := .text type
  parameter := .int f.parameter
  overhead := .int f.overhead
  forward := .int f.forward
  backward := .int f.backward

def total (r : Row) : Except Misuse Amount := do
  let most ← (← (← r.parameter.amount).add (← r.overhead.amount)).add (← r.forward.amount)
  most.add (← r.backward.amount)

theorem total_ofFootprint (name type : String) (f : Footprint) :
    (ofFootprint name type f).total = .ok (.whole f.total) := rfl

def toValue (r : Row) : Except Misuse Value := do
  let total ← r.total
  return .object [("name", r.name), ("type", r.type), ("parameter_bytes", r.parameter),
    ("overhead_bytes", r.overhead), ("forward_bytes", r.forward),
    ("backward_bytes", r.backward), ("total_bytes", .ofAmount total)]

end Row

def column (r : Report) (figure : Row → Value) : Except Misuse Amount :=
  Amount.sum (r.rows.map (fun row => (figure row).amount))

def parameter (r : Report) : Except Misuse Amount := r.column Row.parameter

def overhead (r : Report) : Except Misuse Amount := r.column Row.overhead

/-- Bytes for the values of all blobs. -/
def forward (r : Report) : Except Misuse Amount := r.column Row.forward

/-- Bytes for the gradients of all blobs. -/
def backward (r : Report) : Except Misuse Amount := r.column Row.backward

def total (r : Report) : Except Misuse Amount := do
  let most ← (← (← r.parameter).add (← r.overhead)).add (← r.forward)
  most.add (← r.backward)

def totalMb (r : Report) : Except Misuse Float := do (← r.total).inMebibytes

def row? (r : Report) (name : Value) : Option Row := r.rows.find? (fun row => row.name.equals name)

/-- Whether the network needs at most the given amount of bytes. -/
def fits (r : Report) (budget : Value) : Except Misuse Bool := do
  return (← r.total).le (← budget.amount)

/-- Refuses a network that does not fit into a budget. -/
def checkBudget (r : Report) (budget : Value) : Except Failure Unit := do
  if ← r.fits budget then return ()
  let required ← r.total
  let available ← budget.toInt
  throw (.fault (← Fault.overBudget (.ofAmount required) (.int available) r.accelerated))

def toValue (r : Report) : Except Misuse Value := do
  let parameter ← r.parameter
  let overhead ← r.overhead
  let forward ← r.forward
  let backward ← r.backward
  let total ← r.total
  let rows ← r.rows.mapM Row.toValue
  return .object [("accelerated", r.accelerated), ("phase", r.phase),
    ("parameter_bytes", .ofAmount parameter), ("overhead_bytes", .ofAmount overhead),
    ("forward_bytes", .ofAmount forward), ("backward_bytes", .ofAmount backward),
    ("total_bytes", .ofAmount total), ("layers", .list rows)]

def tableLine (name type : String) (figures : List String) : String :=
  joinWith " " ([Text.padRight 24 name, Text.padRight 20 type] ++ figures.map (Text.padLeft 10))

/-- A text in a column of the table; long texts are cut, and nothing else fits. -/
def cutText (width : Nat) : Value → Except Misuse String
  | .text s => .ok (Text.cut width s)
  | _ => .error .wrongKind

def rowLine (r : Row) : Except Misuse String := do
  let name ← cutText 24 r.name
  let type ← cutText 20 r.type
  let figures ← [r.parameter, r.overhead, r.forward, r.backward].mapM
    (fun v => do (← v.amount).mebibytes)
  return tableLine name type figures

def table (r : Report) : Except Misuse String := do
  let header := tableLine "Layer" "Type" ["Params", "Overhead", "Forward", "Backward"]
  let rule := "".pushn '-' header.length
  let mode := if r.accelerated.truthy then "accelerated" else "plain"
  let rows ← r.rows.mapM rowLine
  let totals ← [r.parameter, r.overhead, r.forward, r.backward].mapM
    (fun figure => do (← figure).mebibytes)
  let required ← (← r.total).mebibytes
  return joinWith "\n"
    ([s!"Memory breakdown ({r.phase.plain}, {mode}) [MiB]", header, rule] ++ rows ++
      [rule, tableLine "Total" "" totals, s!"Required: {required} MiB"])

end Report

namespace Graph

def reportRow (g : Graph) (accelerated : Bool) (l : Layer) : Except Misuse Report.Row := do
  return .ofFootprint l.name l.tag (← g.footprint accelerated l)

def report (g : Graph) (accelerated : Value) : Except Misuse Report := do
  let rows ← g.layers.mapM (g.reportRow accelerated.truthy)
  return { accelerated, phase := .text g.phase.name, rows }

end Graph

end NetFootprint
