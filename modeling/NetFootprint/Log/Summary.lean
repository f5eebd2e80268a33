import NetFootprint.Value.Text

/-!
# The analysis summary

The box that closes an analysis in the log. Its figures may be any values; a figure that cannot be
laid out spoils the whole box.
-/

namespace NetFootprint.Log

/-- The figures of an analysis, by name. -/
abbrev Summary := List (String × Value)

namespace Summary

def edge : String := "+" ++ "".pushn '-' 59 ++ "+"

def row (label value : String) : String := "| " ++ Text.padRight 12 (label ++ ":") ++ value ++ " |"

/-- A figure, or a default if there is none under the name. -/
def figure (s : Summary) (name : String) (default : Value) : Value :=
  (s.lookup name).getD default

def megabytes (v : Value) : Except Misuse String := do return (← v.fixed 1) ++ " MB"

def budgetText (s : Summary) : Except Misuse String :=
  match s.figure "budget_mb" .null with
  | .null => .ok "none"
  | v => megabytes v

def width : Nat := 45

/-- The box, between line ends. -/
def text (s : Summary) : Except Misuse String := do
  let budget ← s.budgetText
  let required ← megabytes (s.figure "total_mb" (.float 0.0))
  let layers ← (s.figure "layers" (.int 0)).column width
  let blobs ← (s.figure "blobs" (.int 0)).column width
  let mode := if (s.figure "accelerated" .null).truthy then "accelerated" else "plain"
  let shown := fun (v : String) => Text.padRight width v
  return "\n" ++ joinWith "\n"
    [edge,
     "| " ++ Text.padRight 57 "LayerGauge Analysis Complete" ++ " |",
     edge,
     row "Network" (shown (s.figure "network" (.text "N/A")).plain),
     row "Phase" (shown (s.figure "phase" (.text "N/A")).plain),
     row "Mode" (shown mode),
     row "Layers" layers,
     row "Blobs" blobs,
     row "Required" (shown required),
     row "Budget" (shown budget),
     edge] ++ "\n"

end Summary

end NetFootprint.Log
