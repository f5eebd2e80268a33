import NetFootprint.Graph.Growth
import NetFootprint.Layer.Text
import NetFootprint.Report

/-!
# Networks

A finished graph under a label, and the texts that present it.
-/

namespace NetFootprint

structure Network where
  /-- What the network is called; any value may stand here. -/
  label : Value
  graph : Graph

namespace Network

def layers (n : Network) : List Layer := n.graph.layers

/-- The registered blobs in the order of their ids. -/
def blobs (n : Network) : List Blob := n.graph.registeredBlobs

def report (n : Network) (accelerated : Value) : Except Misuse Report :=
  n.graph.report accelerated

def memoryTotal (n : Network) (accelerated : Value) : Except Misuse Amount := do
  (← n.report accelerated).total

/-- Adds one to the count of a tag; a new tag goes to the end. -/
def countTag (counts : List (String × Nat)) (tag : String) : List (String × Nat) :=
  setEntry tag ((counts.lookup tag).getD 0 + 1) counts

/-- How many layers have each tag, in the order of first appearance. -/
def tagCounts (n : Network) : List (String × Nat) := (n.layers.map Layer.tag).foldl countTag []

/-- The name of a blob in a list of names, which has to be a text. -/
def listedName (b : Blob) : Except Misuse String :=
  match b.name with
  | .text s => .ok s
  | _ => .error .wrongKind

/-- The key figures, one to a line. -/
def summary (n : Network) : Except Misuse String := do
  let title := if n.label.truthy then n.label.plain else "<unnamed>"
  let outputs ← n.graph.outputs.mapM listedName
  return joinWith "\n"
    (["Network: " ++ title, "  Phase: " ++ n.graph.phase.name,
      "  Layers: " ++ toString n.layers.length,
      "  Blobs: " ++ toString n.graph.registered.length,
      "  Outputs: " ++ joinWith " " outputs, "  Layer types:"] ++
      n.tagCounts.map (fun c => "    " ++ c.1 ++ ": " ++ toString c.2))

/-- All layers, one to a line. -/
def text (n : Network) : Except Misuse String := do
  let lines ← n.layers.mapM n.graph.layerText
  return "Net \x7b\n" ++ String.join (lines.map (fun line => "  " ++ line ++ "\n")) ++ "\x7d"

/-- The label and the number of layers. -/
def shortText (n : Network) : String :=
  "Network(name='" ++ n.label.plain ++ "', layers=" ++ toString n.layers.length ++ ")"

end Network

end NetFootprint
