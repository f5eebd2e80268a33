import NetFootprint.Text.Case
import NetFootprint.Value.Text

/-!
# Phases

A network is built for training or for testing. Only a training network keeps gradients.
-/

namespace NetFootprint

/-- What a network is built for. -/
inductive Phase where
  | train
  | test
  deriving DecidableEq, Repr

namespace Phase

def name : Phase → String
  | train => "train"
  | test => "test"

/-- The phase that a word names, letter case and white space around it aside. -/
def ofWord? (s : String) : Option Phase :=
  let word := Text.lower (Text.trim s)
  if word = "train" then some train else if word = "test" then some test else none

@[simp] theorem ofWord?_name (p : Phase) : ofWord? p.name = some p := by
  cases p <;> decide +kernel

/-- The phase that the text of a value names. -/
def ofValue (v : Value) : Except Misuse Phase :=
  match ofWord? v.plain with
  | some p => .ok p
  | none => .error .malformed

end Phase

end NetFootprint
