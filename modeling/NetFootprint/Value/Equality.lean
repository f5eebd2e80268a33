import NetFootprint.Number.Amount
import NetFootprint.Value

/-!
# Values as names and keys

Two values name the same thing if they are equal: numbers by their amount, whichever kind they are
written in, true as one and false as zero, and collections member by member. Lists and objects can
be compared but cannot serve as names or keys.
-/

namespace NetFootprint.Value

/-- The number that a value is; true is one and false is zero. -/
def amount? : Value → Option Amount
  | bool b => some (.whole (if b then 1 else 0))
  | int n => some (.whole n)
  | float x => some (.float x)
  | null | text _ | list _ | object _ => none

def amount (v : Value) : Except Misuse Amount :=
  match v.amount? with
  | some a => .ok a
  | none => .error .wrongKind

@[simp] theorem amount_int (n : Int) : (int n).amount = .ok (.whole n) := rfl

def ofAmount : Amount → Value
  | .whole n => int n
  | .float x => float x

mutual

/-- Whether two values are equal. Entries of objects may stand in any order. -/
def equals : Value → Value → Bool
  | null, null => true
  | text a, text b => a == b
  | list a, list b => equalItems a b
  | object a, object b => a.length == b.length && equalEntries a b
  | a, b =>
    match a.amount?, b.amount? with
    | some x, some y => x.equals y
    | _, _ => false

def equalItems : List Value → List Value → Bool
  | [], [] => true
  | a :: as, b :: bs => equals a b && equalItems as bs
  | _, _ => false

/-- The other object has an equal entry for each of the given ones. -/
def equalEntries : List (String × Value) → List (String × Value) → Bool
  | [], _ => true
  | (k, a) :: as, bs =>
    (match bs.lookup k with
      | some b => equals a b
      | none => false) && equalEntries as bs

end

@[simp] theorem equals_text (a b : String) : (text a).equals (text b) = (a == b) := by
  simp [equals]

/-- Whether a value can serve as a name or as a key. -/
def isKey : Value → Bool
  | list _ | object _ => false
  | null | bool _ | int _ | float _ | text _ => true

/-- A value that has to serve as a name or as a key. -/
def key (v : Value) : Except Misuse Value := if v.isKey then .ok v else .error .wrongKind

end NetFootprint.Value
