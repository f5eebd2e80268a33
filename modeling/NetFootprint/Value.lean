/-!
# Values

The decoded form of whatever a model file, a layer parameter or a setting may hold. Whole numbers
are unbounded and kept apart from floats, because both the rules that read a parameter and the
texts that print one depend on which of the two was written.
-/

namespace NetFootprint

/-- A decoded value. An object keeps its entries in the order of their first appearance. -/
inductive Value where
  | null
  | bool (b : Bool)
  | int (n : Int)
  | float (x : Float)
  | text (s : String)
  | list (items : List Value)
  | object (entries : List (String × Value))
  deriving Inhabited

namespace Value

/-- Nothing, false, zero, the empty text and the empty collections are false; all else is true,
not-a-number included. -/
def truthy : Value → Bool
  | null => false
  | bool b => b
  | int n => n ≠ 0
  | float x => !(x == 0)
  | text s => s ≠ ""
  | list items => !items.isEmpty
  | object entries => !entries.isEmpty

/-- The word for a value's kind in a message. -/
def kindName : Value → String
  | null => "NoneType"
  | bool _ => "bool"
  | int _ => "int"
  | float _ => "float"
  | text _ => "str"
  | list _ => "list"
  | object _ => "dict"

/-- A missing text is the absent value. -/
def ofText? : Option String → Value
  | none => null
  | some s => text s

mutual

/-- Values are the same when they have the same kind and the same content; two floats are the
same when they have the same bits. -/
def same : Value → Value → Bool
  | null, null => true
  | bool a, bool b => a == b
  | int a, int b => a == b
  | float a, float b => a.toBits == b.toBits
  | text a, text b => a == b
  | list a, list b => sameItems a b
  | object a, object b => sameEntries a b
  | _, _ => false

def sameItems : List Value → List Value → Bool
  | [], [] => true
  | a :: as, b :: bs => same a b && sameItems as bs
  | _, _ => false

def sameEntries : List (String × Value) → List (String × Value) → Bool
  | [], [] => true
  | (k, a) :: as, (l, b) :: bs => k == l && same a b && sameEntries as bs
  | _, _ => false

end

instance : BEq Value := ⟨same⟩

end Value

/-- Stores a value under a key: a key that is there keeps its place and takes the new value, a new
key goes to the end. -/
def setEntry {κ ν : Type} [BEq κ] (key : κ) (value : ν) : List (κ × ν) → List (κ × ν)
  | [] => [(key, value)]
  | (k, v) :: rest => if k == key then (k, value) :: rest else (k, v) :: setEntry key value rest

/-- The mapping a list of pairs spells: the first place and the last value of each key. -/
def entriesOfPairs {κ ν : Type} [BEq κ] (pairs : List (κ × ν)) : List (κ × ν) :=
  pairs.foldl (fun entries p => setEntry p.1 p.2 entries) []

end NetFootprint
