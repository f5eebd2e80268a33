import NetFootprint.Value.Conversion

/-!
# Values as mappings

A mapping may be given as an object or as a list of pairs, the keys of which may be any values that
can serve as keys. A key that is given again keeps its first place and takes the last value.
-/

namespace NetFootprint.Value

/-- The key and the value that a member of a list of pairs holds. -/
def pair (v : Value) : Except Misuse (Value × Value) := do
  match ← v.members with
  | [key, item] => return (← key.key, item)
  | _ => throw .malformed

/-- The mapping that a value spells, for keys that are told apart as given. -/
def mappingBy (sameKey : Value → Value → Bool) : Value → Except Misuse (List (Value × Value))
  | object entries => .ok (entries.map (fun e => (text e.1, e.2)))
  | v => do return @entriesOfPairs Value Value ⟨sameKey⟩ (← (← v.members).mapM pair)

def mapping (v : Value) : Except Misuse (List (Value × Value)) := mappingBy equals v

/-- The mapping that a value spells, if all its keys are texts. -/
def textMapping (v : Value) : Except Misuse (List (String × Value)) := do
  (← v.mapping).mapM fun e =>
    match e.1 with
    | text key => .ok (key, e.2)
    | _ => .error .wrongKind

end NetFootprint.Value
