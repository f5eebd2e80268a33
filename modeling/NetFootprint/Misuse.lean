/-!
# Misuse

The causes that stop an operation because an argument does not have the form the operation needs.
They are told apart by what is wrong, not by where it was found; the errors that this library
explains to its user are the faults of `NetFootprint.Fault`.
-/

namespace NetFootprint

/-- What is wrong with an argument. -/
inductive Misuse where
  /-- A value of another kind was needed. -/
  | wrongKind
  /-- The kind is right but the content cannot be read. -/
  | malformed
  /-- A number does not fit where it has to go. -/
  | tooLarge
  /-- More values are asked for than can be held. -/
  | outOfMemory
  /-- A shape or a list has no entry at the position asked for. -/
  | missingAxis
  /-- A mapping has no entry under the key asked for. -/
  | missingEntry
  | zeroDivisor
  /-- A property was asked of something that is not there. -/
  | absent
  /-- Collections are nested too deeply. -/
  | tooDeep
  /-- A shape with an extent below zero, and the blob it was given for. -/
  | negativeExtent (shape : List Int) (blob : String)
  deriving DecidableEq, Repr

end NetFootprint
