import NetFootprint.Value.Conversion

/-!
# Parameters per axis

A kernel, a pad, a stride or a dilation is declared once for all axes or axis by axis; missing
values at the end repeat the last one that is there.
-/

namespace NetFootprint.Axes

/-- The values for the first `axes` axes; a negative number of axes leaves out that many values at
the end. -/
def limit (values : List Int) (axes : Int) : List Int :=
  if 0 ≤ axes then values.take axes.toNat else values.take (values.length - (-axes).toNat)

/-- One value for each axis. Values that are not needed are dropped, and the last value is repeated
for the axes that have none. -/
def expand (values : List Int) (axes : Int) : List Int :=
  let kept := limit values axes
  kept ++ List.replicate (axes.toNat - kept.length) (values.getLastD 0)

/-- One value for each axis, from the declared values or, if there are none, from the default;
nothing if there is no default either. -/
def broadcast (values : List Int) (axes : Int) (default : Option Int) : Option (List Int) :=
  if values.isEmpty then default.map (List.replicate axes.toNat) else some (expand values axes)

/-- The values declared by a parameter: a list of whole numbers, a single one, or none. -/
def declared (v : Value) : Except Misuse (List Int) := v.oneOrMore.mapM Value.toInt

/-- One value for each axis, from a parameter and a default that are still to be read. The default
is read only where it is needed. -/
def broadcastValue (v : Value) (axes : Int) (default : Value) :
    Except Misuse (Option (List Int)) := do
  let values ← declared v
  if values.isEmpty then
    match default with
    | .null => return none
    | d => return some (List.replicate axes.toNat (← d.toInt))
  else return some (expand values axes)

theorem declared_ints (values : List Int) :
    declared (.list (values.map .int)) = .ok values := by
  simp only [declared, Value.oneOrMore]
  induction values with
  | nil => rfl
  | cons n rest ih =>
    rw [List.map_cons, List.mapM_cons, ih]
    rfl

/-- How often a value may be repeated at most. -/
def mostRepeats : Nat := Nat.pow 2 32

/-- A number of times that a value is to be repeated; below zero times is not at all. It has to fit
64 bits, and the values have to be held. -/
def repeats (times : Int) : Except Misuse Nat :=
  if times < -Int.pow 2 63 ∨ Int.pow 2 63 ≤ times then .error .tooLarge
  else if mostRepeats < times then .error .outOfMemory
  else .ok times.toNat

/-- One value for each axis, for a number of axes that is still to be read as well; it is read
last. -/
def broadcastFor (v axes default : Value) : Except Misuse (Option (List Int)) := do
  let values ← declared v
  if values.isEmpty then
    match default with
    | .null => return none
    | d =>
      let d ← d.toInt
      return some (List.replicate (← repeats (← axes.whole)) d)
  else return some (expand values (← axes.whole))

theorem broadcastFor_ints {values : List Int} (h : values ≠ []) (axes : Int) (default : Value) :
    broadcastFor (.list (values.map .int)) (.int axes) default =
      .ok (some (expand values axes)) := by
  unfold broadcastFor
  rw [declared_ints]
  simp [Value.whole, h, bind, Except.bind, pure, Except.pure]

end NetFootprint.Axes
