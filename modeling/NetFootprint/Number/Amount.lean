import NetFootprint.Misuse
import NetFootprint.Number.Double

/-!
# Amounts

A number that is either whole, of any size, or a float. Whole numbers are computed exactly. As soon
as a float takes part, the whole number beside it becomes a float, which it may be too large for;
comparisons are exact all the same.
-/

namespace NetFootprint

/-- The float nearest to a whole number. -/
def Double.ofWhole (n : Int) : Except Misuse Float :=
  match Double.ofInt? n with
  | some x => .ok x
  | none => .error .tooLarge

/-- A whole number or a float. -/
inductive Amount where
  | whole (n : Int)
  | float (x : Float)

namespace Amount

def toFloat : Amount → Except Misuse Float
  | whole n => Double.ofWhole n
  | float x => .ok x

def add : Amount → Amount → Except Misuse Amount
  | whole m, whole n => .ok (whole (m + n))
  | a, b => do return float ((← a.toFloat) + (← b.toFloat))

def sub : Amount → Amount → Except Misuse Amount
  | whole m, whole n => .ok (whole (m - n))
  | a, b => do return float ((← a.toFloat) - (← b.toFloat))

def neg : Amount → Amount
  | whole n => whole (-n)
  | float x => float (-x)

/-- The quotient of two amounts, rounded down. -/
def floorDiv : Amount → Amount → Except Misuse Amount
  | whole m, whole n => if n = 0 then .error .zeroDivisor else .ok (whole (Int.fdiv m n))
  | a, b => do
    let x ← a.toFloat
    let y ← b.toFloat
    if y == 0 then throw .zeroDivisor
    return float (Double.floorDiv x y)

/-- Whether an amount is at most another one; not-a-number is not and has nothing below it. -/
def le : Amount → Amount → Bool
  | whole m, whole n => decide (m ≤ n)
  | whole m, float y => Double.intLe m y
  | float x, whole n => Double.leInt x n
  | float x, float y => decide (x ≤ y)

/-- Whether two amounts are the same number; not-a-number is none. -/
def equals : Amount → Amount → Bool
  | whole m, whole n => m == n
  | whole m, float y => Double.equalsInt m y
  | float x, whole n => Double.equalsInt n x
  | float x, float y => x == y

/-- The sum of amounts that are computed in order. -/
def sum (amounts : List (Except Misuse Amount)) : Except Misuse Amount :=
  amounts.foldlM (fun total a => do total.add (← a)) (whole 0)

end Amount

end NetFootprint
