import NetFootprint.Misuse
import NetFootprint.Value.Conversion

/-!
# Verbosity

How much is written to the log. The levels are ordered: at a level, all entries of that level and
of the levels before it are written.
-/

namespace NetFootprint

/-- A level of the log. -/
inductive Verbosity where
  | silent
  | error
  | warning
  | info
  | debug
  deriving DecidableEq, Repr

namespace Verbosity

def all : List Verbosity := [silent, error, warning, info, debug]

def rank : Verbosity → Nat
  | silent => 0
  | error => 1
  | warning => 2
  | info => 3
  | debug => 4

def name : Verbosity → String
  | silent => "SILENT"
  | error => "ERROR"
  | warning => "WARNING"
  | info => "INFO"
  | debug => "DEBUG"

/-- Whether entries of a level are written. -/
def shows (v level : Verbosity) : Bool := decide (level.rank ≤ v.rank)

def ofRank? (n : Int) : Option Verbosity := all.find? (fun v => (v.rank : Int) == n)

theorem shows_trans {u v w : Verbosity} (h : u.shows v) (k : v.shows w) : u.shows w := by
  simp only [shows, decide_eq_true_eq] at *
  omega

/-- The level nearest to a position. -/
def clamp (n : Int) : Verbosity := if n < 0 then silent else (ofRank? n).getD debug

/-- The level nearest to a value that is to be read as a position. -/
def ofValue (v : Value) : Except Misuse Verbosity := do return clamp (← v.toInt)

/-- The level whose position is the value exactly. -/
def exactly (v : Value) : Except Misuse Verbosity :=
  let n : Option Int := match v with
    | .bool b => some (if b then 1 else 0)
    | .int n => some n
    | .float x => ([0, 1, 2, 3, 4] : List Nat).findSome? (fun n =>
        if x == Float.ofNat n then some (n : Int) else none)
    | .null | .text _ | .list _ | .object _ => none
  match n.bind ofRank? with
  | some v => .ok v
  | none => .error .malformed

/-- The level that the environment asks for: warnings, unless it spells the position of a level. -/
def ofEnvironment (setting : Option String) : Verbosity :=
  ((setting.bind Numeral.whole?).bind ofRank?).getD warning

end Verbosity

end NetFootprint
