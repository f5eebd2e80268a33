import NetFootprint.LayerType
import NetFootprint.Value.Text

/-!
# About the program

The name and the version under which the program presents itself, and what it supports.
-/

namespace NetFootprint.About

def name : String := "LayerGauge"

def version : String := "0.3.0"

/-- The version of the runtime; it is not told. -/
def runtime : String := "0.0.0"

def versionText : String := name ++ " v" ++ version

/-- What the program supports, between two rules. -/
def infoText : String :=
  let rule := "".pushn '=' 50
  joinWith "\n"
    [rule, name ++ " Information", rule, name ++ " Version: " ++ version,
     "Python Version: " ++ runtime, "Layer types: " ++ joinWith ", " LayerType.tags, rule]

def usageText : String :=
  joinWith "\n"
    ["usage: layergauge [-h] [--version] [--info] [analyze ...]",
     "       layergauge analyze [-h] [--input NAME:D0,D1,...] [--phase train|test]",
     "                          [--accelerated] [--budget-mb MIB] [--json] [--verbose LEVEL]",
     "                          model"]

end NetFootprint.About
