import NetFootprint.Fault

/-!
# Input specifications

An external input is given on a command line as a name, a colon, and its extents between commas. The
last colon counts, so a name may hold colons itself.
-/

namespace NetFootprint.CommandLine

def specFault (message spec : String) : Failure :=
  .fault (.configuration message (.text "input") (.text spec))

/-- What stands in front of the last colon and what stands behind it; nothing without a colon. -/
def splitAtLastColon (cs : List Char) : Option (List Char × List Char) :=
  match cs.reverse.dropWhile (· ≠ ':') with
  | [] => none
  | _ :: before => some (before.reverse, (cs.reverse.takeWhile (· ≠ ':')).reverse)

def splitAtCommas : List Char → List (List Char)
  | [] => [[]]
  | c :: rest =>
    if c = ',' then [] :: splitAtCommas rest
    else
      match splitAtCommas rest with
      | field :: fields => (c :: field) :: fields
      | [] => [[c]]

theorem splitAtCommas_ne_nil (cs : List Char) : splitAtCommas cs ≠ [] := by
  cases cs with
  | nil => simp [splitAtCommas]
  | cons c rest =>
    simp only [splitAtCommas]
    split
    · simp
    · split <;> simp

/-- The extents that the fields spell; blank fields do not count. -/
def readExtents (fields : List (List Char)) : Option (List Int) :=
  (fields.filter (fun f => !f.all Text.isBlank)).mapM (fun f => Numeral.whole? (String.ofList f))

def readInputSpec (spec : String) : Except Failure (String × List Int) :=
  match splitAtLastColon spec.toList with
  | none | some ([], _) => .error (specFault "input must look like NAME:D0,D1,..." spec)
  | some (name, extents) =>
    match readExtents (splitAtCommas extents) with
    | some shape => .ok (String.ofList name, shape)
    | none => .error (specFault "input shape must be integers" spec)

def inputSpec (name : String) (shape : List Int) : String :=
  name ++ ":" ++ joinWith "," (shape.map toString)

end NetFootprint.CommandLine
