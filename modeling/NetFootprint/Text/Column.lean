import NetFootprint.Text.Code

/-!
# Columns

Padding to a width and cutting at a width, counted in codes.
-/

namespace NetFootprint.Text

def blanks (n : Nat) : String := ofCodes (List.replicate n (.char ' '))

/-- The text with blanks after it up to the width. -/
def padRight (width : Nat) (s : String) : String := s ++ blanks (width - length s)

theorem length_padRight (width : Nat) (cs : List Code) :
    length (padRight width (ofCodes cs)) = max width cs.length := by
  simp only [padRight, blanks, length, codes_ofCodes, ← ofCodes_append, List.length_append,
    List.length_replicate]
  omega

/-- The text with blanks before it up to the width. -/
def padLeft (width : Nat) (s : String) : String := blanks (width - length s) ++ s

/-- At most the first `width` codes of the text. -/
def cut (width : Nat) (s : String) : String := ofCodes ((codes s).take width)

theorem length_cut (width : Nat) (s : String) :
    length (cut width s) = min width (length s) := by
  simp [cut, length, codes_ofCodes]

end NetFootprint.Text
