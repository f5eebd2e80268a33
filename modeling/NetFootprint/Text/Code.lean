/-!
# Codes of a text

A text is a sequence of codes: characters, and halves of surrogate pairs, since an escape can spell
one half without the other. A string holds characters only, so a half is written as a mark and a
character that stands for the half, and the mark itself is written twice. Whatever counts or shows
the codes of a text goes through `codes`; joining and comparing texts needs no care. Main
statement: the codes of a text are those it was written from, so different texts have different
strings.
-/

namespace NetFootprint.Text

/-- A character, or half of a surrogate pair that stands alone. -/
inductive Code where
  | char (c : Char)
  /-- A half, by its place among the halves. -/
  | half (place : Fin 0x800)
  deriving DecidableEq, Repr

/-- The character that announces a half. No script uses it. -/
def mark : Char := Char.ofNat 0x10ffff

def firstHalf : Nat := 0xd800

/-- The first of the characters that stand for halves. -/
def firstStandIn : Nat := 0x100000

namespace Code

def number : Code → Nat
  | char c => c.toNat
  | half place => firstHalf + place

def ofNumber (n : Nat) : Code :=
  if h : firstHalf ≤ n ∧ n < firstHalf + 0x800 then half ⟨n - firstHalf, by omega⟩
  else char (Char.ofNat n)

def byteSize : Code → Nat
  | char c => c.utf8Size
  | half _ => 3

/-- The character that stands for a half after the mark. -/
def standIn (place : Fin 0x800) : Char := Char.ofNat (firstStandIn + place)

/-- The code that the mark and a character stand for. -/
def ofMarked (c : Char) : Code :=
  if h : firstStandIn ≤ c.toNat ∧ c.toNat < firstStandIn + 0x800 then
    half ⟨c.toNat - firstStandIn, by omega⟩
  else char c

def spelling : Code → List Char
  | char c => if c = mark then [mark, mark] else [c]
  | half place => [mark, standIn place]

def ofSpelling : List Char → List Code
  | [] => []
  | [c] => [char c]
  | c :: d :: rest =>
    if c = mark then ofMarked d :: ofSpelling rest else char c :: ofSpelling (d :: rest)

theorem ofMarked_mark : ofMarked mark = char mark := by decide

theorem ofMarked_standIn (place : Fin 0x800) : ofMarked (standIn place) = half place := by
  have hp := place.isLt
  have hv : Nat.isValidChar (firstStandIn + place) := by
    simp only [firstStandIn, Nat.isValidChar]
    omega
  have ht : (standIn place).toNat = firstStandIn + place := by
    rw [standIn, Char.ofNat, dif_pos hv]
    rfl
  simp [ofMarked, ht, hp]

theorem ofSpelling_cons_of_ne {c : Char} (h : c ≠ mark) (cs : List Char) :
    ofSpelling (c :: cs) = char c :: ofSpelling cs := by
  cases cs <;> simp [ofSpelling, h]

theorem ofSpelling_spelling_append (c : Code) (cs : List Char) :
    ofSpelling (c.spelling ++ cs) = c :: ofSpelling cs := by
  cases c with
  | char c =>
    by_cases h : c = mark
    · simp [spelling, ofSpelling, h, ofMarked_mark]
    · simp [spelling, h, ofSpelling_cons_of_ne h]
  | half place => simp [spelling, ofSpelling, ofMarked_standIn]

end Code

def codes (s : String) : List Code := Code.ofSpelling s.toList

def ofCodes (cs : List Code) : String := String.ofList (cs.flatMap Code.spelling)

/-- The codes of a text are those it was written from. -/
theorem codes_ofCodes (cs : List Code) : codes (ofCodes cs) = cs := by
  simp only [codes, ofCodes, String.toList_ofList]
  induction cs with
  | nil => rfl
  | cons c cs ih => rw [List.flatMap_cons, Code.ofSpelling_spelling_append, ih]

theorem ofCodes_append (cs ds : List Code) : ofCodes (cs ++ ds) = ofCodes cs ++ ofCodes ds := by
  simp [ofCodes, String.ofList_append]

def length (s : String) : Nat := (codes s).length

def byteSize (s : String) : Nat := ((codes s).map Code.byteSize).foldl (· + ·) 0

/-- The text of characters that come from outside. -/
def ofCharacters (cs : List Char) : String := ofCodes (cs.map .char)

/-- The characters of a text for the outside, where a half is replaced. -/
def characters (s : String) : List Char :=
  (codes s).map (fun
    | .char c => c
    | .half _ => Char.ofNat 0xfffd)

/-- Characters from outside go back there unchanged. -/
theorem characters_ofCharacters (cs : List Char) : characters (ofCharacters cs) = cs := by
  simp only [characters, ofCharacters, codes_ofCodes, List.map_map]
  exact List.map_id' cs

end NetFootprint.Text
