import NetFootprint.Text.Digit

/-!
# Command line words

Sorts the words of a command line into options, their values and other arguments. Long options may
be shortened as long as only one begins that way, and may be joined to a value by an equals sign;
short options without values may be joined to each other, with or without one. Words that look like
negative numbers or hold a blank are arguments. After the separator `--` every word is an argument;
a separator that is joined to an option stands for no value.
-/

namespace NetFootprint.CommandLine

/-- An option: its key, its spellings, and whether a value follows it. -/
structure Rule where
  key : String
  names : List String
  takesValue : Bool

/-- What becomes of the first free argument: it stands alone, or it takes all further words with
it. -/
inductive Positional where
  | single
  | remainder
  deriving DecidableEq, Repr

/-- The words that a command understands. -/
structure Grammar where
  rules : List Rule
  positional : Positional

/-- The word that divides options from arguments. -/
def separatorWord : String := "--"

inductive Word where
  | option (rule : Rule) (name : String) (joined : Option String)
  | unknownOption
  | argument
  | separator

/-- What is found on a command line: an option with the words of its value, or free arguments. -/
inductive Item where
  | option (key : String) (value : List String)
  | positional (words : List String)
  deriving Repr

/-- The items of a command line up to its end, or up to the first word that cannot be understood;
and the words that nothing wanted. -/
structure Scan where
  items : List Item
  extras : List String
  refused : Bool

def Grammar.rule? (g : Grammar) (name : String) : Option Rule :=
  g.rules.find? (fun r => r.names.contains name)

/-- The rules with a long option that begins with a text, one for each such option. -/
def Grammar.completions (g : Grammar) (start : String) : List (Rule × String) :=
  g.rules.flatMap (fun r => (r.names.filter (fun n => n.startsWith start)).map (fun n => (r, n)))

/-- The text before the first equals sign and, if there is one, the text after it. -/
def splitAtEquals (s : String) : String × Option String :=
  let before := s.toList.takeWhile (· ≠ '=')
  match s.toList.dropWhile (· ≠ '=') with
  | [] => (s, none)
  | _ :: after => (String.ofList before, some (String.ofList after))

/-- Whether characters are digits of any script. -/
def allDigits (cs : List Char) : Bool := cs.all (fun c => (Text.digitValue? c).isSome)

/-- Whether characters end with digits, of which there must be some. -/
def digitsAtEnd (cs : List Char) : Bool :=
  let cs := if cs.getLast? = some '\n' then cs.dropLast else cs
  !cs.isEmpty && allDigits cs

/-- Whether a word is a negative number: digits, possibly around a point. -/
def isNegativeNumber (s : String) : Bool :=
  match s.toList with
  | '-' :: cs =>
    digitsAtEnd cs ||
      match cs.dropWhile (fun c => (Text.digitValue? c).isSome) with
      | '.' :: fraction => digitsAtEnd fraction
      | _ => false
  | _ => false

/-- Sorts a long option that is not spelled out; none if it may stand for several. -/
def Grammar.longWord (g : Grammar) (s : String) : Option (Option Word) :=
  let (start, value) := splitAtEquals s
  match g.completions start with
  | [] => some none
  | [(r, name)] => some (some (.option r name value))
  | _ => none

/-- Sorts a short option with something behind it. -/
def Grammar.shortWord (g : Grammar) (s : String) : Option Word :=
  let name := String.ofList (s.toList.take 2)
  (g.rule? name).map (fun r => .option r name (some (String.ofList (s.toList.drop 2))))

/-- Sorts a word that begins like an option but is none. -/
def otherWord (s : String) : Word :=
  if isNegativeNumber s || s.contains ' ' then .argument else .unknownOption

/-- Sorts a word in front of the separator; none if it may stand for several options. -/
def Grammar.word? (g : Grammar) (s : String) : Option Word :=
  match s.toList with
  | '-' :: second :: _ =>
    match g.rule? s, splitAtEquals s with
    | some r, _ => some (.option r s none)
    | none, (name, value) =>
      match g.rule? name, value with
      | some r, some v => some (.option r name (some v))
      | _, _ =>
        let found := if second = '-' then g.longWord s else some (g.shortWord s)
        found.map (·.getD (otherWord s))
  | _ => some .argument

/-- Sorts all words; none if one of them may stand for several options. -/
def Grammar.words? (g : Grammar) : List String → Option (List (Word × String))
  | [] => some []
  | s :: rest =>
    if s = separatorWord then some ((.separator, s) :: rest.map (fun t => (.argument, t)))
    else do
      let w ← g.word? s
      return (w, s) :: (← g.words? rest)

/-- What one word with options gives: their items, and the key of an option whose value is still to
come. -/
structure Row where
  items : List Item
  waiting : Option String

/-- An option that nothing is joined to. -/
def Rule.alone (r : Rule) : Row :=
  if r.takesValue then ⟨[], some r.key⟩ else ⟨[.option r.key []], none⟩

/-- An option with the value that is joined to it. -/
def Rule.withValue (r : Rule) (value : String) : Row :=
  ⟨[.option r.key (if value = separatorWord then [] else [value])], none⟩

/-- Reads an option with what is joined to it. Further short options may be joined to a short one
without a value; none if anything else is joined to an option that takes no value. -/
def Grammar.joinedRow (g : Grammar) (r : Rule) (isShort : Bool) (joined : List Char) : Option Row :=
  if r.takesValue then some (r.withValue (String.ofList joined))
  else
    match isShort, joined with
    | true, c :: rest => do
      let next ← g.rule? ("-" ++ c.toString)
      let row ← if rest.isEmpty then some next.alone else g.joinedRow next true rest
      return { row with items := .option r.key [] :: row.items }
    | _, _ => none

def Grammar.row (g : Grammar) (r : Rule) (name : String) : Option String → Option Row
  | none => some r.alone
  | some joined => g.joinedRow r (!name.startsWith "--") joined.toList

def Scan.after (items : List Item) (extras : List String) (s : Scan) : Scan :=
  { s with items := items ++ s.items, extras := extras ++ s.extras }

/-- The scan of a word that cannot be understood. -/
def Scan.stuck : Scan := ⟨[], [], true⟩

/-- Reads sorted words. `pending` tells whether the free argument is still to come. -/
def Grammar.read (g : Grammar) : Bool → List (Word × String) → Scan
  | _, [] => ⟨[], [], false⟩
  | pending, (w, s) :: rest =>
    match w with
    | .option r name joined =>
      match g.row r name joined with
      | none => .stuck
      | some row =>
        match row.waiting with
        | none => .after row.items [] (g.read pending rest)
        | some key =>
          match rest with
          | (.argument, value) :: more =>
            .after (row.items ++ [.option key [value]]) [] (g.read pending more)
          | _ => .stuck
    | .unknownOption => .after [] [s] (g.read pending rest)
    | .argument =>
      if !pending then .after [] [s] (g.read pending rest)
      else
        match g.positional with
        | .remainder => ⟨[.positional (s :: rest.map Prod.snd)], [], false⟩
        | .single =>
          match rest with
          | (.separator, _) :: more => .after [.positional [s]] [] (g.read false more)
          | others => .after [.positional [s]] [] (g.read false others)
    | .separator =>
      match rest with
      | (.argument, t) :: more =>
        if !pending then .after [] [s] (g.read pending ((.argument, t) :: more))
        else
          match g.positional with
          | .remainder => ⟨[.positional (s :: t :: more.map Prod.snd)], [], false⟩
          | .single => .after [.positional [t]] [] (g.read false more)
      | others => .after [] [s] (g.read pending others)

def Grammar.scan (g : Grammar) (words : List String) : Scan :=
  match g.words? words with
  | none => .stuck
  | some sorted => g.read true sorted

end NetFootprint.CommandLine
