import NetFootprint.Text.Quoted

/-!
# Paths

The plain form of a path, the name of the file it leads to, and what may be wrong with it. The plain
form leaves out empty parts and parts that stay in place.
-/

namespace NetFootprint.CommandLine

/-- A path: the slashes in front of it and its parts. -/
structure Path where
  root : String
  parts : List String
  deriving DecidableEq, Repr

namespace Path

def splitAtSlashes : List Char → List (List Char)
  | [] => [[]]
  | c :: rest =>
    if c = '/' then [] :: splitAtSlashes rest
    else
      match splitAtSlashes rest with
      | part :: parts => (c :: part) :: parts
      | [] => [[c]]

/-- The root of a path: two slashes are a root of their own, any other number counts as one. -/
def rootOf (cs : List Char) : String :=
  match (cs.takeWhile (· = '/')).length with
  | 0 => ""
  | 2 => "//"
  | _ => "/"

def ofText (s : String) : Path where
  root := rootOf s.toList
  parts := ((splitAtSlashes s.toList).map String.ofList).filter (fun p => p ≠ "" && p ≠ ".")

/-- The plain form of a path; a path that leads nowhere is a point. -/
def text (p : Path) : String :=
  if p.root = "" ∧ p.parts = [] then "." else p.root ++ "/".intercalate p.parts

/-- A name without its extension. A point at either end of the name begins none. -/
def withoutExtension (name : String) : String :=
  let cs := name.toList
  let extension := (cs.reverse.takeWhile (· ≠ '.')).length
  if extension = 0 ∨ cs.length ≤ extension + 1 then name
  else String.ofList (cs.take (cs.length - extension - 1))

def stem (p : Path) : String := withoutExtension (p.parts.getLastD "")

end Path

/-- Why a file cannot be opened. -/
inductive OpenProblem where
  | missing
  | isDirectory
  | notDirectory
  | nameTooLong
  | forbidden
  /-- The path holds a character that no path can hold. -/
  | badPath
  deriving DecidableEq, Repr

def OpenProblem.message (path : String) : OpenProblem → String
  | missing => "[Errno 2] No such file or directory: " ++ Text.quoted path
  | isDirectory => "[Errno 21] Is a directory: " ++ Text.quoted path
  | notDirectory => "[Errno 20] Not a directory: " ++ Text.quoted path
  | nameTooLong => "[Errno 36] File name too long: " ++ Text.quoted path
  | forbidden => "[Errno 13] Permission denied: " ++ Text.quoted path
  | badPath => "embedded null byte"

/-- A directory, by what is known to be in it. -/
structure Directory where
  /-- The files; the parts of their names say in which directories below it they are. -/
  files : List (List String × List UInt8)
  /-- The parts of directories below it that need not hold a file. -/
  folders : List (List String) := []
  /-- Whether the directory is its own parent. -/
  isRoot : Bool := false

namespace Directory

/-- The longest path that can be opened, in bytes, and the longest part of one. -/
def longestPath : Nat := 4095

/-- The longest name of a file or a directory, in bytes. -/
def longestName : Nat := 255

def file? (d : Directory) (place : List String) : Option (List UInt8) := d.files.lookup place

def isDirectory (d : Directory) (place : List String) : Bool :=
  place.isEmpty || d.folders.contains place ||
    d.files.any (fun f => place.length < f.1.length && place.isPrefixOf f.1)

/-- The root of any system: the usual directories, and the file that is always empty. -/
def root : Directory where
  files := [(["dev", "null"], [])]
  folders := ["bin", "boot", "etc", "home", "lib", "media", "mnt", "opt", "proc", "root", "run",
    "sbin", "srv", "sys", "tmp", "usr", "var"].map ([·])
  isRoot := true

/-- Why a path opens no file above a directory. There are directories, but nothing else is known to
be in them. -/
def above (parts : List String) : OpenProblem :=
  match parts.dropWhile (· = "..") with
  | [] => .isDirectory
  | part :: _ => if longestName < Text.byteSize part then .nameTooLong else .missing

/-- Follows the parts of a path from a directory; the place of the directory is kept in reverse. -/
def follow (d : Directory) : List String → List String → Except OpenProblem (List UInt8)
  | place, [] =>
    match d.file? place.reverse with
    | some content => .ok content
    | none => .error .isDirectory
  | place, part :: rest =>
    if (d.file? place.reverse).isSome then .error .notDirectory
    else if part = ".." then
      match place with
      | _ :: outer => d.follow outer rest
      | [] => if d.isRoot then d.follow [] rest else .error (above rest)
    else if longestName < Text.byteSize part then .error .nameTooLong
    else
      let next := part :: place
      if (d.file? next.reverse).isSome || d.isDirectory next.reverse then d.follow next rest
      else .error .missing

/-- The content of the file that a path leads to from a directory or from the root. -/
def open? (d : Directory) (p : Path) : Except OpenProblem (List UInt8) :=
  if p.text.contains '\x00' then .error .badPath
  else if longestPath < Text.byteSize p.text then .error .nameTooLong
  else if p.root = "" then d.follow [] p.parts
  else root.follow [] p.parts

end Directory

end NetFootprint.CommandLine
