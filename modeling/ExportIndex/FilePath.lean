/-
This file takes file names apart. A path is text whose parts are separated by
`/`; empty parts and a part `.` that is not the first are no parts.
-/

namespace ExportIndex

/-- The path of a file, as it was given. -/
structure FilePath where
  text : String
deriving DecidableEq, Repr, Inhabited

namespace FilePath

/-- Cuts a list at every occurrence of a separator; there is always a part. -/
def partsAt {Sign : Type} [DecidableEq Sign] (separator : Sign) :
    List Sign → List (List Sign)
  | [] => [[]]
  | sign :: rest =>
    match partsAt separator rest with
    | [] => [[sign]]
    | part :: parts =>
      if sign = separator then [] :: part :: parts else (sign :: part) :: parts

/-- The signs by which paths are divided, be they characters or bytes. -/
structure Marks (Sign : Type) where
  separator : Sign
  dot : Sign

namespace Marks

variable {Sign : Type} [DecidableEq Sign]

/-- The parts that name something. A leading `.` counts, a later one does not. -/
def components (marks : Marks Sign) (path : List Sign) : List (List Sign) :=
  match partsAt marks.separator path with
  | [] => []
  | first :: rest =>
    let named := rest.filter fun part => part ≠ [] && part ≠ [marks.dot]
    if first = [] then named else first :: named

/-- The last component, unless it stands for a directory by itself. -/
def fileName? (marks : Marks Sign) (path : List Sign) : Option (List Sign) :=
  match (marks.components path).getLast? with
  | none => none
  | some name => if name = [marks.dot] || name = [marks.dot, marks.dot] then none else some name

/-- What stands before and behind the last dot; a name whose only dot is its first
sign, or without a dot, is not split. -/
def splitAtLastDot (marks : Marks Sign) (name : List Sign) : List Sign × Option (List Sign) :=
  let ending := (name.reverse.takeWhile (· ≠ marks.dot)).reverse
  let before := name.take (name.length - ending.length - 1)
  if name.contains marks.dot && before ≠ [] then (before, some ending) else (name, none)

def stem? (marks : Marks Sign) (path : List Sign) : Option (List Sign) :=
  (marks.fileName? path).map fun name => (marks.splitAtLastDot name).1

def extension? (marks : Marks Sign) (path : List Sign) : Option (List Sign) :=
  (marks.fileName? path).bind fun name => (marks.splitAtLastDot name).2

end Marks

def characters : Marks Char := ⟨'/', '.'⟩

def stem? (path : FilePath) : Option String :=
  (characters.stem? path.text.toList).map String.ofList

def extension? (path : FilePath) : Option String :=
  (characters.extension? path.text.toList).map String.ofList

/-- Whether the extension and the dot before it are one of the given endings, letter case
included. -/
def hasEnding (path : FilePath) (endings : List String) : Bool :=
  match path.extension? with
  | none => false
  | some extension => endings.contains ("." ++ extension)

end FilePath

end ExportIndex
