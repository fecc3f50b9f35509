import ExportIndex.Text.Blank

/-
This file erases simple types from a text: type names behind a colon, interfaces
without inner braces and type aliases. It knows nothing of the text but this.
-/

namespace ExportIndex.JavaScript.Erasure

open Text

def isNameStart (character : Char) : Bool :=
  character.isAlpha || character == '_' || character == '$'

def isNamePart (character : Char) : Bool := isNameStart character || character.isDigit

/-- What follows a name at the start of the text. -/
def afterName? : List Char → Option (List Char)
  | [] => none
  | first :: rest => if isNameStart first then some (rest.dropWhile isNamePart) else none

/-- What follows a literal text at the start of the text. -/
def afterText? : List Char → List Char → Option (List Char)
  | [], rest => some rest
  | _ :: _, [] => none
  | first :: expected, character :: rest =>
    if first = character then afterText? expected rest else none

/-- What follows a name and perhaps brackets. -/
def afterSimple? (characters : List Char) : Option (List Char) :=
  (afterName? characters).map fun rest => (afterText? ['[', ']'] rest).getD rest

/-- What follows some white space. -/
def afterBlank? : List Char → Option (List Char)
  | [] => none
  | first :: rest => if isBlank first then some (trimStart rest) else none

/-- What follows further members of a union, each behind a bar. -/
def afterMembers : Nat → List Char → List Char
  | 0, characters => characters
  | limit + 1, characters =>
    match trimStart characters with
    | '|' :: rest =>
      match afterSimple? (trimStart rest) with
      | some rest => afterMembers limit rest
      | none => characters
    | _ => characters

/-- What follows a colon, a simple type and its terminator. -/
def afterAnnotation? (terminator : Char) : List Char → Option (List Char)
  | ':' :: rest =>
    match afterSimple? (trimStart rest) with
    | none => none
    | some rest => afterText? [terminator] (trimStart (afterMembers rest.length rest))
  | _ => none

/-- What follows an interface whose body has no closing brace inside. -/
def afterInterface? (characters : List Char) : Option (List Char) := do
  let rest ← afterText? "interface".toList characters
  let rest ← afterName? (← afterBlank? rest)
  let rest ← afterText? ['\x7b'] (trimStart rest)
  afterText? ['\x7d'] (rest.dropWhile (· ≠ '\x7d'))

/-- What follows a type alias up to its semicolon. -/
def afterAlias? (characters : List Char) : Option (List Char) := do
  let rest ← afterText? "type".toList characters
  let rest ← afterName? (← afterBlank? rest)
  match ← afterText? ['='] (trimStart rest) with
  | [] => none
  | first :: rest =>
    if first = ';' then none else afterText? [';'] (rest.dropWhile (· ≠ ';'))

/-- Puts `replacement` in place of what `after?` goes behind, from the left. At most
`limit` characters are looked at. -/
def replaceFrom (after? : List Char → Option (List Char)) (replacement : List Char) :
    Nat → List Char → List Char
  | 0, characters => characters
  | _ + 1, [] => []
  | limit + 1, character :: rest =>
    match after? (character :: rest) with
    | some behind => replacement ++ replaceFrom after? replacement limit behind
    | none => character :: replaceFrom after? replacement limit rest

def replaceAll (after? : List Char → Option (List Char)) (replacement : List Char)
    (characters : List Char) : List Char :=
  replaceFrom after? replacement characters.length characters

/-- The erasing rules in the order in which they apply. -/
def rules : List ((List Char → Option (List Char)) × List Char) :=
  [ (afterAnnotation? '=', [' ', '=']), (afterAnnotation? ';', [';']),
    (afterAnnotation? ')', [')']), (afterInterface?, []), (afterAlias?, []) ]

def eraseChars (characters : List Char) : List Char :=
  rules.foldl (fun text (after?, replacement) => replaceAll after? replacement text) characters

def erase (source : String) : String := String.ofList (eraseChars source.toList)

end ExportIndex.JavaScript.Erasure
