import ExportIndex.Python.Layout
import ExportIndex.Text.Identifier

/-
This file finds the lexemes of Python.
-/

namespace ExportIndex.Python

open Grammar

def isNameStart (character : Char) : Bool :=
  character == '_' || Text.isIdentifierStart character

def nameEnd? : Scan := fun characters place =>
  if charIs isNameStart characters place then
    some (runEnd Text.isIdentifierPart characters (place + 1))
  else none

/-- Whether the name at a place is the given one. -/
def nameIs (word : String) (characters : Array Char) (place : Nat) : Bool :=
  standsAt word.toList characters place &&
    nameEnd? characters place == some (place + word.length)

def keyword (word : String) : Terminal :=
  ⟨word, false, true, fun characters place =>
    if nameIs word characters place then some (place + word.length) else none⟩

/-- A certain word that has a kind of its own. -/
def wordOfKind (word kind : String) : Terminal :=
  { keyword word with kind, named := true }

/-- Any name but some. -/
def nameExcept (excluded : List String) : Terminal :=
  ⟨"identifier", true, true, fun characters place =>
    if excluded.any fun word => nameIs word characters place then none
    else nameEnd? characters place⟩

/-- The operators from which the longest one is taken. -/
def operators : List String :=
  ["**=", "//=", ">>=", "<<=", "...", "+=", "-=", "*=", "/=", "@=", "%=", "&=", "^=", "|=",
    "->", ":=", "==", "!=", "<=", ">=", "<>", "<<", ">>", "**", "//",
    "+", "-", "*", "/", "@", "%", "|", "&", "^", "~", "<", ">", "=", ":", "."]

/-- The operators and their characters. -/
def operatorTexts : List (String × List Char) :=
  operators.map fun operator => (operator, operator.toList)

def operatorAt? (characters : Array Char) (place : Nat) : Option String :=
  (operatorTexts.find? fun (_, text) => standsAt text characters place).map Prod.fst

def operator (text : String) : Terminal :=
  ⟨text, false, true, fun characters place =>
    if operatorAt? characters place == some text then some (place + text.length) else none⟩

/-- The end of a run of digits and of an underscore behind them. -/
def digitRunEnd (characters : Array Char) (place : Nat) : Nat :=
  let stop := runEnd Char.isDigit characters place
  if characters[stop]? == some '_' then stop + 1 else stop

/-- The end of digits behind each of which an underscore may stand. -/
def digitsWithUnderscoresEnd? (characters : Array Char) (place : Nat) : Option Nat :=
  if charIs Char.isDigit characters place then
    if _further : place < digitRunEnd characters place ∧
        digitRunEnd characters place < characters.size then
      some ((digitsWithUnderscoresEnd? characters (digitRunEnd characters place)).getD
        (digitRunEnd characters place))
    else some (digitRunEnd characters place)
  else none
termination_by characters.size - place
decreasing_by omega

/-- The end of an underscore that may stand here and of a run of digits. -/
def underscoredRunEnd? (accepts : Char → Bool) (characters : Array Char) (place : Nat) :
    Option Nat :=
  let first := if characters[place]? == some '_' then place + 1 else place
  let stop := runEnd accepts characters first
  if first < stop then some stop else none

/-- The end of digits in front of each of which an underscore may stand. -/
def digitsAfterUnderscoresEnd? (accepts : Char → Bool) (characters : Array Char)
    (place : Nat) : Option Nat :=
  match underscoredRunEnd? accepts characters place with
  | none => none
  | some stop =>
    if _further : place < stop ∧ stop < characters.size then
      some ((digitsAfterUnderscoresEnd? accepts characters stop).getD stop)
    else some stop
termination_by characters.size - place
decreasing_by omega

def withSuffix (suffixes : List Char) (characters : Array Char) (stop : Nat) : Nat :=
  if charIs suffixes.contains characters stop then stop + 1 else stop

/-- A number with a letter behind its leading zero. -/
def radixEnd? (letters : List Char) (accepts : Char → Bool) (characters : Array Char)
    (place : Nat) : Option Nat :=
  if characters[place]? == some '0' && charIs letters.contains characters (place + 1) then
    (digitsAfterUnderscoresEnd? accepts characters (place + 2)).map
      (withSuffix ['L', 'l'] characters)
  else none

def isBinaryDigit (character : Char) : Bool := character == '0' || character == '1'

def integerEnd? : Scan := fun characters place =>
  furthest
    [ radixEnd? ['x', 'X'] isHexDigit characters place,
      radixEnd? ['o', 'O'] isOctalDigit characters place,
      radixEnd? ['b', 'B'] isBinaryDigit characters place,
      (digitsWithUnderscoresEnd? characters place).map
        (withSuffix ['L', 'l', 'J', 'j'] characters) ]

/-- An exponent with its mark and sign. -/
def exponentEnd? (characters : Array Char) (place : Nat) : Option Nat :=
  if charIs (fun mark => mark == 'e' || mark == 'E') characters place then
    let signed := charIs (fun sign => sign == '+' || sign == '-') characters (place + 1)
    digitsWithUnderscoresEnd? characters (if signed then place + 2 else place + 1)
  else none

/-- The end of a point, of the digits that may follow it and of an exponent. -/
def pointEnd? (needsDigits : Bool) (characters : Array Char) (place : Nat) : Option Nat :=
  if characters[place]? == some '.' then
    let stop := match digitsWithUnderscoresEnd? characters (place + 1) with
      | some stop => some stop
      | none => if needsDigits then none else some (place + 1)
    stop.map fun stop => (exponentEnd? characters stop).getD stop
  else none

def floatEnd? : Scan := fun characters place =>
  let stop := match digitsWithUnderscoresEnd? characters place with
    | some whole => (pointEnd? false characters whole).or (exponentEnd? characters whole)
    | none => pointEnd? true characters place
  stop.map (withSuffix ['L', 'l', 'J', 'j'] characters)

/-- A number that no other number is longer than. -/
def number (kind : String) (scan other : Scan) : Terminal :=
  ⟨kind, true, true, fun characters place =>
    (scan characters place).filter fun stop =>
      (other characters place).all fun otherStop => otherStop ≤ stop⟩

def integer : Terminal := number "integer" integerEnd? floatEnd?

def float : Terminal := number "float" floatEnd? integerEnd?

def isSpace (character : Char) : Bool :=
  let code := character.toNat
  (9 ≤ code && code ≤ 13) || code == 0x20 || code == 0xfeff || code == 0x2060 || code == 0x200b

def whiteSpace : Terminal := ⟨"", false, false, runScan isSpace⟩

def comment : Terminal :=
  ⟨"comment", true, true, fun characters place =>
    if characters[place]? == some '#' then some (runEnd (· ≠ '\n') characters place) else none⟩

def lineContinuation : Terminal :=
  ⟨"line_continuation", true, true, fun characters place =>
    if characters[place]? == some '\\' then
      (joinedLine? characters place).map (min characters.size)
    else none⟩

end ExportIndex.Python
