import ExportIndex.Grammar.Rule

/-
This file finds lexemes that many languages share.
-/

namespace ExportIndex.Grammar

/-- The end of the run of accepted characters from a place on. -/
def runEnd (accepts : Char → Bool) (characters : Array Char) (place : Nat) : Nat :=
  if inRange : place < characters.size then
    if accepts characters[place] then runEnd accepts characters (place + 1) else place
  else place
termination_by characters.size - place

/-- Whether the characters stand at a place. -/
def standsAt : List Char → Array Char → Nat → Bool
  | [], _, _ => true
  | first :: rest, characters, place =>
    characters[place]? == some first && standsAt rest characters (place + 1)

def charIs (accepts : Char → Bool) (characters : Array Char) (place : Nat) : Bool :=
  (characters[place]?).any accepts

def isHexDigit (character : Char) : Bool :=
  character.isDigit || ('a' ≤ character && character ≤ 'f') ||
    ('A' ≤ character && character ≤ 'F')

def isOctalDigit (character : Char) : Bool := '0' ≤ character && character ≤ '7'

/-- A fixed text. -/
def literalScan (text : String) : Scan := fun characters place =>
  let expected := text.toList
  if standsAt expected characters place then some (place + expected.length) else none

/-- A run of one character or more. -/
def runScan (accepts : Char → Bool) : Scan := fun characters place =>
  let stop := runEnd accepts characters place
  if place < stop then some stop else none

/-- Digits, with a single underscore between two of them where wanted. -/
def digitsEnd? (accepts : Char → Bool) (characters : Array Char) (place : Nat) : Option Nat :=
  if charIs accepts characters place then
    let stop := runEnd accepts characters place
    if stop ≤ place then none
    else if characters[stop]? == some '_' && stop + 1 < characters.size then
      match digitsEnd? accepts characters (stop + 1) with
      | some behind => some behind
      | none => some stop
    else some stop
  else none
termination_by characters.size - place
decreasing_by
  simp_all only [Bool.and_eq_true, decide_eq_true_eq]
  omega

/-- The furthest of some ends. -/
def furthest (ends : List (Option Nat)) : Option Nat :=
  ends.foldl (fun best stop => match best, stop with
    | some best, some stop => some (max best stop)
    | none, stop => stop
    | best, none => best) none

/-- A literal token, which gives a leaf of its own text. -/
def token (text : String) : Terminal := ⟨text, false, true, literalScan text⟩

/-- Nothing remains of the text. -/
def endOfText : Terminal :=
  ⟨"", false, false, fun characters place =>
    if characters.size ≤ place then some place else none⟩

end ExportIndex.Grammar
