import ExportIndex.Json

/-
This file reads JSON values. Members keep their order, repeated keys included.
-/

namespace ExportIndex.Json

def isSpace (character : Char) : Bool :=
  character = ' ' || character = '\n' || character = '\t' || character = '\r'

def skipSpaces (characters : List Char) : List Char := characters.dropWhile isSpace

def hexValue? (character : Char) : Option Nat :=
  if '0' ≤ character && character ≤ '9' then some (character.toNat - '0'.toNat)
  else if 'a' ≤ character && character ≤ 'f' then some (character.toNat - 'a'.toNat + 10)
  else if 'A' ≤ character && character ≤ 'F' then some (character.toNat - 'A'.toNat + 10)
  else none

/-- The number that hexadecimal digits write. -/
def hexNumber? (digits : List Char) : Option Nat :=
  digits.foldl (fun value? digit => do
    let value ← value?
    let last ← hexValue? digit
    return 16 * value + last) (some 0)

/-- A piece of a string: a character, or a number of 16 bits that stands for half
a character or for a whole one. -/
inductive Piece where
  | character (value : Char)
  | unit (value : Nat)
deriving DecidableEq, Repr

/-- The character behind a backslash, except for `u`. -/
def simpleEscape? (character : Char) : Option Char :=
  if character = '"' || character = '\\' || character = '/' then some character
  else if character = 'b' then some '\x08'
  else if character = 'f' then some '\x0c'
  else if character = 'n' then some '\n'
  else if character = 'r' then some '\r'
  else if character = 't' then some '\t'
  else none

/-- The pieces up to the closing quote, and the text behind it. -/
def readPieces : List Char → Option (List Piece × List Char)
  | [] => none
  | '"' :: rest => some ([], rest)
  | '\\' :: 'u' :: first :: second :: third :: fourth :: rest => do
    let value ← hexNumber? [first, second, third, fourth]
    let (pieces, rest) ← readPieces rest
    return (.unit value :: pieces, rest)
  | '\\' :: escaped :: rest => do
    let value ← simpleEscape? escaped
    let (pieces, rest) ← readPieces rest
    return (.character value :: pieces, rest)
  | character :: rest =>
    if character.toNat < 0x20 then none
    else do
      let (pieces, rest) ← readPieces rest
      return (.character character :: pieces, rest)

def isHighHalf (value : Nat) : Bool := 0xd800 ≤ value && value < 0xdc00

def isLowHalf (value : Nat) : Bool := 0xdc00 ≤ value && value < 0xe000

/-- Two halves make a character; a half by itself makes none. -/
def joinPieces : List Piece → Option (List Char)
  | [] => some []
  | .character value :: rest => (joinPieces rest).map (value :: ·)
  | .unit high :: .unit low :: rest =>
    if isHighHalf high then
      if isLowHalf low then
        (joinPieces rest).map
          (Char.ofNat (0x10000 + (high - 0xd800) * 0x400 + (low - 0xdc00)) :: ·)
      else none
    else if isLowHalf high then none
    else (joinPieces (.unit low :: rest)).map (Char.ofNat high :: ·)
  | .unit value :: rest =>
    if isHighHalf value || isLowHalf value then none
    else (joinPieces rest).map (Char.ofNat value :: ·)

/-- The string whose opening quote has been read. -/
def readText (characters : List Char) : Option (List Char × List Char) := do
  let (pieces, rest) ← readPieces characters
  let text ← joinPieces pieces
  return (text, rest)

def isDigit (character : Char) : Bool := '0' ≤ character && character ≤ '9'

/-- The whole part of a number: `0`, or digits that do not start with it. -/
def readWhole : List Char → Option (List Char × List Char)
  | '0' :: rest => some (['0'], rest)
  | characters =>
    let digits := characters.takeWhile isDigit
    if digits = [] then none else some (digits, characters.dropWhile isDigit)

/-- A point and digits, or nothing. -/
def readFraction : List Char → Option (List Char × List Char)
  | '.' :: rest =>
    let digits := rest.takeWhile isDigit
    if digits = [] then none else some ('.' :: digits, rest.dropWhile isDigit)
  | characters => some ([], characters)

def readExponentDigits (written rest : List Char) : Option (List Char × List Char) :=
  let digits := rest.takeWhile isDigit
  if digits = [] then none else some (written ++ digits, rest.dropWhile isDigit)

/-- The mark of an exponent, its sign and digits, or nothing. -/
def readExponent : List Char → Option (List Char × List Char)
  | [] => some ([], [])
  | mark :: rest =>
    if mark = 'e' || mark = 'E' then
      match rest with
      | '+' :: rest => readExponentDigits [mark, '+'] rest
      | '-' :: rest => readExponentDigits [mark, '-'] rest
      | _ => readExponentDigits [mark] rest
    else some ([], mark :: rest)

def decimalValue (digits : List Char) : Nat :=
  digits.foldl (fun value digit => 10 * value + (digit.toNat - '0'.toNat)) 0

def readUnsigned (negative : Bool) (characters : List Char) : Option (Json × List Char) := do
  let (whole, rest) ← readWhole characters
  let (fraction, rest) ← readFraction rest
  let (exponent, rest) ← readExponent rest
  let sign := if negative then ['-'] else []
  if fraction = [] && exponent = [] && !(negative && whole = ['0']) then
    let value : Int := decimalValue whole
    return (.integer (if negative then -value else value), rest)
  else return (.real (String.ofList (sign ++ whole ++ fraction ++ exponent)), rest)

def readNumber : List Char → Option (Json × List Char)
  | '-' :: rest => readUnsigned true rest
  | characters => readUnsigned false characters

mutual
/-- A value and the text behind it; brackets nest at most `depth` deep. -/
def readValue : Nat → List Char → Option (Json × List Char)
  | 0, _ => none
  | depth + 1, characters =>
    match skipSpaces characters with
    | 'n' :: 'u' :: 'l' :: 'l' :: rest => some (.null, rest)
    | 't' :: 'r' :: 'u' :: 'e' :: rest => some (.bool true, rest)
    | 'f' :: 'a' :: 'l' :: 's' :: 'e' :: rest => some (.bool false, rest)
    | '"' :: rest => (readText rest).map fun (value, rest) => (.text (String.ofList value), rest)
    | '[' :: rest =>
      match skipSpaces rest with
      | ']' :: rest => some (.list [], rest)
      | rest => (readItems depth rest).map fun (items, rest) => (.list items, rest)
    | '\x7b' :: rest =>
      match skipSpaces rest with
      | '\x7d' :: rest => some (.object [], rest)
      | rest => (readMembers depth rest).map fun (members, rest) => (.object members, rest)
    | characters => readNumber characters

/-- The items of a list and the text behind its bracket. -/
def readItems : Nat → List Char → Option (List Json × List Char)
  | 0, _ => none
  | depth + 1, characters => do
    let (item, rest) ← readValue depth characters
    match skipSpaces rest with
    | ',' :: rest =>
      let (items, rest) ← readItems depth rest
      return (item :: items, rest)
    | ']' :: rest => return ([item], rest)
    | _ => none

/-- The members of an object and the text behind its bracket. -/
def readMembers : Nat → List Char → Option (List (String × Json) × List Char)
  | 0, _ => none
  | depth + 1, characters =>
    match skipSpaces characters with
    | '"' :: rest => do
      let (key, rest) ← readText rest
      match skipSpaces rest with
      | ':' :: rest =>
        let (value, rest) ← readValue depth rest
        match skipSpaces rest with
        | ',' :: rest =>
          let (members, rest) ← readMembers depth rest
          return ((String.ofList key, value) :: members, rest)
        | '\x7d' :: rest => return ([(String.ofList key, value)], rest)
        | _ => none
      | _ => none
    | _ => none
end

/-- Reads a text that holds one value and otherwise only spaces. Every step goes
behind a character, so the length bounds the depth. -/
def read? (text : List Char) : Option Json := do
  let (value, rest) ← readValue (2 * text.length + 2) text
  if skipSpaces rest = [] then some value else none

end ExportIndex.Json
