import ExportIndex.Python.Lexeme

/-
This file finds the pieces of strings.
-/

namespace ExportIndex.Python

open Grammar

/-- How a string is written. -/
structure Delimiter where
  quote : Char
  triple : Bool
  /-- Backslashes are text. -/
  raw : Bool
  /-- Braces enclose expressions. -/
  format : Bool
  bytes : Bool
deriving BEq

namespace Delimiter

def all : List Delimiter :=
  ['"', '\x27', '\x60'].flatMap fun quote =>
    [true, false].flatMap fun triple =>
      [true, false].flatMap fun raw =>
        [true, false].flatMap fun format =>
          [true, false].map fun bytes => ⟨quote, triple, raw, format, bytes⟩

/-- The quotes at both ends. -/
def quotes (delimiter : Delimiter) : List Char :=
  List.replicate (if delimiter.triple then 3 else 1) delimiter.quote

end Delimiter

/-- The letters that may stand before a quote. -/
def isFlag (character : Char) : Bool := "fFrRbBuU".contains character

def hasFlag (flags : List Char) (characters : Array Char) (place : Nat) : Bool :=
  (characters.extract place (runEnd isFlag characters place)).any flags.contains

/-- The delimiter of the string that starts at a place, and the place behind it. Only
quotes of two kinds may be written three times. -/
def delimiterAt? (characters : Array Char) (place : Nat) : Option (Delimiter × Nat) :=
  let stop := runEnd isFlag characters place
  match characters[stop]? with
  | none => none
  | some quote =>
    if isQuote quote then
      let triple := quote != '\x60' && standsAt [quote, quote, quote] characters stop
      some (⟨quote, triple, hasFlag ['r', 'R'] characters place,
        hasFlag ['f', 'F'] characters place, hasFlag ['b', 'B'] characters place⟩,
        if triple then stop + 3 else stop + 1)
    else none

/-- The start of any string. -/
def anyStringStart : Terminal :=
  ⟨"string_start", true, true, fun characters place =>
    (delimiterAt? characters place).map Prod.snd⟩

def stringStart (delimiter : Delimiter) : Terminal :=
  ⟨"string_start", true, true, fun characters place =>
    ((delimiterAt? characters place).filter fun found => found.1 == delimiter).map Prod.snd⟩

def stringEnd (delimiter : Delimiter) : Terminal :=
  ⟨"string_end", true, true, fun characters place =>
    if standsAt delimiter.quotes characters place then some (place + delimiter.quotes.length)
    else none⟩

/-- The place behind a backslash in a raw string and what it keeps from being read: a
quote or a backslash, then the end of a line. -/
def rawEscapeEnd (quote : Char) (characters : Array Char) (place : Nat) : Nat :=
  let kept := if charIs (fun kept => kept == quote || kept == '\\') characters (place + 1) then
    place + 2 else place + 1
  if standsAt ['\r', '\n'] characters kept then kept + 2
  else if charIs (fun stop => stop == '\r' || stop == '\n') characters kept then kept + 1
  else kept

/-- The end of the text of a string from a place on, where some text has been passed or
not. A line may end in a string with single quotes only where text has not been passed. -/
def contentEnd? (delimiter : Delimiter) (characters : Array Char) :
    Nat → Bool → Nat → Option Nat
  | 0, _, _ => none
  | limit + 1, passed, place =>
    let stop := if passed then some place else none
    match characters[place]? with
    | none => none
    | some character =>
      if character == '\x00' then none
      else if delimiter.format && (character == '\x7b' || character == '\x7d') then stop
      else if character == '\\' then
        if delimiter.raw then
          contentEnd? delimiter characters limit true
            (rawEscapeEnd delimiter.quote characters place)
        else if delimiter.bytes &&
            charIs (fun escaped => "NuU".contains escaped) characters (place + 1) then
          contentEnd? delimiter characters limit true (place + 3)
        else stop
      else if character == delimiter.quote then
        if standsAt delimiter.quotes characters place then stop
        else if characters[place + 1]? == some delimiter.quote then some (place + 2)
        else some (place + 1)
      else if character == '\n' && passed && !delimiter.triple then none
      else contentEnd? delimiter characters limit true (place + 1)

/-- Text without escapes, which has no leaf of its own. -/
def stringText (delimiter : Delimiter) : Terminal :=
  ⟨"", false, false, fun characters place =>
    contentEnd? delimiter characters (characters.size + 1) false place⟩

/-- Two braces, which stand for one. -/
def doubledBrace : Terminal :=
  ⟨"escape_interpolation", true, true, fun characters place =>
    if standsAt ['\x7b', '\x7b'] characters place || standsAt ['\x7d', '\x7d'] characters place
    then some (place + 2) else none⟩

def digitsStand (accepts : Char → Bool) (count : Nat) (characters : Array Char)
    (place : Nat) : Bool :=
  (List.range count).all fun index => charIs accepts characters (place + index)

/-- The end of an escape with a meaning. -/
def escapeEnd? : Scan := fun characters place =>
  if characters[place]? == some '\\' then
    match characters[place + 1]? with
    | none => none
    | some escaped =>
      if escaped == 'u' && digitsStand isHexDigit 4 characters (place + 2) then some (place + 6)
      else if escaped == 'U' && digitsStand isHexDigit 8 characters (place + 2) then
        some (place + 10)
      else if escaped == 'x' && digitsStand isHexDigit 2 characters (place + 2) then
        some (place + 4)
      else if digitsStand Char.isDigit 3 characters (place + 1) then some (place + 4)
      else if standsAt ['\r', '\n'] characters (place + 1) then some (place + 3)
      else if escaped == '\n' || "'\"abfrntv\\".contains escaped then some (place + 2)
      else if escaped == 'N' && characters[place + 2]? == some '\x7b' then
        let stop := runEnd (· ≠ '\x7d') characters (place + 3)
        if place + 3 < stop && stop < characters.size then some (stop + 1) else none
      else none
  else none

def escape : Terminal := ⟨"escape_sequence", true, true, escapeEnd?⟩

/-- A backslash that escapes nothing. -/
def loneBackslash : Terminal :=
  ⟨"", false, false, fun characters place =>
    if characters[place]? == some '\\' && (escapeEnd? characters place).isNone then
      some (place + 1) else none⟩

/-- The letter that says how a value is converted to text. -/
def conversion : Terminal :=
  ⟨"type_conversion", true, true, fun characters place =>
    if characters[place]? == some '!' &&
      charIs (fun letter => 'a' ≤ letter && letter ≤ 'z') characters (place + 1) then
      some (place + 2) else none⟩

/-- The text of a format on one line. -/
def formatText : Terminal :=
  ⟨"", false, false, runScan fun character =>
    character != '\x7b' && character != '\x7d' && character != '\n'⟩

def lineFeed : Terminal := ⟨"", false, false, literalScan "\n"⟩

end ExportIndex.Python
