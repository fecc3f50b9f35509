import ExportIndex.Arena
import ExportIndex.Json.Printer
import ExportIndex.Json.Reader

/-
This file decodes string literals. Escapes that are not well formed keep their text.
-/

namespace ExportIndex.TypeScript

/-- The character of a code point, if there is one. -/
def codePoint? (code : Nat) : Option Char :=
  if code < 0xd800 || (0xe000 ≤ code && code < 0x110000) then some (Char.ofNat code) else none

/-- The character that hexadecimal digits stand for. A sign may stand before them. -/
def hexCharacter? (digits : List Char) : Option Char :=
  let digits := match digits with
    | '+' :: rest => rest
    | digits => digits
  if digits = [] then none
  else (Json.hexNumber? digits).bind codePoint?

def decodedOr (digits written : List Char) : List Char :=
  match hexCharacter? digits with
  | some character => [character]
  | none => written

/-- The character behind a backslash when it stands for another one. -/
def escapedControl? (character : Char) : Option Char :=
  if character = 'n' then some '\n'
  else if character = 't' then some '\t'
  else if character = 'r' then some '\r'
  else if character = 'b' then some '\x08'
  else if character = 'f' then some '\x0c'
  else if character = 'v' then some '\x0b'
  else none

/-- What a backslash and the text behind it give, and the rest of the text. -/
def decodeEscape : List Char → List Char × List Char
  | [] => (['\\'], [])
  | 'x' :: rest =>
    (decodedOr (rest.take 2) ('\\' :: 'x' :: rest.take 2), rest.drop 2)
  | 'u' :: '\x7b' :: rest =>
    let digits := rest.takeWhile (· ≠ '\x7d')
    (decodedOr digits ('\\' :: 'u' :: '\x7b' :: (digits ++ ['\x7d'])),
      (rest.dropWhile (· ≠ '\x7d')).drop 1)
  | 'u' :: rest =>
    (decodedOr (rest.take 4) ('\\' :: 'u' :: rest.take 4), rest.drop 4)
  | '\n' :: rest => ([], rest)
  | '\r' :: '\n' :: rest => ([], rest)
  | '\r' :: rest => ([], rest)
  | '0' :: rest =>
    if rest.head?.any Char.isDigit then (['0'], rest) else (['\x00'], rest)
  | escaped :: rest => ([(escapedControl? escaped).getD escaped], rest)

/-- Replaces escapes; every one covers a character, so the length is enough steps. -/
def decodeFrom : Nat → List Char → List Char
  | 0, _ => []
  | _ + 1, [] => []
  | limit + 1, '\\' :: rest =>
    (decodeEscape rest).1 ++ decodeFrom limit (decodeEscape rest).2
  | limit + 1, character :: rest => character :: decodeFrom limit rest

def decodeBody (characters : List Char) : List Char := decodeFrom characters.length characters

/-- The text of a literal without its quotes. -/
def literalBody? : List Char → Option (List Char)
  | [] => none
  | quote :: rest =>
    if (quote = '"' || quote = '\x27') && rest.getLast? = some quote then some rest.dropLast
    else none

/-- What a string node stands for. -/
def stringValue? (arena : Arena) (id : Nat) : Option String :=
  (literalBody? (arena.text id).toList).map fun body => String.ofList (decodeBody body)

end ExportIndex.TypeScript
