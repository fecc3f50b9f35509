import ExportIndex.Json

/-
This file prints JSON values, on one line or over lines with two spaces of
indentation for each level.
-/

namespace ExportIndex.Json

def hexDigit (value : Nat) : Char := Nat.digitChar (value % 16)

/-- Quotes, backslashes and control characters are escaped, all else is kept. -/
def escape (character : Char) : List Char :=
  if character = '"' then ['\\', '"']
  else if character = '\\' then ['\\', '\\']
  else if character = '\x08' then ['\\', 'b']
  else if character = '\t' then ['\\', 't']
  else if character = '\n' then ['\\', 'n']
  else if character = '\x0c' then ['\\', 'f']
  else if character = '\r' then ['\\', 'r']
  else if character.toNat < 0x20 then
    ['\\', 'u', '0', '0', hexDigit (character.toNat / 16), hexDigit character.toNat]
  else [character]

def quoteChars (characters : List Char) : List Char :=
  '"' :: (characters.flatMap escape ++ ['"'])

def quote (value : String) : String :=
  String.ofList (quoteChars value.toList)

mutual
/-- The text on one line, without spaces. -/
def compact : Json → String
  | null => "null"
  | bool true => "true"
  | bool false => "false"
  | integer value => toString value
  | real literal => literal
  | text value => quote value
  | list items => "[" ++ ",".intercalate (compactItems items) ++ "]"
  | object members => "\x7b" ++ ",".intercalate (compactMembers members) ++ "\x7d"

def compactItems : List Json → List String
  | [] => []
  | item :: rest => compact item :: compactItems rest

def compactMembers : List (String × Json) → List String
  | [] => []
  | (key, value) :: rest => (quote key ++ ":" ++ compact value) :: compactMembers rest
end

/-- The start of a line inside `depth` brackets. -/
def lineStart (depth : Nat) : String :=
  "\n" ++ String.ofList (List.replicate (2 * depth) ' ')

/-- Brackets around items that each stand on a line of their own. -/
def bracketed (opening closing : String) (depth : Nat) : List String → String
  | [] => opening ++ closing
  | items =>
    opening ++ ",".intercalate (items.map (lineStart (depth + 1) ++ ·)) ++
      lineStart depth ++ closing

mutual
/-- The text over lines, inside `depth` brackets. -/
def prettyAt (depth : Nat) : Json → String
  | null => "null"
  | bool true => "true"
  | bool false => "false"
  | integer value => toString value
  | real literal => literal
  | text value => quote value
  | list items => bracketed "[" "]" depth (prettyItems (depth + 1) items)
  | object members => bracketed "\x7b" "\x7d" depth (prettyMembers (depth + 1) members)

def prettyItems (depth : Nat) : List Json → List String
  | [] => []
  | item :: rest => prettyAt depth item :: prettyItems depth rest

def prettyMembers (depth : Nat) : List (String × Json) → List String
  | [] => []
  | (key, value) :: rest =>
    (quote key ++ ": " ++ prettyAt depth value) :: prettyMembers depth rest
end

def pretty (json : Json) : String := prettyAt 0 json

end ExportIndex.Json
