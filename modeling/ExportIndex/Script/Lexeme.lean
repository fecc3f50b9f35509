import ExportIndex.Grammar.Lexeme

/-
This file finds the lexemes of JavaScript and TypeScript.
-/

namespace ExportIndex.Script

open Grammar

/-- The characters of the Unicode category of space separators. -/
def isSpaceSeparator (character : Char) : Bool :=
  let code := character.toNat
  code == 0x20 || code == 0xa0 || code == 0x1680 || (0x2000 ≤ code && code ≤ 0x200a) ||
    code == 0x202f || code == 0x205f || code == 0x3000

def isSpace (character : Char) : Bool :=
  let code := character.toNat
  (9 ≤ code && code ≤ 13) || isSpaceSeparator character || code == 0xfeff ||
    code == 0x2028 || code == 0x2029 || code == 0x2060 || code == 0x200b

def isLineEnd (character : Char) : Bool :=
  character == '\n' || character == '\r' || character == '\u2028' || character == '\u2029'

/-- All that no white space, control character or punctuation is may be part of a
word. -/
def isWordPart (character : Char) : Bool :=
  0x20 ≤ character.toNat && !isSpace character &&
    !(":;\x60\"'@#.,|^&<=>+-*/\\%?!~()[]\x7b\x7d".contains character)

def isWordStart (character : Char) : Bool :=
  isWordPart character && !character.isDigit

/-- The end of an escape such as `\u0061` or `\u{61}`. -/
def unicodeEscapeEnd? (characters : Array Char) (place : Nat) : Option Nat :=
  if standsAt ['\\', 'u'] characters place then
    if characters[place + 2]? == some '\x7b' then
      let stop := runEnd isHexDigit characters (place + 3)
      if place + 3 < stop && characters[stop]? == some '\x7d' then some (stop + 1) else none
    else if [2, 3, 4, 5].all fun index => charIs isHexDigit characters (place + index) then
      some (place + 6)
    else none
  else none

/-- The end of the rest of a word. -/
def wordRestEnd (characters : Array Char) : Nat → Nat → Nat
  | 0, place => place
  | limit + 1, place =>
    let stop := runEnd isWordPart characters place
    match unicodeEscapeEnd? characters stop with
    | some behind => wordRestEnd characters limit behind
    | none => stop

def wordEnd? (characters : Array Char) (place : Nat) : Option Nat :=
  if charIs isWordStart characters place then
    some (wordRestEnd characters characters.size (place + 1))
  else
    (unicodeEscapeEnd? characters place).map (wordRestEnd characters characters.size)

/-- Whether the word at a place is the given one. -/
def wordIs (word : String) (characters : Array Char) (place : Nat) : Bool :=
  standsAt word.toList characters place &&
    wordEnd? characters place == some (place + word.length)

def wordIsOneOf (words : List String) (characters : Array Char) (place : Nat) : Bool :=
  words.any fun word => wordIs word characters place

def keyword (word : String) : Terminal :=
  ⟨word, false, true, fun characters place =>
    if wordIs word characters place then some (place + word.length) else none⟩

/-- Any word but some, as a leaf of the given kind. -/
def wordExcept (excluded : List String) (kind : String) : Terminal :=
  ⟨kind, true, true, fun characters place =>
    if wordIsOneOf excluded characters place then none else wordEnd? characters place⟩

/-- A certain word that has a kind of its own. -/
def wordOfKind (word kind : String) : Terminal :=
  { keyword word with kind, named := true }

def privateName : Terminal :=
  ⟨"private_property_identifier", true, true, fun characters place =>
    if characters[place]? == some '#' then wordEnd? characters (place + 1) else none⟩

/-- The operators from which the longest one is taken. -/
def operators : List String :=
  [">>>=", "...", "===", "!==", "**=", "<<=", ">>=", ">>>", "&&=", "||=", "??=",
    "=>", "==", "!=", "<=", ">=", "&&", "||", "??", "?.", "++", "--", "+=", "-=",
    "*=", "/=", "%=", "&=", "|=", "^=", "<<", ">>", "**",
    "=", "!", "<", ">", "&", "|", "?", "+", "-", "*", "/", "%", "^", "~", "."]

/-- The operators and their characters. -/
def operatorTexts : List (String × List Char) :=
  operators.map fun operator => (operator, operator.toList)

/-- The longest operator at a place; `?.` before a digit is none. -/
def operatorAt? (characters : Array Char) (place : Nat) : Option String :=
  (operatorTexts.find? fun (operator, text) =>
    standsAt text characters place &&
      !(operator == "?." && charIs Char.isDigit characters (place + 2))).map Prod.fst

def operator (text : String) : Terminal :=
  ⟨text, false, true, fun characters place =>
    if operatorAt? characters place == some text then some (place + text.length) else none⟩

/-- An exponent with its mark and sign. -/
def exponentEnd? (characters : Array Char) (place : Nat) : Option Nat :=
  if charIs (fun mark => mark == 'e' || mark == 'E') characters place then
    if charIs (fun sign => sign == '+' || sign == '-') characters (place + 1) then
      digitsEnd? Char.isDigit characters (place + 2)
    else digitsEnd? Char.isDigit characters (place + 1)
  else none

/-- The ends of the whole part of a decimal number. A zero stands alone or before a
digit that is not zero. -/
def wholeEnds (characters : Array Char) (place : Nat) : List (Option Nat) :=
  let isFirst := fun digit => '1' ≤ digit && digit ≤ '9'
  let isZero := characters[place]? == some '0'
  let first := if isZero then place + 1 else place
  let zero := if isZero then some (place + 1) else none
  if charIs isFirst characters first then
    let rest := if characters[first + 1]? == some '_' then first + 2 else first + 1
    [zero, some ((digitsEnd? Char.isDigit characters rest).getD (first + 1))]
  else [zero]

def optionalEnd (scan : Array Char → Nat → Option Nat) (characters : Array Char)
    (place : Nat) : Nat := (scan characters place).getD place

/-- A decimal number with a point or an exponent behind its whole part. -/
def decimalEnd? (characters : Array Char) (whole : Nat) : Option Nat :=
  if characters[whole]? == some '.' then
    some (optionalEnd exponentEnd? characters
      (optionalEnd (digitsEnd? Char.isDigit) characters (whole + 1)))
  else exponentEnd? characters whole

/-- A number with a letter behind its leading zero. -/
def radixEnd? (letters : List Char) (accepts : Char → Bool) (characters : Array Char)
    (place : Nat) : Option Nat :=
  if characters[place]? == some '0' && charIs letters.contains characters (place + 1) then
    digitsEnd? accepts characters (place + 2)
  else none

def withSuffixN (characters : Array Char) (stop : Option Nat) : Option Nat :=
  stop.map fun stop => if characters[stop]? == some 'n' then stop + 1 else stop

def numberEnd? : Scan := fun characters place =>
  furthest <|
    [ withSuffixN characters (radixEnd? ['x', 'X'] isHexDigit characters place),
      withSuffixN characters
        (radixEnd? ['b', 'B'] (fun digit => digit == '0' || digit == '1') characters place),
      withSuffixN characters (radixEnd? ['o', 'O'] isOctalDigit characters place),
      withSuffixN characters (digitsEnd? Char.isDigit characters place),
      if characters[place]? == some '.' then
        (digitsEnd? Char.isDigit characters (place + 1)).map
          (optionalEnd exponentEnd? characters)
      else none ] ++
    (wholeEnds characters place).map fun whole => whole.bind (decimalEnd? characters)

def number : Terminal := ⟨"number", true, true, numberEnd?⟩

/-- The end of an escape in a string or template. -/
def escapeEnd? : Scan := fun characters place =>
  if characters[place]? == some '\\' then
    match characters[place + 1]? with
    | none => none
    | some escaped =>
      if escaped == 'x' then
        if charIs isHexDigit characters (place + 2) && charIs isHexDigit characters (place + 3)
        then some (place + 4) else none
      else if escaped == 'u' then unicodeEscapeEnd? characters place
      else if isOctalDigit escaped then
        some (min (place + 4) (runEnd isOctalDigit characters (place + 1)))
      else if (escaped == '\r' || escaped == '?') &&
          charIs (fun behind => isLineEnd behind && behind != '\r') characters (place + 2) then
        some (place + 3)
      else some (place + 2)
  else none

def escape : Terminal := ⟨"escape_sequence", true, true, escapeEnd?⟩

/-- The text of a string up to its quote, an escape or the end of the line. -/
def stringFragment (quote : Char) : Terminal :=
  ⟨"string_fragment", true, true, runScan fun character =>
    character != quote && character != '\\' && character != '\r' && character != '\n'⟩

/-- The text of a template up to a substitution, an escape or the closing quote. -/
def templateTextEnd (characters : Array Char) (place : Nat) : Nat :=
  if inRange : place < characters.size then
    let character := characters[place]
    if character == '\x60' || character == '\\' || character == '\x00' ||
      (character == '$' && characters[place + 1]? == some '\x7b') then place
    else templateTextEnd characters (place + 1)
  else place
termination_by characters.size - place

def templateText : Terminal :=
  ⟨"string_fragment", true, true, fun characters place =>
    let stop := templateTextEnd characters place
    if place < stop then some stop else none⟩

/-- The end of the pattern of a regular expression; a slash in brackets is part of
it. -/
def patternEnd? (characters : Array Char) (inBrackets : Bool) (place : Nat) : Option Nat :=
  if inRange : place < characters.size then
    let character := characters[place]
    if character == '\n' then none
    else if character == '\\' then
      if charIs (· != '\n') characters (place + 1) then
        patternEnd? characters inBrackets (place + 2)
      else none
    else if inBrackets then patternEnd? characters (character != ']') (place + 1)
    else if character == '/' then some place
    else patternEnd? characters (character == '[') (place + 1)
  else none
termination_by characters.size - place

def regexPattern : Terminal :=
  ⟨"regex_pattern", true, true, fun characters place =>
    match patternEnd? characters false place with
    | some stop => if place < stop then some stop else none
    | none => none⟩

def regexFlags : Terminal :=
  ⟨"regex_flags", true, true, runScan fun flag => 'a' ≤ flag && flag ≤ 'z'⟩

/-- The place behind the end of a comment over lines. -/
def blockCommentEnd? (characters : Array Char) (place : Nat) : Option Nat :=
  if place < characters.size then
    if standsAt ['*', '/'] characters place then some (place + 2)
    else blockCommentEnd? characters (place + 1)
  else none
termination_by characters.size - place

def commentEnd? : Scan := fun characters place =>
  if standsAt ['/', '/'] characters place then
    some (runEnd (!isLineEnd ·) characters (place + 2))
  else if standsAt ['/', '*'] characters place then blockCommentEnd? characters (place + 2)
  else none

def comment : Terminal := ⟨"comment", true, true, commentEnd?⟩

/-- A comment that starts as one of HTML starts or ends. -/
def htmlComment : Terminal :=
  ⟨"html_comment", true, true, fun characters place =>
    if standsAt "<!--".toList characters place || standsAt "-->".toList characters place then
      some (runEnd (fun character => character != '\n' && character != '\u2028' &&
        character != '\u2029') characters place)
    else none⟩

def spaces : Terminal := ⟨"", false, false, runScan isSpace⟩

def hashBang : Terminal :=
  ⟨"hash_bang_line", true, true, fun characters place =>
    if standsAt ['#', '!'] characters place then
      some (runEnd (· != '\n') characters (place + 2))
    else none⟩

/-- The mark between a condition and its consequence. -/
def questionMark (allowsColon : Bool) : Terminal :=
  ⟨"?", false, true, fun characters place =>
    if characters[place]? != some '?' || characters[place + 1]? == some '?' then none
    else
      let next := runEnd (fun character => character.isWhitespace) characters (place + 1)
      if characters[place + 1]? == some '.' then
        if charIs Char.isDigit characters (place + 2) then some (place + 1) else none
      else if !allowsColon && charIs [':', ')', ','].contains characters next then none
      else some (place + 1)⟩

/-- A name of an element or attribute with a hyphen in it. -/
def hyphenName (kind : String) : Terminal :=
  ⟨kind, true, true, fun characters place =>
    let isLetter := fun (character : Char) =>
      character.isAlpha || character == '_' || character == '$'
    let isPart := fun (character : Char) => isLetter character || character.isDigit
    if charIs isLetter characters place then
      let hyphen := runEnd isPart characters place
      if characters[hyphen]? == some '-' then
        some (runEnd (fun character => isPart character || character == '-') characters hyphen)
      else none
    else none⟩

/-- A character reference such as `&amp;` or `&#233;`. -/
def characterReferenceEnd? : Scan := fun characters place =>
  if characters[place]? == some '&' then
    let closed := fun start stop longest =>
      if start < stop && stop ≤ start + longest && characters[stop]? == some ';' then
        some (stop + 1)
      else none
    if characters[place + 1]? == some '#' then
      if charIs (fun mark => mark == 'x' || mark == 'X') characters (place + 2) then
        closed (place + 3) (runEnd isHexDigit characters (place + 3)) 6
      else closed (place + 2) (runEnd Char.isDigit characters (place + 2)) 5
    else closed (place + 1) (runEnd Char.isAlpha characters (place + 1)) 30
  else none

def characterReference : Terminal :=
  ⟨"html_character_reference", true, true, characterReferenceEnd?⟩

/-- The text between elements. White space that starts with a line end is no text
by itself. -/
def elementTextEnd? (characters : Array Char) (afterLineEnd seen : Bool) (place : Nat) :
    Option Nat :=
  if inRange : place < characters.size then
    let character := characters[place]
    if ['<', '>', '\x7b', '\x7d', '&', '\x00'].contains character then
      if seen then some place else none
    else if character == '\n' then elementTextEnd? characters true seen (place + 1)
    else
      let blank := afterLineEnd && (character.isWhitespace || character == '\x0b' ||
        character == '\x0c')
      elementTextEnd? characters blank (seen || !blank) (place + 1)
  else if seen then some place else none
termination_by characters.size - place

def elementText : Terminal :=
  ⟨"jsx_text", true, true, fun characters place => elementTextEnd? characters false false place⟩

/-- The text of an attribute up to its quote; an ampersand before a letter or `#`
starts a character reference. -/
def attributeTextEnd (quote : Char) (characters : Array Char) (place : Nat) : Nat :=
  if inRange : place < characters.size then
    let character := characters[place]
    if character == quote then place
    else if character == '&' then
      if charIs (fun next => next != '#' && !next.isAlpha) characters (place + 1) then
        attributeTextEnd quote characters (place + 2)
      else place
    else attributeTextEnd quote characters (place + 1)
  else place
termination_by characters.size - place

def attributeText (quote : Char) : Terminal :=
  ⟨"string_fragment", true, true, fun characters place =>
    let stop := attributeTextEnd quote characters place
    if place < stop then some stop else none⟩

end ExportIndex.Script
