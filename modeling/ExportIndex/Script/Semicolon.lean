import ExportIndex.Script.Dialect
import ExportIndex.Script.Lexeme

/-
This file decides where a statement ends without a semicolon. The decision looks
at the text behind the statement only, and at what might go on there.
-/

namespace ExportIndex.Script.Semicolon

open Grammar

/-- What may continue the text before the end in question. -/
structure Context where
  dialect : Dialect
  /-- An operator would be possible here. -/
  afterExpression : Bool
  /-- A block would make this a function with a body. -/
  beforeBody : Bool

def isBlank (character : Char) : Bool :=
  character.isWhitespace || character == '\x0b' || character == '\x0c'

/-- What comments and white space lead to. -/
structure Skipped where
  place : Nat
  /-- A slash that starts no comment was met. -/
  refused : Bool
  /-- A comment with a line end in it was passed, or only comments to the line's
  end. -/
  endsLine : Bool

/-- Passes white space and comments; `whole` says whether to go on behind a comment
that ends within its line. -/
def skip (characters : Array Char) (whole : Bool) : Nat → Bool → Nat → Skipped
  | 0, _, place => ⟨place, true, false⟩
  | limit + 1, sawLineEnd, place =>
    let place := runEnd isBlank characters place
    if characters[place]? == some '/' then
      if characters[place + 1]? == some '/' then
        skip characters whole limit sawLineEnd
          (runEnd (fun character => character != '\n' && character != '\u2028' &&
            character != '\u2029') characters (place + 2))
      else if characters[place + 1]? == some '*' then
        let stop := (blockCommentEnd? characters (place + 2)).getD characters.size
        let sawLineEnd := sawLineEnd || (characters.extract place stop).any fun character =>
          character == '\n' || character == '\u2028' || character == '\u2029'
        if characters[stop]? != some '/' && !whole then ⟨stop, false, sawLineEnd⟩
        else skip characters whole limit sawLineEnd stop
      else ⟨place, true, false⟩
    else ⟨place, false, true⟩

/-- Whether what stands on a later line cannot continue the statement. -/
def startsAnew (context : Context) (characters : Array Char) (place : Nat) : Bool :=
  match characters[place]? with
  | none => true
  | some character =>
    let next := fun accepts => charIs accepts characters (place + 1)
    if "\x60,;*%><=?^|&/:".contains character then false
    else if character == '.' then !context.dialect.isTyped && next Char.isDigit
    else if character == '(' || character == '[' then
      context.dialect.isTyped && !context.afterExpression
    else if character == '\x7b' then !context.beforeBody
    else if character == '+' then next (· == '+')
    else if character == '-' then next (· == '-')
    else if character == '!' then !next (· == '=')
    else if character == 'i' && next (· == 'n') then
      if !charIs Char.isAlpha characters (place + 2) then false
      else if standsAt "stanceof".toList characters (place + 2) then
        charIs Char.isAlpha characters (place + 10)
      else true
    else true

/-- The decision behind the first line end. -/
def afterLineEnd (context : Context) (characters : Array Char) (place : Nat) : Bool :=
  let skipped := skip characters true (characters.size + 1) false place
  !skipped.refused && startsAnew context characters skipped.place

/-- In typed text a closing brace before a colon ends a pattern, unless it stands behind
an expression. -/
def closesStatement (context : Context) (characters : Array Char) (place : Nat) : Bool :=
  !context.dialect.isTyped || context.afterExpression ||
    !charIs (· == ':') characters (runEnd isBlank characters (place + 1))

/-- Whether a statement ends at a place although no semicolon stands there. -/
def isImplied (context : Context) (characters : Array Char) : Nat → Nat → Bool
  | 0, _ => false
  | limit + 1, place =>
    match characters[place]? with
    | none => true
    | some '\x7d' => closesStatement context characters place
    | some '\n' => afterLineEnd context characters (place + 1)
    | some character =>
      if !context.dialect.isTyped && (character == '\u2028' || character == '\u2029') then
        afterLineEnd context characters (place + 1)
      else if !context.dialect.isTyped && character == '/' then
        let skipped := skip characters false (characters.size + 1) false place
        if skipped.refused then false
        else if skipped.endsLine && !context.afterExpression &&
          !charIs (fun next => next == ',' || next == '=') characters skipped.place then true
        else isImplied context characters limit skipped.place
      else if isBlank character then isImplied context characters limit (place + 1)
      else false

def implied (context : Context) (characters : Array Char) (place : Nat) : Bool :=
  isImplied context characters (characters.size + 1) place

end ExportIndex.Script.Semicolon
