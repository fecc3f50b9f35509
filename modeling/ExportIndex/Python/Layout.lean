import ExportIndex.Grammar.Lexeme

/-
This file measures the gaps between the lexemes of Python: whether a line ends in them,
and how far the next line is indented.
-/

namespace ExportIndex.Python

open Grammar

/-- What lies between a place and the next thing that is no blank. -/
structure Gap where
  endsLine : Bool
  /-- The indentation of what is next. -/
  indent : Nat
  /-- The indentation of the first comment on a line of its own. -/
  comment : Option Nat
  next : Nat
deriving DecidableEq, Repr

/-- The place behind a backslash and the end of a line. -/
def joinedLine? (characters : Array Char) (place : Nat) : Option Nat :=
  let stop := if characters[place + 1]? == some '\r' then place + 2 else place + 1
  if stop < characters.size && characters[stop]? != some '\n' then none else some (stop + 1)

/-- The width of a blank, unless it starts the line anew. -/
def blankWidth? (character : Char) : Option Nat :=
  if character = ' ' then some 1 else if character = '\t' then some 8 else none

theorem joinedLineBehind (characters : Array Char) (place behind : Nat)
    (joined : joinedLine? characters place = some behind) : place < behind := by
  simp only [joinedLine?, Option.ite_none_left_eq_some, Option.some.injEq] at joined
  obtain ⟨_, rfl⟩ := joined
  split <;> omega

theorem runEndNotBefore (accepts : Char → Bool) (characters : Array Char) (place : Nat) :
    place ≤ runEnd accepts characters place := by
  fun_induction runEnd accepts characters place <;> omega

/-- Goes on with a gap. Where comments are not passed over, one of them is next. A
comment on the line where the gap started, and a stray backslash, make it no gap. -/
def gapFrom? (passesComments : Bool) (characters : Array Char) (gap : Gap) : Option Gap :=
  if _inside : gap.next < characters.size then
    let character := characters[gap.next]
    if character = '\n' then
      gapFrom? passesComments characters
        { gap with endsLine := true, indent := 0, next := gap.next + 1 }
    else if character = '\r' || character = '\x0c' then
      gapFrom? passesComments characters { gap with indent := 0, next := gap.next + 1 }
    else if character = '#' && passesComments then
      if gap.endsLine then
        gapFrom? passesComments characters
          { gap with
            indent := 0
            comment := some (gap.comment.getD gap.indent)
            next := runEnd (· ≠ '\n') characters gap.next + 1 }
      else none
    else if character = '\\' then
      match _joined : joinedLine? characters gap.next with
      | some behind => gapFrom? passesComments characters { gap with next := behind }
      | none => none
    else
      match blankWidth? character with
      | some width =>
        gapFrom? passesComments characters
          { gap with indent := gap.indent + width, next := gap.next + 1 }
      | none => some gap
  else some { gap with endsLine := true, indent := 0 }
termination_by characters.size - gap.next
decreasing_by
  · omega
  · omega
  · have := runEndNotBefore (· ≠ '\n') characters gap.next
    omega
  · have := joinedLineBehind characters gap.next behind _joined
    omega
  · omega

def gap? (passesComments : Bool) (characters : Array Char) (place : Nat) : Option Gap :=
  gapFrom? passesComments characters ⟨false, 0, none, place⟩

/-- The line ends here; the end of the text ends a line. -/
def lineEnds (characters : Array Char) (place : Nat) : Bool :=
  (gap? true characters place).any (·.endsLine)

/-- A comment follows on the same line. -/
def commentFollows (characters : Array Char) (place : Nat) : Bool :=
  (gap? false characters place).any fun gap =>
    !gap.endsLine && characters[gap.next]? == some '#'

/-- A block with the given indentation ends here. It goes on for as long as comments do
that are indented like it. -/
def blockEnds (indent : Nat) (characters : Array Char) (place : Nat) : Bool :=
  (gap? true characters place).any fun gap =>
    gap.endsLine && gap.indent < indent && gap.comment.all (· < indent)

/-- The indentation of a block that starts here, inside one with the given indentation. -/
def deeperIndent? (indent : Nat) (characters : Array Char) (place : Nat) : Option Nat :=
  ((gap? true characters place).filter fun gap =>
    gap.endsLine && indent < gap.indent).map Gap.indent

def isQuote (character : Char) : Bool :=
  character == '"' || character == '\x27' || character == '\x60'

/-- What is begun here breaks off, since the next line belongs to an outer block. A quote
at its start is not seen in time where a string may stand. -/
def breaksOff (indent : Nat) (mayQuote : Bool) (characters : Array Char) (place : Nat) :
    Bool :=
  (gap? false characters place).any fun gap =>
    gap.endsLine && gap.indent < indent && !(mayQuote && charIs isQuote characters gap.next)

end ExportIndex.Python
