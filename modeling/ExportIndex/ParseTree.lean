/-
This file defines the trees that grammars return.
-/

namespace ExportIndex

/-- A place in a text: the offset in bytes, the line and the offset in bytes
within the line, all from zero. -/
structure Position where
  offset : Nat
  row : Nat
  column : Nat
deriving DecidableEq, Repr, Inhabited

namespace Position

def start : Position := ⟨0, 0, 0⟩

def after (position : Position) (character : Char) : Position :=
  let offset := position.offset + character.utf8Size
  if character = '\n' then ⟨offset, position.row + 1, 0⟩
  else ⟨offset, position.row, position.column + character.utf8Size⟩

end Position

/-- What a node says of itself. -/
structure Label where
  kind : String
  /-- Whether the kind is a notion of the grammar and no literal token. -/
  named : Bool
  start : Nat
  stop : Nat
  row : Nat
  column : Nat
  /-- The node covers text that the grammar does not derive. -/
  isError : Bool
  /-- The node stands for text that the grammar demands and that is not there. -/
  isMissing : Bool
deriving DecidableEq, Repr, Inhabited

/-- A node and its children in order, each under a field or under none. -/
inductive ParseTree where
  | node (label : Label) (children : List (Option String × ParseTree))
deriving Inhabited

namespace ParseTree

def label : ParseTree → Label
  | node label _ => label

def children : ParseTree → List (Option String × ParseTree)
  | node _ children => children

/-- The tree of a text that is not derived at all. -/
def failure (text : String) : ParseTree :=
  node ⟨"ERROR", true, 0, text.utf8ByteSize, 0, 0, true, false⟩ []

mutual
def size : ParseTree → Nat
  | node _ children => sizeOfChildren children + 1

def sizeOfChildren : List (Option String × ParseTree) → Nat
  | [] => 0
  | (_, child) :: rest => size child + sizeOfChildren rest
end

end ParseTree

/-- A grammar gives every text a tree; what it does not derive is marked in it. -/
abbrev Grammar := String → ParseTree

end ExportIndex
