import ExportIndex.Grammar.Rule
import Std.Data.HashMap

/-
This file derives texts by rules. Extras go to the innermost node that has
lexemes on both sides of them.
-/

namespace ExportIndex.Grammar

/-- A text, with the position before each character and behind the last one. -/
structure Input where
  characters : Array Char
  positions : Array Position

def Input.ofString (text : String) : Input :=
  let characters := text.toList
  ⟨characters.toArray,
    ((characters.foldl (fun (positions, position) character =>
      (positions.push (position.after character), position.after character))
      (#[Position.start], Position.start)).1)⟩

def Input.position (input : Input) (place : Nat) : Position :=
  input.positions.getD place (input.positions.back?.getD Position.start)

/-- A part of what a rule gives. -/
structure Piece where
  field : Option String
  isExtra : Bool
  tree : ParseTree
deriving Inhabited

/-- The pieces that a rule gives and the place behind them, if it fits. -/
abbrev Derived := Option (List Piece × Nat)

/-- What notions give at places, once it is known. -/
abbrev Memory (Notion : Type) [BEq Notion] [Hashable Notion] :=
  Std.HashMap (Notion × Nat) Derived

def leaf (input : Input) (terminal : Terminal) (start stop : Nat) : ParseTree :=
  let position := input.position start
  .node ⟨terminal.kind, terminal.named, position.offset, (input.position stop).offset,
    position.row, position.column, false, false⟩ []

/-- The leaf of a lexeme, or nothing if the lexeme is not visible. -/
def leafPieces (input : Input) (terminal : Terminal) (isExtra : Bool) (start stop : Nat) :
    List Piece :=
  if terminal.visible then [⟨none, isExtra, leaf input terminal start stop⟩] else []

/-- The first of the terminals that is found at a place and covers something. -/
def firstExtra? (characters : Array Char) (place : Nat) : List Terminal → Option (Terminal × Nat)
  | [] => none
  | terminal :: rest =>
    match terminal.scan characters place with
    | some stop => if place < stop then some (terminal, stop)
      else firstExtra? characters place rest
    | none => firstExtra? characters place rest

/-- The extras from a place on; each covers a character, so `limit` is their
greatest number. -/
def extrasFrom (input : Input) (extras : List Terminal) : Nat → Nat → List Piece × Nat
  | 0, place => ([], place)
  | limit + 1, place =>
    match firstExtra? input.characters place extras with
    | none => ([], place)
    | some (terminal, stop) =>
      let (pieces, behind) := extrasFrom input extras limit stop
      (leafPieces input terminal true place stop ++ pieces, behind)

def lexemeAt (input : Input) (terminal : Terminal) (extras : List Piece) (isExtra : Bool)
    (place : Nat) : Derived :=
  (terminal.scan input.characters place).map fun stop =>
    (extras ++ leafPieces input terminal isExtra place stop, stop)

/-- Makes a node of pieces. Extras in front of it stay outside. -/
def enclose (input : Input) (kind : String) (place behind : Nat) (pieces : List Piece) :
    List Piece :=
  let outside := pieces.takeWhile Piece.isExtra
  let inside := pieces.dropWhile Piece.isExtra
  let position := input.position place
  let children := inside.map fun piece => (piece.field, piece.tree)
  let label : Label := match inside.head? with
    | none => ⟨kind, true, position.offset, position.offset, position.row, position.column,
        false, false⟩
    | some first => { first.tree.label with
        kind, named := true, stop := (input.position behind).offset }
  outside ++ [⟨none, false, .node label children⟩]

/-- Puts the pieces that are no extras under a field. -/
def underField (name : String) (pieces : List Piece) : List Piece :=
  pieces.map fun piece => if piece.isExtra then piece else { piece with field := some name }

variable {Notion : Type} [BEq Notion] [Hashable Notion]

/-- Applies a rule at a place. Calls nest at most `depth` deep; `grown` is the node
that a tail may enclose. -/
def derive (rules : Rules Notion) (input : Input) :
    Nat → Rule Notion → Option ParseTree → Nat → StateM (Memory Notion) Derived
  | 0, _, _, _ => return none
  | depth + 1, rule, grown, place =>
    match rule with
    | .nothing => return some ([], place)
    | .lexeme terminal =>
      let (extras, start) := extrasFrom input rules.extras (input.characters.size + 1) place
      return lexemeAt input terminal extras false start
    | .adjacent terminal => return lexemeAt input terminal [] false place
    | .extra terminal =>
      let (extras, start) := extrasFrom input (rules.extras.filter (!·.visible))
        (input.characters.size + 1) place
      return lexemeAt input terminal extras true start
    | .notion name => do
      match (← get)[(name, place)]? with
      | some derived => return derived
      | none =>
        let derived ← derive rules input depth (rules.rule name) none place
        modify (·.insert (name, place) derived)
        return derived
    | .called choose =>
      match choose input.characters place with
      | none => return none
      | some name => derive rules input depth (.notion name) none place
    | .both first second => do
      match ← derive rules input depth first grown place with
      | none => return none
      | some (pieces, middle) =>
        match ← derive rules input depth second grown middle with
        | none => return none
        | some (more, behind) => return some (pieces ++ more, behind)
    | .either first second => do
      match ← derive rules input depth first grown place with
      | some derived => return some derived
      | none => derive rules input depth second grown place
    | .many repeated => do
      match ← derive rules input depth repeated none place with
      | none => return some ([], place)
      | some (pieces, middle) =>
        if middle ≤ place then return some (pieces, middle)
        else
          match ← derive rules input depth (.many repeated) none middle with
          | none => return none
          | some (more, behind) => return some (pieces ++ more, behind)
    | .node kind inner => do
      match ← derive rules input depth inner none place with
      | none => return none
      | some (pieces, behind) => return some (enclose input kind place behind pieces, behind)
    | .field name inner => do
      match ← derive rules input depth inner none place with
      | none => return none
      | some (pieces, behind) => return some (underField name pieces, behind)
    | .ahead expected inner => do
      let derived ← derive rules input depth inner grown place
      return if derived.isSome = expected then some ([], place) else none
    | .requires condition =>
      return if condition input.characters place then some ([], place) else none
    | .ofKind allows inner => do
      match ← derive rules input depth inner none place with
      | none => return none
      | some (pieces, behind) =>
        return if pieces.getLast?.any fun piece => allows piece.tree.label.kind then
          some (pieces, behind) else none
    | .grown base tail => do
      match ← derive rules input depth base none place with
      | none => return none
      | some (pieces, behind) => grow depth tail pieces behind
    | .around kind field allows rest => do
      match grown with
      | none => return none
      | some tree =>
        if allows tree.label.kind then
          match ← derive rules input depth rest none place with
          | none => return none
          | some (pieces, behind) =>
            let pieces := ⟨field, false, tree⟩ :: pieces
            return some (enclose input kind place behind pieces, behind)
        else return none
where
  /-- Encloses the last piece as often as the tail fits. -/
  grow (depth : Nat) (tail : Rule Notion) (pieces : List Piece) (place : Nat) :
      StateM (Memory Notion) Derived := do
    match depth, pieces.getLast? with
    | depth + 1, some last =>
      match ← derive rules input depth tail (some last.tree) place with
      | none => return some (pieces, place)
      | some (enclosed, behind) =>
        if behind ≤ place then return some (pieces, place)
        else grow depth tail (pieces.dropLast ++ enclosed) behind
    | _, _ => return none

/-- The tree that a notion gives a whole text, or the tree of failure. What a rule
passes over bounds how deep it can nest. -/
def Rules.tree (rules : Rules Notion) (start : Notion) : Grammar := fun text =>
  let input := Input.ofString text
  let depth := 64 * (input.characters.size + 64)
  match ((derive rules input depth (.notion start) none 0).run ∅).1 with
  | some (pieces, behind) =>
    if input.characters.size ≤ behind then
      match pieces.getLast? with
      | some piece => piece.tree
      | none => ParseTree.failure text
    else ParseTree.failure text
  | none => ParseTree.failure text

end ExportIndex.Grammar
