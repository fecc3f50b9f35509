import ExportIndex.ParseTree

/-
This file defines arenas: nodes with numbers as names. A node knows its first
parent and has edges to other nodes, in order and some of them under a field.
Edges may share targets and may form cycles.
-/

namespace ExportIndex

structure Node extends Label where
  parent : Option Nat
  children : List Nat
  /-- The children that were attached under a field. -/
  fields : List (String × Nat)
deriving DecidableEq, Repr, Inhabited

namespace Node

def ofLabel (label : Label) : Node := { label with parent := none, children := [], fields := [] }

/-- The edges to children, the edges under fields, and the edge to the parent. -/
def edges (node : Node) : List (String × Nat) :=
  node.children.map (fun child => ("children", child)) ++ node.fields ++
    (node.parent.map fun parent => ("parent", parent)).toList

end Node

/-- A text and the nodes over it. -/
structure Arena where
  characters : List Char
  nodes : Array Node
deriving Inhabited

namespace Arena

def empty (source : String) : Arena := ⟨source.toList, #[]⟩

def source (arena : Arena) : String := String.ofList arena.characters

def size (arena : Arena) : Nat := arena.nodes.size

/-- Adds a node without edges. Its name is the size before. -/
def pushLabel (arena : Arena) (label : Label) : Arena :=
  { arena with nodes := arena.nodes.push (Node.ofLabel label) }

/-- Adds a named node over a range of bytes. -/
def push (arena : Arena) (kind : String) (start stop : Nat) : Arena :=
  arena.pushLabel ⟨kind, true, start, stop, 0, 0, false, false⟩

/-- The first node other than the child itself becomes its parent for good. -/
def adopt (node : Node) (child parent : Nat) : Node :=
  if node.parent.isNone && child != parent then { node with parent := some parent } else node

def addEdge (node : Node) (field : Option String) (child : Nat) : Node :=
  { node with
    children := node.children ++ [child]
    fields := node.fields ++ (field.map fun name => (name, child)).toList }

/-- Makes a node a child of another one. Both must exist. -/
def attach (arena : Arena) (parent : Nat) (field : Option String) (child : Nat) : Arena :=
  { arena with
    nodes := (arena.nodes.modify child (adopt · child parent)).modify parent
      (addEdge · field child) }

def attach? (arena : Arena) (parent : Nat) (field : Option String) (child : Nat) :
    Option Arena :=
  if parent < arena.size && child < arena.size then some (arena.attach parent field child)
  else none

def node? (arena : Arena) (id : Nat) : Option Node := arena.nodes[id]?

/-- The kind of a node, and the empty text for a name that is not taken. -/
def kind (arena : Arena) (id : Nat) : String := (arena.node? id).elim "" (·.kind)

def isNamed (arena : Arena) (id : Nat) : Bool := (arena.node? id).elim false (·.named)

def parent? (arena : Arena) (id : Nat) : Option Nat := (arena.node? id).bind (·.parent)

def children (arena : Arena) (id : Nat) : List Nat := (arena.node? id).elim [] (·.children)

def namedChildren (arena : Arena) (id : Nat) : List Nat :=
  (arena.children id).filter arena.isNamed

/-- The children under a field, in order. -/
def fieldAll (arena : Arena) (id : Nat) (field : String) : List Nat :=
  ((arena.node? id).elim [] (·.fields)).filterMap fun (name, child) =>
    if name = field then some child else none

def field? (arena : Arena) (id : Nat) (field : String) : Option Nat :=
  (arena.fieldAll id field).head?

/-- The first child of a kind, named or not. -/
def childOfKind? (arena : Arena) (id : Nat) (kind : String) : Option Nat :=
  (arena.children id).find? fun child => arena.kind child == kind

/-- The text behind so many bytes, if a character starts there. -/
def dropBytes : Nat → List Char → Option (List Char)
  | 0, characters => some characters
  | _ + 1, [] => none
  | count + 1, character :: rest =>
    if character.utf8Size ≤ count + 1 then dropBytes (count + 1 - character.utf8Size) rest
    else none

/-- The characters that make so many bytes. -/
def takeBytes : Nat → List Char → Option (List Char)
  | 0, _ => some []
  | _ + 1, [] => none
  | count + 1, character :: rest =>
    if character.utf8Size ≤ count + 1 then
      (takeBytes (count + 1 - character.utf8Size) rest).map (character :: ·)
    else none

/-- The text between two offsets, if it lies in the text and cuts no character. -/
def slice? (characters : List Char) (start stop : Nat) : Option (List Char) :=
  if start ≤ stop then (dropBytes start characters).bind (takeBytes (stop - start)) else none

/-- The text that a node covers; a range that is none covers nothing. -/
def text (arena : Arena) (id : Nat) : String :=
  match arena.node? id with
  | none => ""
  | some node => String.ofList ((slice? arena.characters node.start node.stop).getD [])

/-- The nearest ancestors, at most `limit` of them. -/
def ancestors (arena : Arena) : Nat → Nat → List Nat
  | 0, _ => []
  | limit + 1, id =>
    match arena.parent? id with
    | none => []
    | some parent => parent :: arena.ancestors limit parent

@[simp] theorem sizeEmpty (source : String) : (empty source).size = 0 := rfl

@[simp] theorem sizePushLabel (arena : Arena) (label : Label) :
    (arena.pushLabel label).size = arena.size + 1 := by
  simp [pushLabel, size]

@[simp] theorem sizeAttach (arena : Arena) (parent : Nat) (field : Option String) (child : Nat) :
    (arena.attach parent field child).size = arena.size := by
  simp [attach, size]

end Arena

end ExportIndex
