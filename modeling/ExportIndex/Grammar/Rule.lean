import ExportIndex.ParseTree

/-
This file defines rules of grammars. A rule says which texts a notion derives and
which tree it gives them; choices are ordered and take the first alternative that
fits.
-/

namespace ExportIndex.Grammar

/-- Finds the end of a lexeme that starts at a place, if there is one. -/
abbrev Scan := Array Char → Nat → Option Nat

/-- A lexeme and the leaf that it gives. -/
structure Terminal where
  kind : String
  named : Bool
  /-- Lexemes that are not visible give no leaf. -/
  visible : Bool
  scan : Scan

inductive Rule (Notion : Type) where
  | nothing
  /-- A lexeme behind any number of extras. -/
  | lexeme (terminal : Terminal)
  /-- A lexeme that starts right here. -/
  | adjacent (terminal : Terminal)
  /-- A lexeme that may stand anywhere, as a comment does. -/
  | extra (terminal : Terminal)
  | notion (name : Notion)
  /-- The notion that the text from here calls for, if it calls for one. -/
  | called (choose : Array Char → Nat → Option Notion)
  | both (first second : Rule Notion)
  | either (first second : Rule Notion)
  | many (rule : Rule Notion)
  | node (kind : String) (rule : Rule Notion)
  | field (name : String) (rule : Rule Notion)
  /-- Succeeds without going on if the rule fits here, or if it does not. -/
  | ahead (expected : Bool) (rule : Rule Notion)
  /-- Succeeds without going on if the text from here is as required. -/
  | requires (condition : Array Char → Nat → Bool)
  /-- A rule whose last node must be of an allowed kind. -/
  | ofKind (allows : String → Bool) (rule : Rule Notion)
  /-- A node of `base`, then as many times as possible the node of `tail` around
  what there is so far. -/
  | grown (base tail : Rule Notion)
  /-- The node around what has grown so far, if its kind allows that. -/
  | around (kind : String) (field : Option String) (allows : String → Bool)
      (rest : Rule Notion)
deriving Inhabited

namespace Rule

variable {Notion : Type}

def sequence : List (Rule Notion) → Rule Notion
  | [] => nothing
  | [rule] => rule
  | rule :: rest => both rule (sequence rest)

/-- The first of the alternatives that fits. -/
def choice : List (Rule Notion) → Rule Notion
  | [] => ahead false nothing
  | [rule] => rule
  | rule :: rest => either rule (choice rest)

def optional (rule : Rule Notion) : Rule Notion := either rule nothing

def many1 (rule : Rule Notion) : Rule Notion := both rule (many rule)

def separated (separator rule : Rule Notion) : Rule Notion :=
  both rule (many (both separator rule))

end Rule

/-- The rules of all notions and what they leave unsaid. -/
structure Rules (Notion : Type) where
  rule : Notion → Rule Notion
  /-- What may stand between lexemes. -/
  extras : List Terminal

end ExportIndex.Grammar
