import ExportIndex.Grammar.Rule
import ExportIndex.Python.StringLexeme

/-
This file names the notions of Python and the shapes of rules that recur in its
grammar. Lines end where the rules let a statement end; elsewhere the end of a line is
a blank, unless the next line leaves the block.
-/

namespace ExportIndex.Python

open Grammar

/-- What may come behind an expression. -/
inductive Behind where
  /-- The end of the line. -/
  | lineEnd
  /-- A closing bracket. -/
  | bracket
  /-- Neither of them. -/
  | more
deriving BEq, Hashable, DecidableEq

/-- Where an expression stands. -/
structure Context where
  /-- The indentation of the block. -/
  indent : Nat
  behind : Behind
  /-- Whether `if` goes on with the expression. -/
  conditional : Bool
deriving BEq, Hashable

namespace Context

/-- An expression at the end of a line. -/
def line (indent : Nat) : Context := ⟨indent, .lineEnd, true⟩

/-- An expression that more of the same statement follows. -/
def header (indent : Nat) : Context := ⟨indent, .more, true⟩

def inBrackets (context : Context) : Context := ⟨context.indent, .bracket, true⟩

def followed (context : Context) : Context := ⟨context.indent, .more, true⟩

/-- An expression in a clause that another clause with `if` may follow. -/
def inClause (context : Context) : Context := ⟨context.indent, .bracket, false⟩

end Context

inductive Notion where
  | module
  | statement (indent : Nat)
  | statementLine (indent : Nat)
  | simpleStatement (indent : Nat)
  | suite (indent : Nat)
  | block (indent : Nat)
  | caseBlock (indent : Nat)
  | caseSuite (indent : Nat)
  | comments (indent : Nat)
  | expression (least : Nat) (context : Context)
  | expressions (context : Context)
  | operand (context : Context)
  | primary (context : Context)
  | atom (context : Context)
  | yield (context : Context)
  | target (context : Context)
  | targets (context : Context)
  | assignment (context : Context)
  | assigned (context : Context)
  | type (colon : Bool) (context : Context)
  | typeParameters (indent : Nat)
  | parameter (typed : Bool) (context : Context)
  | clauses (context : Context)
  | arguments (context : Context)
  | looseSplat (context : Context)
  | string (context : Context)
  | interpolation (context : Context)
  | casePattern
  | simplePattern
  | dottedName (indent : Nat)
deriving BEq, Hashable

abbrev Form := Rule Notion

def the (notion : Notion) : Form := .notion notion

def kw (word : String) : Form := .lexeme (keyword word)

/-- A fixed text, whatever follows it. -/
def mark (text : String) : Form := .lexeme (token text)

/-- The longest operator here. -/
def op (text : String) : Form := .lexeme (operator text)

/-- Any name, keywords included. -/
def name : Form := .lexeme (nameExcept [])

/-- Words that always mean something else where an expression starts. -/
def expressionWords : List String := ["not", "lambda", "True", "False", "None"]

/-- A name that stands for a variable where an expression may start. -/
def variableName : Form := .lexeme (nameExcept expressionWords)

def seq (rules : List Form) : Form := Rule.sequence rules

def alt (rules : List Form) : Form := Rule.choice rules

def opt (rule : Form) : Form := Rule.optional rule

def comesNext (rule : Form) : Form := .ahead true rule

def notNext (rule : Form) : Form := .ahead false rule

/-- The block is not left before the next lexeme. -/
def steadily (indent : Nat) (mayQuote : Bool) : Form :=
  if indent = 0 then .nothing
  else .requires fun characters place => !breaksOff indent mayQuote characters place

/-- What has begun goes on. -/
def still (indent : Nat) (rule : Form) : Form := seq [steadily indent false, rule]

/-- An expression that has to come. -/
def value (least : Nat) (context : Context) : Form :=
  seq [steadily context.indent true, the (.expression least context)]

/-- What may but need not go on with an expression. -/
def onward (context : Context) (rule : Form) : Form :=
  match context.behind with
  | .lineEnd => seq [.requires fun characters place =>
      !lineEnds characters place && !commentFollows characters place, rule]
  | .bracket => rule
  | .more => still context.indent rule

/-- Items with commas between them and perhaps one behind the last item. -/
def trailing (context : Context) (item : Form) : Form :=
  seq [item, .many (seq [onward context (mark ","), onward context item]),
    opt (onward context (mark ","))]

/-- Items with commas between them. -/
def commaList (context : Context) (item : Form) : Form :=
  seq [item, .many (seq [onward context (mark ","), steadily context.indent true, item])]

/-- The end of a line, with a comment perhaps. -/
def lineEnd : Form :=
  seq [opt (seq [.requires commentFollows, .extra comment]), .requires lineEnds]

end ExportIndex.Python
