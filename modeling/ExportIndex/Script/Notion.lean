import ExportIndex.Script.Semicolon

/-
This file names the notions of the script languages and the shapes of rules that
recur in their grammar.
-/

namespace ExportIndex.Script

open Grammar

/-- What rules of the script languages derive. Expressions and types have a least
binding strength; `ends` says that a statement may end behind them without a
semicolon. -/
inductive Notion where
  | program
  | statement
  | block
  | declaration
  | lexical
  | exportStatement
  | importStatement
  | exportClause
  | importAlias
  | semicolon (afterExpression : Bool)
  | impliedEnd (afterExpression beforeBody : Bool)
  | forHeader
  | switchBody
  | expressions (ends : Bool)
  | expression (least : Nat) (ends : Bool)
  | operand (ends : Bool)
  | primary
  | access
  | leftHand
  | arrowFunction (ends : Bool)
  | parenthesized
  | object
  | array
  | objectPattern
  | arrayPattern
  | pattern
  | patternOrDefault
  | propertyName
  | parameters
  | signature
  | parameter
  | arguments
  | string
  | template
  | regex
  | functionExpression
  | classExpression
  | classBody
  | classMember
  | decorator
  | methodDefinition
  | element
  | elementChild
  | elementName
  | attribute
  | embedded
  | type (least : Nat) (ends : Bool)
  | primaryType (ends : Bool)
  | typeName
  | typeArguments
  | typeParameters
  | typeClause (ends : Bool)
  | returnClause (ends : Bool)
  | objectType (kind : String)
  | typeMember
  | methodSignature
  | indexSignature
  | propertySignature
  | tupleMember
  | functionType (ends : Bool)
  | importedType
  | nestedName
deriving BEq, Hashable

abbrev Form := Rule Notion

def the (notion : Notion) : Form := .notion notion

def kw (word : String) : Form := .lexeme (keyword word)

/-- A fixed text, whatever follows it. -/
def mark (text : String) : Form := .lexeme (token text)

/-- The longest operator here. -/
def op (text : String) : Form := .lexeme (operator text)

def word (kind : String) : Form := .lexeme (wordExcept [] kind)

def wordBut (excluded : List String) (kind : String) : Form :=
  .lexeme (wordExcept excluded kind)

def seq (rules : List Form) : Form := Rule.sequence rules

def alt (rules : List Form) : Form := Rule.choice rules

def opt (rule : Form) : Form := Rule.optional rule

def commaList (rule : Form) : Form := Rule.separated (mark ",") rule

/-- Items between commas, each of which may be missing. -/
def sparse (item : Form) : Form := both (opt item) (.many (both (mark ",") (opt item)))
where both := Rule.both

/-- A list with at least one item and perhaps a comma behind the last one. -/
def trailing (item : Form) : Form := seq [commaList item, opt (mark ",")]

def comesNext (rule : Form) : Form := .ahead true rule

def notNext (rule : Form) : Form := .ahead false rule

/-- No statement may end here. -/
def continues (afterExpression : Bool) : Form :=
  notNext (the (.impliedEnd afterExpression false))

/-- No statement ends here if one may end at all. -/
def continuesIf (ends afterExpression : Bool) : Form :=
  if ends then continues afterExpression else .nothing

/-- Words that always mean something else where an expression starts. -/
def expressionWords : List String :=
  ["this", "super", "null", "true", "false", "undefined", "function", "class", "new",
    "typeof", "void", "delete", "await", "yield", "import"]

/-- Words that always mean something else where a statement starts. -/
def statementWords (dialect : Dialect) : List String :=
  ["debugger", "var", "const", "if", "switch", "for", "while", "do", "try", "with",
    "break", "continue", "return", "throw"] ++
    if dialect.isTyped then ["interface", "enum", "abstract"] else []

/-- A word that stands for a variable where an expression may start. -/
def variableName : Form := wordBut expressionWords "identifier"

def privateProperty : Form := .lexeme privateName

end ExportIndex.Script
