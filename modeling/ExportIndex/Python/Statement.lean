import ExportIndex.Python.Expression

/-
This file gives the rules of statements and blocks.
-/

namespace ExportIndex.Python

open Grammar

/-- Words that always mean something else where a statement starts. -/
def statementWords : List String :=
  ["import", "from", "assert", "return", "del", "raise", "pass", "break", "continue", "global",
    "nonlocal", "if", "for", "while", "try", "with", "def", "class", "yield"]

/-- The comments on lines of their own before the next part of a block. -/
def commentsRule (indent : Nat) : Form :=
  .many (seq [.requires (fun characters place => !blockEnds indent characters place),
    .extra comment])

/-- The next part of a block or of a statement in it. -/
def inBlock (indent : Nat) (rule : Form) : Form :=
  seq [the (.comments indent),
    .requires (fun characters place => !blockEnds indent characters place), rule]

def moduleRule : Form :=
  .node "module" (seq [.many (the (.statement 0)), .lexeme endOfText])

/-- Parts of a block and its end. -/
def blockOf (kind : String) (indent : Nat) (part : Form) : Form :=
  .node kind
    (seq [.many part, the (.comments indent), .requires (blockEnds indent)])

def emptyBlock : Form := .node "block" (.requires lineEnds)

/-- A deeper block, no block at all, or the rest of the line. -/
def suiteRule (indent : Nat) (block : Nat → Notion) (inline : List Form) : Form :=
  seq [opt (seq [.requires commentFollows, .extra comment]),
    alt <|
      [ .called fun characters place => (deeperIndent? indent characters place).map block,
        emptyBlock ] ++ inline]

/-- The colon in front of a block, and the block. -/
def body (indent : Nat) (fieldName : Option String) : Form :=
  let suite := the (.suite indent)
  seq [still indent (mark ":"), match fieldName with
    | some fieldName => .field fieldName suite
    | none => suite]

def statementLineRule (indent : Nat) : Form :=
  let context := Context.line indent
  let statement := the (.simpleStatement indent)
  seq [statement, .many (seq [onward context (mark ";"), onward context statement]),
    opt (onward context (mark ";")), lineEnd]

/-! Statements on a line. -/

def dottedNameRule (indent : Nat) : Form :=
  .node "dotted_name"
    (seq [name, .many (seq [onward (.line indent) (op "."), still indent name])])

def importedNames (context : Context) : Form :=
  let dotted := the (.dottedName context.indent)
  .field "name"
    (alt
      [ .node "aliased_import"
          (seq [.field "name" dotted, onward context (kw "as"),
            still context.indent (.field "alias" name)]),
        dotted ])

def importStatement (indent : Nat) : Form :=
  let context := Context.line indent
  .node "import_statement"
    (seq [kw "import", still indent (trailing context (importedNames context))])

/-- The names behind the second keyword, perhaps within parentheses. -/
def importedList (indent : Nat) : List Form :=
  let context := Context.line indent
  let inner := context.inBrackets
  [ trailing context (importedNames context),
    seq [mark "(", trailing inner (importedNames inner), mark ")"] ]

def fromStatement (indent : Nat) : Form :=
  let relative := .node "relative_import"
    (seq [.node "import_prefix" (Rule.many1 (mark ".")),
      opt (still indent (seq [notNext (kw "import"), the (.dottedName indent)]))])
  alt
    [ .node "future_import_statement"
        (seq [kw "from", still indent (kw "__future__"), still indent (kw "import"),
          still indent (alt (importedList indent))]),
      .node "import_from_statement"
        (seq [kw "from",
          still indent (.field "module_name" (alt [relative, the (.dottedName indent)])),
          still indent (kw "import"),
          still indent (alt (.node "wildcard_import" (op "*") :: importedList indent))]) ]

/-- A keyword and expressions that may be missing. -/
def jump (indent : Nat) (kind word : String) : Form :=
  let context := Context.line indent
  .node kind (seq [kw word, opt (onward context (the (.expressions context)))])

def raiseStatement (indent : Nat) : Form :=
  let context := Context.line indent
  .node "raise_statement"
    (seq [kw "raise",
      opt (onward context (seq [notNext (kw "from"), the (.expressions context)])),
      opt (seq [onward context (kw "from"), .field "cause" (value anyStrength context)])])

def namesStatement (indent : Nat) (kind word : String) : Form :=
  .node kind
    (seq [kw word, still indent (commaList (.line indent) name)])

/-- The end of a statement on a line. -/
def statementEnds : Form := comesNext (alt [lineEnd, mark ";"])

/-- An expression or an assignment. -/
def expressionStatement (indent : Nat) : Form :=
  let context := Context.line indent
  let comma := onward context (mark ",")
  let expression := the (.expression anyStrength context)
  .node "expression_statement"
    (seq [notNext (wordOf statementWords),
      alt
        [ the (.assignment context),
          seq [expression, .many (seq [comma, onward context expression]), opt comma] ]])
where
  wordOf (words : List String) : Form :=
    .lexeme ⟨"", false, false, fun characters place =>
      if words.any fun word => nameIs word characters place then nameEnd? characters place
      else none⟩

/-- Statements of the earlier version of the language, whose words are names now. -/
def printStatement (indent : Nat) : Form :=
  let context := Context.line indent
  let argument := .field "argument" (the (.expression anyStrength context))
  .node "print_statement" (seq [kw "print", onward context (trailing context argument)])

def redirectedPrint (indent : Nat) : Form :=
  let context := Context.line indent
  .node "print_statement"
    (seq [kw "print",
      .node "chevron" (seq [onward context (op ">>"), value anyStrength context]),
      .many (seq [onward context (mark ","),
        onward context (.field "argument" (the (.expression anyStrength context)))]),
      opt (onward context (mark ","))])

def execStatement (indent : Nat) : Form :=
  let context := Context.line indent
  .node "exec_statement"
    (seq [kw "exec", onward context (.field "code" (alt [the (.string context), name])),
      opt (seq [onward context (kw "in"), steadily indent true,
        commaList context (the (.expression anyStrength context))])])

def typeStatement (indent : Nat) : Form :=
  let context := Context.line indent
  .node "type_alias_statement"
    (seq [kw "type", onward context (the (.type true context)), still indent (op "="),
      steadily indent true, the (.type true context)])

def simpleStatementRule (indent : Nat) : Form :=
  let context := Context.line indent
  alt
    [ fromStatement indent,
      importStatement indent,
      redirectedPrint indent,
      .node "assert_statement" (seq [kw "assert", steadily indent true,
        commaList context (the (.expression anyStrength context))]),
      jump indent "return_statement" "return",
      .node "delete_statement"
        (seq [kw "del", steadily indent true, the (.expressions context)]),
      raiseStatement indent,
      .node "pass_statement" (kw "pass"),
      .node "break_statement" (kw "break"),
      .node "continue_statement" (kw "continue"),
      namesStatement indent "global_statement" "global",
      namesStatement indent "nonlocal_statement" "nonlocal",
      .node "expression_statement" (seq [the (.yield context), statementEnds]),
      seq [expressionStatement indent, statementEnds],
      typeStatement indent,
      execStatement indent,
      printStatement indent ]

/-! Statements with blocks. -/

def elseClause (indent : Nat) : Form :=
  inBlock indent (.node "else_clause" (seq [kw "else", body indent (some "body")]))

def ifStatement (indent : Nat) : Form :=
  let condition := .field "condition" (value anyStrength (.header indent))
  .node "if_statement"
    (seq [kw "if", condition, body indent (some "consequence"),
      .many (inBlock indent (.field "alternative" (.node "elif_clause"
        (seq [kw "elif", condition, body indent (some "consequence")])))),
      opt (.field "alternative" (elseClause indent))])

def forStatement (indent : Nat) : Form :=
  let context := Context.header indent
  .node "for_statement"
    (seq [opt (kw "async"), still indent (kw "for"),
      still indent (.field "left" (the (.targets context))), still indent (kw "in"),
      steadily indent true, .field "right" (the (.expressions context)),
      body indent (some "body"), opt (.field "alternative" (elseClause indent))])

def whileStatement (indent : Nat) : Form :=
  .node "while_statement"
    (seq [kw "while", .field "condition" (value anyStrength (.header indent)),
      body indent (some "body"), opt (.field "alternative" (elseClause indent))])

def exceptClause (indent : Nat) : Form :=
  let expression := value anyStrength (.header indent)
  inBlock indent (.node "except_clause"
    (seq [notNext (mark "except*"), kw "except",
      opt (seq [expression,
        opt (seq [still indent (alt [kw "as", mark ","]), expression])]),
      body indent none]))

def exceptGroupClause (indent : Nat) : Form :=
  let expression := value anyStrength (.header indent)
  inBlock indent (.node "except_group_clause"
    (seq [mark "except*", expression, opt (seq [still indent (kw "as"), expression]),
      body indent none]))

def tryStatement (indent : Nat) : Form :=
  let finallyClause :=
    inBlock indent (.node "finally_clause" (seq [kw "finally", body indent none]))
  let rest := [opt (elseClause indent), opt finallyClause]
  .node "try_statement"
    (seq [kw "try", body indent (some "body"),
      alt
        [ seq (Rule.many1 (exceptGroupClause indent) :: rest),
          seq (Rule.many1 (exceptClause indent) :: rest),
          finallyClause ]])

def withStatement (indent : Nat) : Form :=
  let item := fun context =>
    Rule.node "with_item" (.field "value" (the (.expression anyStrength context)))
  let inner := (Context.header indent).inBrackets
  .node "with_statement"
    (seq [opt (kw "async"), still indent (kw "with"),
      alt
        [ seq [.node "with_clause"
              (seq [still indent (mark "("), trailing inner (item inner), mark ")"]),
            body indent (some "body")],
          seq [.node "with_clause"
              (seq [steadily indent true, trailing (.header indent) (item (.header indent))]),
            body indent (some "body")] ]])

def parameters (indent : Nat) : Form :=
  let inner := (Context.header indent).inBrackets
  .node "parameters"
    (seq [mark "(", opt (trailing inner (the (.parameter true inner))), mark ")"])

def functionDefinition (indent : Nat) : Form :=
  .node "function_definition"
    (seq [opt (kw "async"), still indent (kw "def"), still indent (.field "name" name),
      opt (still indent (.field "type_parameters" (the (.typeParameters indent)))),
      still indent (.field "parameters" (parameters indent)),
      opt (seq [still indent (op "->"), steadily indent true,
        .field "return_type" (the (.type false (.header indent)))]),
      body indent (some "body")])

def classDefinition (indent : Nat) : Form :=
  .node "class_definition"
    (seq [kw "class", still indent (.field "name" name),
      opt (still indent (.field "type_parameters" (the (.typeParameters indent)))),
      opt (still indent (.field "superclasses" (the (.arguments (.header indent))))),
      body indent (some "body")])

def decoratedDefinition (indent : Nat) : Form :=
  .node "decorated_definition"
    (seq [Rule.many1 (still indent (.node "decorator"
        (seq [mark "@", value anyStrength (.line indent), lineEnd]))),
      still indent (.field "definition"
        (alt [classDefinition indent, functionDefinition indent]))])

/-! Matching. -/

def patternList (opening closing : String) (item : Form) : Form :=
  seq [mark opening, opt (seq [item, .many (seq [mark ",", item]), opt (mark ",")]),
    mark closing]

def casePatternRule : Form :=
  .grown
    (.node "case_pattern"
      (alt
        [ .node "keyword_pattern" (seq [name, op "=", the .simplePattern]),
          the .simplePattern ]))
    (.around "as_pattern" none anyKind (seq [kw "as", name]))

def simplePatternRule : Form :=
  let number := alt [.lexeme float, .lexeme integer]
  let dotted := the (.dottedName 0)
  let starred := .node "splat_pattern" (seq [alt [op "**", op "*"], name])
  let plain := alt
    [ .node "class_pattern" (seq [dotted, patternList "(" ")" (the .casePattern)]),
      starred,
      .node "list_pattern" (patternList "[" "]" (the .casePattern)),
      .node "tuple_pattern" (patternList "(" ")" (the .casePattern)),
      .node "dict_pattern"
        (patternList "\x7b" "\x7d"
          (alt [seq [.field "key" (the .simplePattern), op ":",
            .field "value" (the .casePattern)], starred])),
      strings (.header 0),
      .lexeme (wordOfKind "True" "true"), .lexeme (wordOfKind "False" "false"),
      .lexeme (wordOfKind "None" "none"),
      .node "complex_pattern"
        (seq [opt (op "-"), number, alt [op "+", op "-"], number]),
      seq [opt (op "-"), number],
      dotted ]
  .grown plain
    (.around "union_pattern" none anyKind (Rule.many1 (seq [op "|", plain])))

def caseClause (indent : Nat) : Form :=
  inBlock indent (.field "alternative" (.node "case_clause"
    (seq [kw "case", the .casePattern,
      .many (seq [mark ",", notNext (kw "if"), the .casePattern]), opt (mark ","),
      opt (still indent (.field "guard"
        (.node "if_clause" (seq [kw "if", value anyStrength (.header indent)])))),
      body indent (some "consequence")])))

def matchStatement (indent : Nat) : Form :=
  let context := Context.header indent
  .node "match_statement"
    (seq [kw "match", steadily indent true,
      trailing context (.field "subject" (the (.expression anyStrength context))),
      still indent (mark ":"), .field "body" (the (.caseSuite indent))])

def statementRule (indent : Nat) : Form :=
  inBlock indent (alt
    [ ifStatement indent, forStatement indent, whileStatement indent, tryStatement indent,
      withStatement indent, functionDefinition indent, classDefinition indent,
      decoratedDefinition indent, matchStatement indent, the (.statementLine indent) ])

end ExportIndex.Python
