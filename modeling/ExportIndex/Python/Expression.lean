import ExportIndex.Python.Notion

/-
This file gives the rules of expressions, targets and types.
-/

namespace ExportIndex.Python

open Grammar

/-! Binding strengths, from the weakest to the strongest. -/

def anyStrength : Nat := 1
def aliasStrength : Nat := 2
def notStrength : Nat := 12
def compareStrength : Nat := 13
def operandStrength : Nat := 14
def unaryStrength : Nat := 20
def powerStrength : Nat := 21

/-- The binary operators that group to the left, with their strengths. -/
def leftOperators : List (Nat × List String) :=
  [(14, ["|"]), (15, ["&"]), (16, ["^"]), (17, ["<<", ">>"]), (18, ["+", "-"]),
    (19, ["*", "@", "/", "%", "//"])]

def anyKind (_ : String) : Bool := true

/-- The kinds of what a name, a part or an item of a value has. -/
def isPlace (kind : String) : Bool := ["identifier", "attribute", "subscript"].contains kind

def comparisons : List Form :=
  ["<=", "==", "!=", ">=", "<>", "<", ">"].map op ++
    [kw "in", seq [kw "not", kw "in"], seq [kw "is", kw "not"], kw "is"]

def binaryTail (name : String) (least : Nat) (context : Context) : Form :=
  .around "binary_operator" (some "left") anyKind
    (seq [onward context (.field "operator" (op name)), .field "right" (value least context)])

def logicalTail (word : String) (least : Nat) (context : Context) : Form :=
  .around "boolean_operator" (some "left") anyKind
    (seq [onward context (.field "operator" (kw word)), .field "right" (value least context)])

def comparisonTail (context : Context) : Form :=
  .around "comparison_operator" none anyKind
    (Rule.many1 (seq [onward context (.field "operators" (alt comparisons)),
      value operandStrength context]))

def aliasTail (context : Context) : Form :=
  .around "as_pattern" none anyKind
    (seq [onward context (kw "as"),
      .field "alias" (.node "as_pattern_target" (value (aliasStrength + 1) context))])

def conditionalTail (context : Context) : Form :=
  .around "conditional_expression" none anyKind
    (seq [onward context (kw "if"), value anyStrength context.followed,
      still context.indent (kw "else"), value anyStrength context])

/-- The tails that bind at least as strongly as asked for. -/
def tails (least : Nat) (context : Context) : List Form :=
  (if least ≤ anyStrength && context.conditional then [conditionalTail context] else []) ++
  (if least ≤ aliasStrength then [aliasTail context] else []) ++
  (if least ≤ 10 then [logicalTail "or" 11 context] else []) ++
  (if least ≤ 11 then [logicalTail "and" notStrength context] else []) ++
  (if least ≤ compareStrength then [comparisonTail context] else []) ++
  ((leftOperators.filter fun (strength, _) => least ≤ strength).flatMap
    fun (strength, names) => names.map fun name => binaryTail name (strength + 1) context) ++
  (if least ≤ powerStrength then [binaryTail "**" unaryStrength context] else [])

/-- The words that start an expression of their own. -/
def leadingWords (least : Nat) (context : Context) : List Form :=
  if least ≤ notStrength then
    [ .node "not_operator"
        (seq [kw "not", .field "argument" (value notStrength context)]),
      .node "lambda"
        (seq [kw "lambda",
          opt (.field "parameters" (.node "lambda_parameters"
            (trailing context.followed (the (.parameter false context.followed))))),
          still context.indent (mark ":"), .field "body" (value anyStrength context)]),
      .node "named_expression"
        (seq [.field "name" variableName, onward context (op ":="),
          .field "value" (value anyStrength context)]) ]
  else []

def expressionRule (least : Nat) (context : Context) : Form :=
  let bare := if least ≤ notStrength then
      seq [notNext (seq [variableName, onward context (op ":=")]), the (.operand context)]
    else the (.operand context)
  .grown (alt (leadingWords least context ++ [bare])) (alt (tails least context))

/-- A value with the operators in front of it. -/
def operandRule (context : Context) : Form :=
  alt <|
    ["+", "-", "~"].map (fun name => .node "unary_operator"
      (seq [.field "operator" (op name),
        .field "argument" (value unaryStrength context)])) ++
    [ .node "await"
        (seq [kw "await", onward context (the (.expression unaryStrength context))]),
      .node "list_splat"
        (seq [op "*", steadily context.indent true,
          alt [seq [comesNext (seq [notNext (.lexeme anyStringStart), variableName]),
              the (.primary context)],
            .ofKind isPlace (the (.primary context))]]),
      the (.primary context) ]

def callArguments (context : Context) : Form :=
  alt
    [ .node "generator_expression"
        (seq [mark "(", .field "body" (the (.expression anyStrength context.inBrackets)),
          the (.clauses context.inBrackets), mark ")"]),
      the (.arguments context) ]

def slice (context : Context) : Form :=
  let bound := opt (the (.expression anyStrength context.inBrackets))
  .node "slice" (seq [bound, op ":", bound, opt (seq [op ":", bound])])

def primaryRule (context : Context) : Form :=
  .grown (the (.atom context))
    (alt
      [ .around "attribute" (some "object") anyKind
          (seq [onward context (op "."),
            still context.indent (.field "attribute" name)]),
        .around "subscript" (some "value") anyKind
          (seq [onward context (mark "["), steadily context.indent true,
            trailing context.inBrackets
              (.field "subscript" (alt [slice context,
                the (.expression anyStrength context.inBrackets)])),
            mark "]"]),
        .around "call" (some "function") anyKind
          (onward context (.field "arguments" (callArguments context))) ])

def splat (kind sign : String) (context : Context) : Form :=
  .node kind (seq [op sign, value anyStrength context])

/-- A splat inside of parentheses. -/
def looseSplatRule (context : Context) : Form :=
  let inner := context.inBrackets
  .node "parenthesized_expression"
    (seq [mark "(", alt [the (.looseSplat inner), splat "list_splat" "*" inner], mark ")"])

/-- An item of a list, tuple or set. -/
def element (context : Context) : Form :=
  alt
    [ the (.yield context),
      seq [notNext (kw "yield"), the (.expression anyStrength context)],
      splat "list_splat" "*" context,
      the (.looseSplat context) ]

def elements (context : Context) : Form := trailing context (element context)

def argument (context : Context) : Form :=
  alt
    [ .node "keyword_argument"
        (seq [.field "name" variableName, op "=", .field "value" (value anyStrength context)]),
      the (.expression anyStrength context),
      splat "list_splat" "*" context,
      splat "dictionary_splat" "**" context,
      the (.looseSplat context) ]

def argumentsRule (context : Context) : Form :=
  let inner := context.inBrackets
  .node "argument_list"
    (seq [mark "(",
      opt (seq [argument inner, .many (seq [mark ",", argument inner])]), opt (mark ","),
      mark ")"])

/-- Brackets around a body with clauses. -/
def comprehension (kind opening closing : String) (body : Form) (context : Context) : Form :=
  .node kind (seq [mark opening, .field "body" body, the (.clauses context), mark closing])

def clausesRule (context : Context) : Form :=
  let inner := context.inClause
  let source := .field "right" (value anyStrength inner)
  let forClause := .node "for_in_clause"
    (seq [opt (kw "async"), kw "for", .field "left" (the (.targets context.followed)),
      still context.indent (kw "in"), source,
      .many (seq [mark ",", notNext (alt (["for", "async", "if"].map kw)), source]),
      opt (mark ",")])
  let ifClause := .node "if_clause" (seq [kw "if", value anyStrength inner])
  seq [forClause, .many (alt [forClause, ifClause])]

def pair (context : Context) : Form :=
  .node "pair"
    (seq [.field "key" (the (.expression anyStrength context)),
      still context.indent (op ":"), .field "value" (value anyStrength context)])

def bracketed (context : Context) : List Form :=
  let inner := context.inBrackets
  let expression := the (.expression anyStrength inner)
  let member := alt [pair inner, splat "dictionary_splat" "**" inner]
  [ .node "parenthesized_expression"
      (seq [mark "(", alt [the (.yield inner), seq [notNext (kw "yield"), expression]],
        mark ")"]),
    comprehension "generator_expression" "(" ")" expression inner,
    .node "tuple" (seq [mark "(", opt (elements inner), mark ")"]),
    .node "list" (seq [mark "[", opt (elements inner), mark "]"]),
    comprehension "list_comprehension" "[" "]" expression inner,
    .node "dictionary"
      (seq [mark "\x7b", opt (seq [member, .many (seq [mark ",", member])]), opt (mark ","),
        mark "\x7d"]),
    comprehension "dictionary_comprehension" "\x7b" "\x7d" (pair inner) inner,
    .node "set" (seq [mark "\x7b", elements inner, mark "\x7d"]),
    comprehension "set_comprehension" "\x7b" "\x7d" expression inner ]

def strings (context : Context) : Form :=
  alt
    [ .node "concatenated_string"
        (seq [the (.string context), Rule.many1 (onward context (the (.string context)))]),
      the (.string context) ]

def atomRule (context : Context) : Form :=
  alt <|
    [ strings context, .lexeme float, .lexeme integer,
      .lexeme (wordOfKind "True" "true"), .lexeme (wordOfKind "False" "false"),
      .lexeme (wordOfKind "None" "none"),
      .node "ellipsis" (op "..."), variableName ] ++
    bracketed context

/-- The expressions between commas; one alone makes no list. -/
def expressionsRule (context : Context) : Form :=
  let expression := the (.expression anyStrength context)
  let comma := onward context (mark ",")
  alt
    [ .node "expression_list"
        (seq [expression,
          alt [seq [Rule.many1 (seq [comma, onward context expression]), opt comma], comma]]),
      expression ]

def yieldRule (context : Context) : Form :=
  .node "yield"
    (seq [kw "yield",
      alt [onward context (seq [kw "from", value anyStrength context]),
        opt (onward context (seq [notNext (kw "from"), the (.expressions context)]))]])

def piece (delimiter : Delimiter) : Form :=
  alt <|
    (if delimiter.format then [.adjacent doubledBrace] else []) ++
    (if delimiter.raw then [] else [.adjacent escape, .adjacent loneBackslash]) ++
    [.adjacent (stringText delimiter)]

def delimited (delimiter : Delimiter) (context : Context) : Form :=
  seq [.lexeme (stringStart delimiter),
    .many (alt <|
      .node "string_content" (Rule.many1 (piece delimiter)) ::
        if delimiter.format then [the (.interpolation context)] else []),
    .adjacent (stringEnd delimiter)]

def stringRule (context : Context) : Form :=
  seq [comesNext (.lexeme anyStringStart),
    .node "string" (alt (Delimiter.all.map fun delimiter => delimited delimiter context))]

def interpolationRule (context : Context) : Form :=
  let inner := context.inBrackets
  .node "interpolation"
    (seq [.adjacent (token "\x7b"),
      .field "expression" (alt [the (.yield inner),
        seq [notNext (kw "yield"), the (.expressions inner)]]),
      opt (op "="), opt (.field "type_conversion" (.lexeme conversion)),
      opt (.field "format_specifier" (.node "format_specifier"
        (seq [mark ":",
          .many (alt [.adjacent formatText, .adjacent lineFeed,
            the (.interpolation context)])]))),
      mark "\x7d"])

/-! What may be assigned to. -/

def splatTarget (kind sign : String) (context : Context) : Form :=
  .node kind
    (seq [op sign, still context.indent (.ofKind isPlace (the (.primary context)))])

def targetRule (context : Context) : Form :=
  let inner := context.inBrackets
  let list := fun kind opening closing => Rule.node kind
    (seq [mark opening, opt (trailing inner (the (.target inner))), mark closing])
  alt
    [ .ofKind isPlace (the (.primary context)),
      splatTarget "list_splat_pattern" "*" context,
      list "tuple_pattern" "(" ")",
      list "list_pattern" "[" "]" ]

/-- Targets between commas; behind those that more follows comes `in`. -/
def targetsRule (context : Context) : Form :=
  let target := the (.target context)
  let comma := onward context (mark ",")
  let further := if context.behind = .more then seq [notNext (kw "in"), target] else target
  alt
    [ .node "pattern_list"
        (seq [target,
          alt [seq [Rule.many1 (seq [comma, onward context further]), opt comma], comma]]),
      target ]

def augmentedOperators : List String :=
  ["**=", "//=", ">>=", "<<=", "+=", "-=", "*=", "/=", "@=", "%=", "&=", "^=", "|="]

def assignmentRule (context : Context) : Form :=
  let left := .field "left" (the (.targets context))
  let right := seq [steadily context.indent true, .field "right" (the (.assigned context))]
  alt
    [ .node "assignment"
        (seq [left,
          alt
            [ seq [onward context (op "="), right],
              seq [onward context (op ":"), steadily context.indent true,
                .field "type" (the (.type true context)),
                opt (seq [onward context (op "="), right])] ]]),
      .node "augmented_assignment"
        (seq [left,
          onward context (.field "operator" (alt (augmentedOperators.map op))), right]) ]

def assignedRule (context : Context) : Form :=
  alt
    [ the (.yield context),
      seq [notNext (kw "yield"), alt [the (.assignment context), the (.expressions context)]] ]

/-- A type is an expression, or one of the forms that only types have. With a colon a
type may have a bound. -/
def typeRule (colon : Bool) (context : Context) : Form :=
  let item := alt
    [ seq [the (.expression anyStrength context), notNext (onward context (mark "["))],
      .node "generic_type" (seq [name, onward context (the (.typeParameters context.indent))]),
      .node "splat_type" (seq [alt [op "*", op "**"], still context.indent name]) ]
  let next := fun sign => seq [onward context (op sign), steadily context.indent true, item]
  .node "type"
    (seq [item,
      .many (alt <|
        [next "|", seq [onward context (op "."), still context.indent name]] ++
          if colon then [next ":"] else [])])

def typeParametersRule (indent : Nat) : Form :=
  let inner := (Context.line indent).inBrackets
  .node "type_parameter" (seq [mark "[", trailing inner (the (.type true inner)), mark "]"])

/-! Parameters. -/

def parameterRule (typed : Bool) (context : Context) : Form :=
  let default := fun (least : Form) => seq [least, onward context (op "="),
    .field "value" (value anyStrength context)]
  let tuple := .node "tuple_pattern"
    (seq [mark "(", opt (trailing context.inBrackets (the (.target context.inBrackets))),
      mark ")"])
  let starred := [splatTarget "list_splat_pattern" "*" context,
    splatTarget "dictionary_splat_pattern" "**" context]
  let type := seq [onward context (op ":"), steadily context.indent true,
    .field "type" (the (.type true context))]
  alt <|
    (if typed then
      [ .node "typed_default_parameter" (default (seq [.field "name" name, type])),
        .node "typed_parameter" (seq [alt (name :: starred), type]) ]
    else []) ++
    [.node "default_parameter" (default (.field "name" (alt [name, tuple])))] ++ starred ++
    [ tuple, .node "keyword_separator" (op "*"), .node "positional_separator" (op "/"), name ]

end ExportIndex.Python
