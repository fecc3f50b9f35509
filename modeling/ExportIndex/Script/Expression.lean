import ExportIndex.Script.Notion

/-
This file gives the rules of expressions and patterns.
-/

namespace ExportIndex.Script

open Grammar

/-! Binding strengths, from the weakest to the strongest. -/

def anyStrength : Nat := 1
def ternaryStrength : Nat := 2
def updateStrength : Nat := 16
def callStrength : Nat := 17

/-- The binary operators that group to the left, with their strengths. -/
def leftOperators : List (Nat × List String) :=
  [(2, ["??"]), (3, ["||"]), (4, ["&&"]), (5, ["|"]), (6, ["^"]), (7, ["&"]),
    (8, ["===", "!==", "==", "!="]), (9, ["<=", ">=", "<", ">"]),
    (11, [">>>", "<<", ">>"]), (12, ["+", "-"]), (13, ["*", "/", "%"])]

def assignmentOperators : List String :=
  [">>>=", "**=", "<<=", ">>=", "&&=", "||=", "??=", "+=", "-=", "*=", "/=", "%=", "&=",
    "|=", "^="]

/-- The kinds that a single value may be assigned to. -/
def isPlace (kind : String) : Bool :=
  ["identifier", "undefined", "member_expression", "subscript_expression",
    "non_null_expression"].contains kind

def isAssignable (kind : String) : Bool :=
  isPlace kind || ["parenthesized_expression", "object_pattern", "array_pattern"].contains kind

def isUpdatable (kind : String) : Bool :=
  kind != "undefined" && (isPlace kind || kind == "parenthesized_expression")

def anyKind (_ : String) : Bool := true

def binary (operator : Form) (right : Form) : Form :=
  .around "binary_expression" (some "left") anyKind
    (seq [.field "operator" operator, .field "right" right])

/-- The binary operators that bind at least as strongly as asked for. -/
def binaryTails (least : Nat) (ends : Bool) : List Form :=
  ((leftOperators.filter fun (strength, _) => least ≤ strength).flatMap
    fun (strength, names) => names.map fun name =>
      binary (op name) (the (.expression (strength + 1) ends))) ++
  (if least ≤ 14 then [binary (op "**") (the (.expression 14 ends))] else []) ++
  (if least ≤ 9 then
    ["instanceof", "in"].map fun name => binary (kw name) (the (.expression 10 ends))
  else [])

def optionalChain : Form := .node "optional_chain" (op "?.")

def memberName : Form := alt [privateProperty, word "property_identifier"]

/-- What leads from a value to one of its parts, or calls it with a template. -/
def accessTails (dialect : Dialect) (ends : Bool) : List Form :=
  [ .around "member_expression" (some "object") anyKind
      (seq [alt [op ".", .field "optional_chain" optionalChain],
        .field "property" memberName]),
    .around "subscript_expression" (some "object") anyKind
      (seq [opt (.field "optional_chain" optionalChain), mark "[",
        .field "index" (the (.expressions false)), mark "]"]),
    .around "call_expression" (some "function") anyKind
      (.field "arguments" (the .template)),
    .around "call_expression" (some "function") anyKind
      (seq [.field "optional_chain" optionalChain,
        opt (if dialect.isTyped then .field "type_arguments" (the .typeArguments)
          else notNext .nothing),
        .field "arguments" (the .arguments)]) ] ++
  if dialect.isTyped then
    [ .around "non_null_expression" none anyKind
        (seq [continuesIf ends true, op "!"]) ]
  else []

def callTail (dialect : Dialect) : Form :=
  .around "call_expression" (some "function") anyKind
    (if dialect.isTyped then
      seq [opt (.field "type_arguments" (the .typeArguments)),
        .field "arguments" (the .arguments)]
    else .field "arguments" (the .arguments))

/-- Type arguments without a call, where no operand follows them. -/
def instantiationTail : Form :=
  .around "instantiation_expression" none anyKind
    (seq [.field "type_arguments" (the .typeArguments),
      notNext (alt [word "", .lexeme number, mark "(", mark "\x60", mark "'", mark "\"",
        mark "[", mark "\x7b", mark "+", mark "-", mark "!", mark "~", mark "/", mark "<",
        op "="])])

def castTails (dialect : Dialect) (ends : Bool) : List Form :=
  if dialect.isTyped then
    [ .around "as_expression" none anyKind
        (seq [continuesIf ends true, kw "as",
          alt [kw "const", the (.type 0 ends)]]),
      .around "satisfies_expression" none anyKind
        (seq [continuesIf ends true, kw "satisfies", the (.type 0 ends)]) ]
  else []

/-- A consequence that is no function with a type of its result. -/
def plainConsequence (dialect : Dialect) : Form :=
  .grown (the .parenthesized) (alt (accessTails dialect false ++ [callTail dialect]))

def ternaryTail (dialect : Dialect) (ends : Bool) : Form :=
  let alternative := seq [mark ":", .field "alternative" (the (.expression ternaryStrength ends))]
  .around "ternary_expression" (some "condition") anyKind
    (seq [.lexeme (questionMark !dialect.isTyped),
      alt [seq [.field "consequence" (the (.expression anyStrength false)), alternative],
        seq [.field "consequence" (plainConsequence dialect), alternative]]])

def assignmentTails (ends : Bool) : List Form :=
  .around "assignment_expression" (some "left") isAssignable
      (seq [op "=", .field "right" (the (.expression anyStrength ends))]) ::
    assignmentOperators.map fun name =>
      .around "augmented_assignment_expression" (some "left") isUpdatable
        (seq [.field "operator" (op name), .field "right" (the (.expression anyStrength ends))])

def updateTails (ends : Bool) : List Form :=
  ["++", "--"].map fun name =>
    .around "update_expression" (some "argument") anyKind
      (seq [continuesIf ends true, .field "operator" (op name)])

def tails (dialect : Dialect) (least : Nat) (ends : Bool) : Form :=
  alt <|
    accessTails dialect ends ++ [callTail dialect] ++
    (if dialect.isTyped then [instantiationTail] else []) ++
    (if least ≤ updateStrength then updateTails ends else []) ++
    binaryTails least ends ++
    (if least ≤ ternaryStrength then
      castTails dialect ends ++ [ternaryTail dialect ends] else []) ++
    assignmentTails ends

def expressionRule (dialect : Dialect) (least : Nat) (ends : Bool) : Form :=
  .grown (the (.operand ends)) (tails dialect least ends)

def expressionsRule (ends : Bool) : Form :=
  alt
    [ seq [the (.expression anyStrength ends), notNext (mark ",")],
      .node "sequence_expression" (commaList (the (.expression anyStrength ends))) ]

def unary (operator : Form) (ends : Bool) : Form :=
  .node "unary_expression"
    (seq [.field "operator" operator,
      .field "argument" (the (.expression updateStrength ends))])

def arrowRule (ends : Bool) : Form :=
  let head := alt [.field "parameter" variableName, the .signature]
  let rest := seq [op "=>",
    .field "body" (alt [the .block, the (.expression anyStrength ends)])]
  .node "arrow_function"
    (alt [seq [kw "async", continuesIf ends true, head, rest], seq [head, rest]])

def newRule (dialect : Dialect) : Form :=
  .node "new_expression"
    (seq [kw "new", .field "constructor" (the .access),
      if dialect.isTyped then opt (.field "type_arguments" (the .typeArguments)) else .nothing,
      opt (.field "arguments" (the .arguments))])

/-- An object or array on the left of an assignment. -/
def assignedPattern : Form :=
  seq [alt [the .objectPattern, the .arrayPattern], comesNext (op "=")]

def operandRule (dialect : Dialect) (ends : Bool) : Form :=
  alt <|
    [ the (.arrowFunction ends),
      .node "yield_expression"
        (seq [kw "yield",
          alt [seq [continuesIf ends false, op "*", the (.expression anyStrength ends)],
            opt (seq [continuesIf ends false, the (.expression anyStrength ends)])]]),
      .node "await_expression" (seq [kw "await", the (.expression updateStrength ends)]) ] ++
    ["!", "~", "-", "+"].map (fun name => unary (op name) ends) ++
    ["typeof", "void", "delete"].map (fun name => unary (kw name) ends) ++
    ["++", "--"].map (fun name => .node "update_expression"
      (seq [.field "operator" (op name),
        .field "argument" (the (.expression callStrength ends))])) ++
    (if dialect.hasElements then [the .element] else
      [.node "type_assertion"
        (seq [the .typeArguments, the (.expression updateStrength ends)])]) ++
    [ assignedPattern,
      seq [privateProperty, comesNext (kw "in")],
      newRule dialect,
      the .primary ]

/-- A name that the rule of `undefined` or of variables gives a leaf. -/
def reference : Form :=
  alt [.lexeme (wordOfKind "undefined" "undefined"), variableName]

def importReference : Form :=
  alt
    [ .node "meta_property" (seq [kw "import", op ".", kw "meta"]),
      seq [.lexeme (wordOfKind "import" "import"), comesNext (alt [mark "(", op "."])] ]

def primaryRule : Form :=
  alt <|
    [ .node "meta_property" (seq [kw "new", op ".", kw "target"]),
      the .functionExpression,
      reference ] ++
    ["this", "super", "null", "true", "false"].map
      (fun name => .lexeme (wordOfKind name name)) ++
    [ .lexeme number, the .string, the .template, the .regex, the .parenthesized, the .object,
      the .array, the .classExpression, importReference ]

/-- A value that `new` makes an instance of. -/
def accessRule (dialect : Dialect) : Form :=
  .grown (alt [newRule dialect, the .primary]) (alt (accessTails dialect false))

/-- What a pattern may bind, other than an object or array. -/
def leftHandRule (dialect : Dialect) : Form :=
  .ofKind isPlace
    (.grown (alt [newRule dialect, the .primary])
      (alt (accessTails dialect false ++ [callTail dialect])))

def patternRule : Form :=
  alt
    [ the .objectPattern, the .arrayPattern,
      .node "rest_pattern"
        (seq [op "...", alt [the .objectPattern, the .arrayPattern, the .leftHand]]),
      the .leftHand ]

def patternOrDefaultRule : Form :=
  alt
    [ .node "assignment_pattern"
        (seq [.field "left" (the .pattern), op "=",
          .field "right" (the (.expression anyStrength false))]),
      the .pattern ]

def objectPatternRule : Form :=
  let shorthand := word "shorthand_property_identifier_pattern"
  .node "object_pattern"
    (seq [mark "\x7b",
      sparse (alt
        [ .node "rest_pattern"
            (seq [op "...", alt [the .objectPattern, the .arrayPattern, the .leftHand]]),
          .node "pair_pattern"
            (seq [.field "key" (the .propertyName), mark ":",
              .field "value" (the .patternOrDefault)]),
          .node "object_assignment_pattern"
            (seq [.field "left" (alt [shorthand, the .objectPattern, the .arrayPattern]),
              op "=", .field "right" (the (.expression anyStrength false))]),
          shorthand ]),
      mark "\x7d"])

def arrayPatternRule : Form :=
  .node "array_pattern" (seq [mark "[", sparse (the .patternOrDefault), mark "]"])

def spread : Form :=
  .node "spread_element" (seq [op "...", the (.expression anyStrength false)])

def propertyNameRule : Form :=
  alt
    [ word "property_identifier", privateProperty, the .string, .lexeme number,
      .node "computed_property_name"
        (seq [mark "[", the (.expression anyStrength false), mark "]"]) ]

def objectRule : Form :=
  .node "object"
    (seq [mark "\x7b",
      sparse (alt
        [ spread,
          the .methodDefinition,
          .node "pair"
            (seq [.field "key" (the .propertyName), mark ":",
              .field "value" (the (.expression anyStrength false))]),
          word "shorthand_property_identifier" ]),
      mark "\x7d"])

def arrayRule : Form :=
  .node "array"
    (seq [mark "[", sparse (alt [the (.expression anyStrength false), spread]), mark "]"])

def argumentsRule : Form :=
  .node "arguments"
    (seq [mark "(", sparse (alt [the (.expression anyStrength false), spread]), mark ")"])

def parenthesizedRule (dialect : Dialect) : Form :=
  .node "parenthesized_expression"
    (seq [mark "(",
      if dialect.isTyped then
        alt [seq [the (.expression anyStrength false),
              .field "type" (the (.typeClause false)), comesNext (mark ")")],
          the (.expressions false)]
      else the (.expressions false),
      mark ")"])

def quoted (quote : String) (parts : List Form) : Form :=
  seq [mark quote, .many (alt parts), mark quote]

def stringRule : Form :=
  .node "string"
    (alt (['"', '\x27'].map fun quote =>
      quoted (String.ofList [quote])
        [.adjacent (stringFragment quote), .adjacent escape]))

def templateRule : Form :=
  .node "template_string"
    (seq [mark "\x60",
      .many (alt
        [ .adjacent templateText, .adjacent escape,
          .node "template_substitution"
            (seq [.adjacent (token "$\x7b"), the (.expressions false), mark "\x7d"]) ]),
      .adjacent (token "\x60")])

def regexRule : Form :=
  .node "regex"
    (seq [mark "/", .field "pattern" (.adjacent regexPattern), .adjacent (token "/"),
      opt (.field "flags" (.adjacent regexFlags))])

end ExportIndex.Script
