import ExportIndex.Script.Class

/-
This file gives the rules of statements, imports and exports.
-/

namespace ExportIndex.Script

open Grammar

/-- One of some words, which leaves no leaf. -/
def oneOf (words : List String) : Form :=
  .lexeme ⟨"", false, false, fun characters place =>
    if wordIsOneOf words characters place then wordEnd? characters place else none⟩

def impliedEndRule (dialect : Dialect) (afterExpression beforeBody : Bool) : Form :=
  alt
    [ .requires (Semicolon.implied ⟨dialect, afterExpression, beforeBody⟩),
      seq [.extra comment, the (.impliedEnd afterExpression beforeBody)] ]

def semicolonRule (afterExpression : Bool) : Form :=
  alt [the (.impliedEnd afterExpression false), mark ";"]

def programRule : Form :=
  .node "program"
    (seq [opt (.lexeme hashBang), .many (the .statement), .many (.extra htmlComment),
      .lexeme endOfText])

def blockRule : Form :=
  .node "statement_block" (seq [mark "\x7b", .many (the .statement), mark "\x7d"])

def bindingName (excluded : List String) : Form :=
  alt [wordBut excluded "identifier", the .objectPattern, the .arrayPattern]

/-- Declarators after a keyword, up to the end of the statement. -/
def declarators (dialect : Dialect) (excluded : List String) : Form :=
  let name := .field "name" (bindingName excluded)
  let bare :=
    if dialect.isTyped then
      alt
        [ seq [.field "name" (wordBut excluded "identifier"), op "!",
            .field "type" (the (.typeClause true))],
          seq [name, opt (.field "type" (the (.typeClause true)))] ]
    else name
  let valued :=
    .node "variable_declarator" (seq [
      if dialect.isTyped then seq [name, opt (.field "type" (the (.typeClause true)))] else name,
      initializer true])
  let bareDeclarator := .node "variable_declarator" bare
  seq
    [ .many (seq [alt [valued, bareDeclarator], mark ","]),
      alt [seq [valued, the (.semicolon true)], seq [bareDeclarator, the (.semicolon false)]] ]

def variableDeclaration (dialect : Dialect) : Form :=
  .node "variable_declaration" (seq [kw "var", declarators dialect []])

/-- Words that would make an expression of a leading `let`. -/
def wordsAfterLet (dialect : Dialect) : List String :=
  ["in", "instanceof"] ++ if dialect.isTyped then ["as", "satisfies"] else []

def lexicalDeclaration (dialect : Dialect) : Form :=
  .node "lexical_declaration"
    (alt
      [ seq [.field "kind" (kw "let"), declarators dialect (wordsAfterLet dialect)],
        seq [.field "kind" (kw "const"), declarators dialect []] ])

def moduleName (dialect : Dialect) : Form :=
  if dialect.isTyped then
    alt [word "identifier", the .string, .node "nested_identifier" (the .nestedName)]
  else alt [word "identifier", the .string]

def enumDeclaration : Form :=
  let member := alt
    [ .node "enum_assignment" (seq [.field "name" (the .propertyName), initializer false]),
      .field "name" (the .propertyName) ]
  .node "enum_declaration"
    (seq [opt (kw "const"), kw "enum", .field "name" (word "identifier"),
      .field "body" (.node "enum_body"
        (seq [mark "\x7b", opt (trailing member), mark "\x7d"]))])

def interfaceDeclaration : Form :=
  .node "interface_declaration"
    (seq [kw "interface", .field "name" (word "type_identifier"),
      opt (.field "type_parameters" (the .typeParameters)),
      opt (.node "extends_type_clause"
        (seq [kw "extends", commaList (.field "type" (the .typeName))])),
      .field "body" (the (.objectType "interface_body"))])

def typeAliasDeclaration : Form :=
  .node "type_alias_declaration"
    (seq [kw "type", .field "name" (word "type_identifier"),
      opt (.field "type_parameters" (the .typeParameters)), op "=",
      .field "value" (the (.type 0 true)), the (.semicolon false)])

def moduleRest : Form :=
  seq [.field "name" (alt [the .string, the .nestedName]), opt (.field "body" (the .block))]

def ambientDeclaration : Form :=
  .node "ambient_declaration"
    (seq [kw "declare",
      alt
        [ seq [kw "global", the .block],
          seq [kw "module", op ".", word "property_identifier", mark ":", the (.type 0 true),
            the (.semicolon false)],
          the .declaration ]])

def declarationRule (dialect : Dialect) : Form :=
  alt <|
    [functionDeclaration] ++
    (if dialect.isTyped then [functionSignature, abstractClassDeclaration dialect] else []) ++
    [classDeclaration dialect] ++
    (if dialect.isTyped then
      [ .node "module" (seq [kw "module", moduleRest]),
        .node "internal_module" (seq [kw "namespace", moduleRest]),
        typeAliasDeclaration, enumDeclaration, interfaceDeclaration, the .importAlias,
        ambientDeclaration ]
    else []) ++
    [the .lexical, variableDeclaration dialect]

def importAliasRule : Form :=
  .node "import_alias"
    (seq [kw "import", word "identifier", op "=", the .nestedName, the (.semicolon true)])

def fromClause : Form := seq [kw "from", .field "source" (the .string)]

def exportClauseRule (dialect : Dialect) : Form :=
  let specifier := seq [.field "name" (moduleName dialect),
    opt (seq [kw "as", .field "alias" (moduleName dialect)])]
  let item := .node "export_specifier"
    (if dialect.isTyped then
      alt (["type", "typeof"].map (fun name =>
        seq [kw name, specifier, comesNext (alt [mark ",", mark "\x7d"])]) ++ [specifier])
    else specifier)
  .node "export_clause"
    (seq [mark "\x7b", alt [trailing item, opt (mark ",")], mark "\x7d"])

def namespaceExport (dialect : Dialect) : Form :=
  .node "namespace_export" (seq [mark "*", kw "as", moduleName dialect])

/-- Words that always start a declaration where one may stand. -/
def declarationWords (dialect : Dialect) : List String :=
  ["var", "const"] ++ if dialect.isTyped then ["interface", "enum", "abstract"] else []

def exportStatementRule (dialect : Dialect) : Form :=
  let value := .field "value" (the (.expression anyStrength true))
  .node "export_statement"
    (alt <|
      [ seq [kw "export",
          alt
            [ seq [mark "*", fromClause],
              seq [namespaceExport dialect, fromClause],
              seq [the .exportClause, fromClause],
              the .exportClause ],
          the (.semicolon false)] ] ++
      (if dialect.isTyped then
        [ seq [kw "export", kw "type", the .exportClause, opt fromClause,
            the (.semicolon false)],
          seq [kw "export", the .importAlias],
          seq [kw "export", op "=", the (.expression anyStrength true),
            the (.semicolon true)],
          seq [kw "export", kw "as", kw "namespace", word "identifier",
            the (.semicolon false)] ]
      else []) ++
      [ seq [decorators, kw "export",
          alt
            [ seq [kw "default",
                alt [.field "declaration" (the .declaration),
                  seq [notNext (oneOf (declarationWords dialect)), value,
                    the (.semicolon true)]]],
              .field "declaration" (the .declaration) ]] ])

def importSpecifier (dialect : Dialect) : Form :=
  let specifier := alt
    [ seq [.field "name" (moduleName .plain), kw "as", .field "alias" (word "identifier")],
      .field "name" (word "identifier") ]
  .node "import_specifier"
    (if dialect.isTyped then
      alt (["type", "typeof"].map (fun name =>
        seq [kw name, specifier, comesNext (alt [mark ",", mark "\x7d"])]) ++ [specifier])
    else specifier)

def importClause (dialect : Dialect) : Form :=
  let namespaceImport := .node "namespace_import" (seq [mark "*", kw "as", word "identifier"])
  let namedImports := .node "named_imports"
    (seq [mark "\x7b", alt [trailing (importSpecifier dialect), opt (mark ",")], mark "\x7d"])
  .node "import_clause"
    (alt [namespaceImport, namedImports,
      seq [word "identifier", opt (seq [mark ",", alt [namespaceImport, namedImports]])]])

def importStatementRule (dialect : Dialect) : Form :=
  let clause := seq [importClause dialect, fromClause]
  let requireClause := .node "import_require_clause"
    (seq [word "identifier", op "=", kw "require", mark "(", .field "source" (the .string),
      mark ")"])
  let kinds := if dialect.isTyped then
    ["type", "typeof"].flatMap fun name =>
      [seq [kw name, clause], seq [kw name, requireClause]]
  else []
  .node "import_statement"
    (seq [kw "import",
      alt (kinds ++ [clause] ++ (if dialect.isTyped then [requireClause] else []) ++
        [.field "source" (the .string)]),
      opt (.node "import_attribute" (seq [kw "with", the .object])),
      the (.semicolon false)])

def condition : Form := .field "condition" (the .parenthesized)

def forHeaderRule (dialect : Dialect) : Form :=
  let bound := .field "left" (alt [the .objectPattern, the .arrayPattern, word "identifier"])
  let rest := seq
    [.field "operator" (alt [kw "in", kw "of"]), .field "right" (the (.expressions false)),
      mark ")"]
  seq [mark "(",
    alt
      [ seq [.field "kind" (kw "var"), bound,
          opt (seq [op "=", .field "value" (the (.expression 10 false))]), rest],
        seq [.field "kind" (kw "let"),
          .field "left" (alt [the .objectPattern, the .arrayPattern,
            wordBut (wordsAfterLet dialect ++ ["of"]) "identifier"]), rest],
        seq [.field "kind" (kw "const"), bound, rest],
        seq [notNext (oneOf ["var", "const"]),
          .field "left" (alt [the .objectPattern, the .arrayPattern, the .leftHand]), rest],
        seq [.field "left" (the .parenthesized), rest] ]]

def forStatement (dialect : Dialect) : Form :=
  let empty := .node "empty_statement" (mark ";")
  .node "for_statement"
    (seq [kw "for", mark "(",
      .field "initializer"
        (alt [the .lexical, variableDeclaration dialect, empty,
          seq [notNext (oneOf ["var", "const"]), the (.expressions false), mark ";"]]),
      .field "condition" (alt [empty, seq [the (.expressions false), mark ";"]]),
      opt (.field "increment" (the (.expressions false))),
      mark ")", .field "body" (the .statement)])

def switchBodyRule : Form :=
  let statements := .many (.field "body"
    (seq [notNext (alt [kw "case", kw "default"]), the .statement]))
  .node "switch_body"
    (seq [mark "\x7b",
      .many (alt
        [ .node "switch_case"
            (seq [kw "case", .field "value" (the (.expressions false)), mark ":", statements]),
          .node "switch_default" (seq [kw "default", mark ":", statements]) ]),
      mark "\x7d"])

def tryStatement (dialect : Dialect) : Form :=
  let parameter := seq
    [ mark "(", .field "parameter" (bindingName []),
      if dialect.isTyped then opt (.field "type" (the (.typeClause false))) else .nothing,
      mark ")" ]
  .node "try_statement"
    (seq [kw "try", .field "body" (the .block),
      opt (.field "handler" (.node "catch_clause"
        (seq [kw "catch", opt parameter, .field "body" (the .block)]))),
      opt (.field "finalizer" (.node "finally_clause"
        (seq [kw "finally", .field "body" (the .block)])))])

/-- A jump with a label or without one. -/
def jump (kind name : String) : Form :=
  .node kind
    (seq [kw name,
      opt (seq [continues false, .field "label" (word "statement_identifier")]),
      the (.semicolon false)])

/-- A statement of a keyword that is never a variable there. -/
def keywordStatements (dialect : Dialect) : List Form :=
  let body := .field "body" (the .statement)
  [ .node "if_statement"
      (seq [kw "if", condition, .field "consequence" (the .statement),
        opt (.field "alternative" (.node "else_clause" (seq [kw "else", the .statement])))]),
    .node "switch_statement"
      (seq [kw "switch", .field "value" (the .parenthesized),
        .field "body" (the .switchBody)]),
    .node "for_in_statement" (seq [kw "for", opt (kw "await"), the .forHeader, body]),
    forStatement dialect,
    .node "while_statement" (seq [kw "while", condition, body]),
    .node "do_statement"
      (seq [kw "do", body, kw "while", condition, opt (the (.semicolon false))]),
    tryStatement dialect,
    .node "with_statement" (seq [kw "with", .field "object" (the .parenthesized), body]),
    jump "break_statement" "break",
    jump "continue_statement" "continue",
    .node "debugger_statement" (seq [kw "debugger", the (.semicolon false)]),
    .node "return_statement"
      (seq [kw "return",
        alt [seq [continues false, the (.expressions true), the (.semicolon true)],
          the (.semicolon false)]]),
    .node "throw_statement" (seq [kw "throw", the (.expressions true), the (.semicolon true)]),
    .node "empty_statement" (mark ";") ]

/-- Words that are variables if a statement may end behind them. -/
def softWords (dialect : Dialect) : List String :=
  ["let", "async", "export"] ++
    if dialect.isTyped then ["type", "declare", "module", "namespace"] else []

/-- A declaration and no use of a variable with the name of its first word. -/
def declares (dialect : Dialect) : Form :=
  alt <|
    [seq [kw "export", op "*"], seq [kw "let", mark "["]] ++
      if dialect.isTyped then [seq [kw "export", alt [op "=", kw "as"]]] else []

/-- A word that starts a declaration, and not a variable that is a statement. -/
def startsDeclaration (dialect : Dialect) : Form :=
  notNext (seq [oneOf (softWords dialect), the (.impliedEnd true false)])

def statementRule (dialect : Dialect) : Form :=
  seq [.many (.extra htmlComment),
    alt <|
      [the .block] ++ keywordStatements dialect ++
      [ seq [startsDeclaration dialect,
          alt [the .exportStatement, the .importStatement, the .declaration]],
        .node "labeled_statement"
          (seq [.field "label"
              (wordBut (expressionWords ++ statementWords dialect) "statement_identifier"),
            mark ":", .field "body" (the .statement)]),
        .node "expression_statement"
          (seq [notNext (oneOf (statementWords dialect)), notNext (declares dialect),
            the (.expressions true), the (.semicolon true)]) ]]

end ExportIndex.Script
