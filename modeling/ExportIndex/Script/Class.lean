import ExportIndex.Script.Expression

/-
This file gives the rules of functions, methods and classes.
-/

namespace ExportIndex.Script

open Grammar

/-- A word before the thing that it modifies, and not the name of that thing. -/
def modifier (name : String) (modified : Form) : Form := seq [kw name, comesNext modified]

/-- What the modifiers of a member stand before. -/
def memberStart : Form := alt [the .propertyName, mark "*"]

def memberModifier (name : String) : Form := modifier name memberStart

def optionalModifiers (names : List String) : List Form :=
  names.map fun name => opt (memberModifier name)

def accessibility (modified : Form) : Form :=
  .node "accessibility_modifier"
    (alt (["public", "private", "protected"].map fun name => modifier name modified))

def overriding (modified : Form) : Form :=
  .node "override_modifier" (modifier "override" modified)

def accessor : Form := opt (alt [memberModifier "get", memberModifier "set", mark "*"])

/-- A single word or a parenthesized list stands before the arrow of a function. -/
def signatureRule (dialect : Dialect) : Form :=
  if dialect.isTyped then
    seq [opt (.field "type_parameters" (the .typeParameters)),
      .field "parameters" (the .parameters),
      opt (.field "return_type" (the (.returnClause true)))]
  else .field "parameters" (the .parameters)

def parametersRule : Form :=
  .node "formal_parameters" (seq [mark "(", opt (trailing (the .parameter)), mark ")"])

/-- What a parameter of typed text binds starts here. -/
def parameterStart : Form := alt [word "", mark "\x7b", mark "[", op "..."]

def parameterRule (dialect : Dialect) : Form :=
  if dialect.isTyped then
    let name := seq
      [ .many (.field "decorator" (the .decorator)),
        opt (accessibility parameterStart),
        opt (overriding parameterStart),
        opt (modifier "readonly" parameterStart),
        .field "pattern" (alt [the .pattern, .lexeme (wordOfKind "this" "this")]) ]
    let value := opt (seq [op "=", .field "value" (the (.expression anyStrength false))])
    alt
      [ .node "required_parameter"
          (seq [name, notNext (mark "?"), opt (.field "type" (the (.typeClause false))), value]),
        .node "optional_parameter"
          (seq [name, mark "?", opt (.field "type" (the (.typeClause false))), value]) ]
  else the .patternOrDefault

def functionHead (name : Form) (generator : Bool) : Form :=
  seq [opt (kw "async"), kw "function", if generator then mark "*" else .nothing, name,
    the .signature]

def functionExpressionRule : Form :=
  let name := opt (.field "name" (word "identifier"))
  alt
    [ .node "function_expression" (seq [functionHead name false, .field "body" (the .block)]),
      .node "generator_function" (seq [functionHead name true, .field "body" (the .block)]) ]

def functionDeclaration : Form :=
  let name := .field "name" (word "identifier")
  alt
    [ .node "function_declaration" (seq [functionHead name false, .field "body" (the .block)]),
      .node "generator_function_declaration"
        (seq [functionHead name true, .field "body" (the .block)]) ]

def functionSignature : Form :=
  .node "function_signature"
    (seq [functionHead (.field "name" (word "identifier")) false,
      alt [the (.impliedEnd false true), mark ";"]])

def methodDefinitionRule (dialect : Dialect) : Form :=
  let body := .field "body" (the .block)
  let name := .field "name" (the .propertyName)
  if dialect.isTyped then
    .node "method_definition"
      (seq ([opt (accessibility memberStart), opt (memberModifier "static"),
        opt (overriding memberStart)] ++ optionalModifiers ["readonly", "async"] ++
        [accessor, name, opt (mark "?"), the .signature, body]))
  else
    .node "method_definition"
      (seq ([.many (.field "decorator" (the .decorator))] ++
        optionalModifiers ["static", "async"] ++ [accessor, name, the .signature, body]))

def initializer (ends : Bool) : Form :=
  seq [op "=", .field "value" (the (.expression anyStrength ends))]

/-- A semicolon behind a value or behind a bare name. -/
def fieldEnd (dialect : Dialect) (start : Form) : Form :=
  let stop := fun afterExpression =>
    if dialect.isTyped then alt [the (.semicolon afterExpression), mark ","]
    else the (.semicolon afterExpression)
  alt [seq [start, initializer true, stop true], seq [start, stop false]]

def plainField : Form :=
  seq [.many (.field "decorator" (the .decorator)), opt (memberModifier "static"),
    .field "property" (the .propertyName)]

def typedField : Form :=
  seq
    [ .many (.field "decorator" (the .decorator)),
      opt (alt
        [ seq [memberModifier "declare", opt (accessibility memberStart)],
          seq [accessibility memberStart, opt (memberModifier "declare")] ]),
      alt
        [ seq [memberModifier "abstract", opt (memberModifier "readonly")],
          seq [memberModifier "readonly", memberModifier "abstract"],
          memberModifier "accessor",
          seq [opt (memberModifier "static"), opt (overriding memberStart),
            opt (memberModifier "readonly")] ],
      .field "name" (the .propertyName),
      opt (alt [mark "?", op "!"]),
      opt (.field "type" (the (.typeClause true))) ]

def staticBlock : Form :=
  .node "class_static_block" (seq [kw "static", .field "body" (the .block)])

def abstractMethod : Form :=
  .node "abstract_method_signature"
    (seq [opt (accessibility memberStart), memberModifier "abstract",
      opt (overriding memberStart), accessor, .field "name" (the .propertyName),
      opt (mark "?"), the .signature])

/-- Words between brackets that are variables and so name no key. -/
def bracketWords : List String :=
  expressionWords ++ ["get", "set", "async", "static", "export", "let", "declare", "namespace",
    "type", "public", "private", "protected", "override", "readonly", "module", "any", "number",
    "boolean", "string", "symbol", "object"]

def readonlySign : Form :=
  opt (seq [opt (.field "sign" (alt [mark "-", mark "+"])), kw "readonly"])

def mappedKey : Form := seq [.field "name" (wordBut bracketWords "type_identifier"), kw "in"]

/-- No name in brackets starts like the key of a mapped type. -/
def startsNoMapping : Form := notNext (seq [readonlySign, mark "[", mappedKey])

def classMemberRule (dialect : Dialect) : Form :=
  if dialect.isTyped then
    alt
      [ staticBlock,
        seq [the .indexSignature, alt [the (.semicolon false), mark ","]],
        seq [startsNoMapping, alt
          [ seq [.many (.field "decorator" (the .decorator)), the .methodDefinition,
              opt (the (.semicolon false))],
            seq [the .methodSignature, alt [the (.impliedEnd false true), mark ",", mark ";"]],
            seq [abstractMethod, alt [the (.semicolon false), mark ","]],
            .node "public_field_definition" (fieldEnd dialect typedField) ]],
        mark ";" ]
  else
    alt
      [ staticBlock,
        seq [.field "member" (the .methodDefinition), opt (mark ";")],
        .field "member" (.node "field_definition" (fieldEnd dialect plainField)),
        mark ";" ]

def classBodyRule : Form :=
  .node "class_body" (seq [mark "\x7b", .many (the .classMember), mark "\x7d"])

def heritage (dialect : Dialect) : Form :=
  let value := the (.expression callStrength false)
  let implements := .node "implements_clause"
    (seq [kw "implements", commaList (the (.type 0 false))])
  .node "class_heritage"
    (if dialect.isTyped then
      alt
        [ seq [.node "extends_clause"
              (seq [kw "extends", commaList (seq [.field "value" value,
                opt (.field "type_arguments" (the .typeArguments))])]),
            opt implements],
          implements ]
    else seq [kw "extends", value])

/-- The parts of a class behind its name. -/
def classRest (dialect : Dialect) : Form :=
  seq [if dialect.isTyped then opt (.field "type_parameters" (the .typeParameters)) else .nothing,
    opt (heritage dialect), .field "body" (the .classBody)]

def className (dialect : Dialect) : Form :=
  if dialect.isTyped then
    .field "name" (wordBut ["extends", "implements"] "type_identifier")
  else .field "name" (wordBut ["extends"] "identifier")

def decorators : Form := .many (.field "decorator" (the .decorator))

def classExpressionRule (dialect : Dialect) : Form :=
  .node "class" (seq [decorators, kw "class", opt (className dialect), classRest dialect])

def classDeclaration (dialect : Dialect) : Form :=
  .node "class_declaration" (seq [decorators, kw "class", className dialect, classRest dialect])

def abstractClassDeclaration (dialect : Dialect) : Form :=
  .node "abstract_class_declaration"
    (seq [decorators, kw "abstract", kw "class", className dialect, classRest dialect])

def decoratorRule (dialect : Dialect) : Form :=
  let path := .grown (word "identifier")
    (.around "member_expression" (some "object") anyKind
      (seq [op ".", .field "property" (word "property_identifier")]))
  let called := .grown path
    (.around "call_expression" (some "function") (· != "call_expression")
      (seq [if dialect.isTyped then opt (.field "type_arguments" (the .typeArguments))
          else .nothing,
        .field "arguments" (the .arguments)]))
  .node "decorator"
    (seq [mark "@",
      if dialect.isTyped then
        alt [called, .node "parenthesized_expression" (seq [mark "(", called, mark ")"])]
      else called])

end ExportIndex.Script
