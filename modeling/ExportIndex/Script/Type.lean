import ExportIndex.Script.Class

/-
This file gives the rules of types.
-/

namespace ExportIndex.Script

open Grammar

/-! Binding strengths of types, from the weakest to the strongest. -/

def conditionalStrength : Nat := 1
def unionStrength : Nat := 2
def intersectionStrength : Nat := 3

def predefinedNames : List String :=
  ["any", "number", "boolean", "string", "symbol", "void", "unknown", "never", "object"]

/-- Words that are no names of types where a type starts. -/
def typeWords : List String :=
  predefinedNames ++ startingWords
where
  /-- The words with which other types start. -/
  startingWords : List String :=
    ["unique", "this", "true", "false", "null", "undefined", "typeof", "keyof", "infer",
      "readonly", "new", "import", "const", "abstract"]

def predefinedType : Form :=
  .node "predefined_type"
    (alt (predefinedNames.map kw ++ [seq [kw "unique", kw "symbol"]]))

def typeTails (least : Nat) (ends : Bool) : Form :=
  let list (strength : Nat) (kind separator : String) : List Form :=
    if least ≤ strength then
      [.around kind none anyKind
        (seq [mark separator, the (.type (strength + 1) ends)])]
    else []
  alt <|
    list unionStrength "union_type" "|" ++ list intersectionStrength "intersection_type" "&" ++
    if least ≤ conditionalStrength then
      [ .around "conditional_type" (some "left") anyKind
          (seq [continuesIf ends false, kw "extends", .field "right" (the (.type 0 false)),
            mark "?", .field "consequence" (the (.type 0 false)), mark ":",
            .field "alternative" (the (.type 0 ends))]) ]
    else []

/-- A type that extends to the right as far as it can. -/
def openTypes (ends : Bool) : List Form :=
  [ the (.functionType ends),
    .node "constructor_type"
      (seq [opt (kw "abstract"), kw "new",
        opt (.field "type_parameters" (the .typeParameters)),
        .field "parameters" (the .parameters), op "=>", .field "type" (the (.type 0 ends))]),
    .node "readonly_type" (seq [kw "readonly", the (.type 0 ends)]),
    .node "infer_type"
      (seq [kw "infer", word "type_identifier",
        opt (seq [continuesIf ends false, kw "extends", the (.type 0 ends)])]) ]

def typeRule (least : Nat) (ends : Bool) : Form :=
  let leading (kind separator : String) (strength : Nat) : Form :=
    .node kind (seq [mark separator, the (.type (strength + 1) ends)])
  .grown
    (alt (openTypes ends ++
      [ leading "union_type" "|" unionStrength,
        leading "intersection_type" "&" intersectionStrength,
        the (.primaryType ends), the .importedType ]))
    (typeTails least ends)

/-- What the return type of a function says of its arguments: after `asserts`, fewer words start
types, and more are names. -/
def asserts (ends : Bool) : Form :=
  let predicate (excluded : List String) := Rule.node "type_predicate"
    (seq [.field "name" (alt [.lexeme (wordOfKind "this" "this"), wordBut excluded "identifier"]),
      continuesIf ends false, kw "is", .field "type" (the (.type 0 ends))])
  alt
    [ .node "asserts"
        (seq [kw "asserts", continuesIf ends false,
          alt [predicate ["unique"], .lexeme (wordOfKind "this" "this"),
            wordBut ("extends" :: "unique" :: predefinedNames) "identifier"]]),
      predicate ("asserts" :: typeWords.startingWords) ]

/-- The type in the place of a return type, where `asserts` is no name. -/
def returnType (ends : Bool) : Form :=
  seq [notNext (kw "asserts"), the (.type 0 ends)]

def functionTypeRule (ends : Bool) : Form :=
  .node "function_type"
    (seq [opt (.field "type_parameters" (the .typeParameters)),
      .field "parameters" (the .parameters), op "=>",
      .field "return_type" (alt [asserts ends, returnType ends])])

def annotationRule (ends : Bool) : Form :=
  .node "type_annotation" (seq [mark ":", the (.type 0 ends)])

def returnAnnotationRule (ends : Bool) : Form :=
  alt
    [ .node "asserts_annotation" (seq [mark ":", asserts ends]),
      .node "type_annotation" (seq [mark ":", returnType ends]) ]

def nestedNameRule : Form :=
  .grown (word "identifier")
    (.around "nested_identifier" (some "object") anyKind
      (seq [op ".", .field "property" (word "property_identifier")]))

/-- A name, perhaps within modules, without type arguments. -/
def plainTypeName : Form :=
  let path := .grown (word "identifier")
    (.around "nested_identifier" (some "object") anyKind
      (seq [op ".", .field "property" (word "property_identifier"), comesNext (op ".")]))
  alt
    [ .node "nested_type_identifier"
        (seq [notNext (wordsOf typeWords), .field "module" path, op ".",
          .field "name" (word "type_identifier")]),
      wordBut typeWords "type_identifier" ]
where
  wordsOf (words : List String) : Form :=
    .lexeme ⟨"", false, false, fun characters place =>
      if wordIsOneOf words characters place then wordEnd? characters place else none⟩

def typeNameRule : Form :=
  alt
    [ .node "generic_type"
        (seq [.field "name" plainTypeName, .field "type_arguments" (the .typeArguments)]),
      plainTypeName ]

def typeQuery : Form :=
  let start := alt
    [ .lexeme (wordOfKind "this" "this"),
      seq [.lexeme (wordOfKind "import" "import"), comesNext (alt [mark "(", op "."])],
      word "identifier" ]
  .node "type_query"
    (seq [kw "typeof",
      .grown start
        (alt
          [ .around "member_expression" (some "object") anyKind
              (seq [alt [op ".", op "?."], .field "property" memberName]),
            .around "subscript_expression" (some "object") anyKind
              (seq [mark "[", .field "index" (alt [predefinedType, the .string, .lexeme number]),
                mark "]"]),
            .around "call_expression" (some "function") anyKind
              (.field "arguments" (the .arguments)),
            .around "instantiation_expression" (some "function") anyKind
              (.field "type_arguments" (the .typeArguments)) ])])

def importedTypeRule : Form :=
  .grown (seq [.lexeme (wordOfKind "import" "import"), comesNext (alt [mark "(", op "."])])
    (alt
      [ .around "member_expression" (some "object") anyKind
          (seq [op ".", .field "property" memberName]),
        .around "call_expression" (some "function") (· != "call_expression")
          (.field "arguments" (the .arguments)) ])

def literalType : Form :=
  .node "literal_type"
    (alt <|
      [ .node "unary_expression"
          (seq [.field "operator" (alt [mark "-", mark "+"]),
            .field "argument" (.lexeme number)]),
        .lexeme number, the .string ] ++
      ["true", "false", "null", "undefined"].map fun name => .lexeme (wordOfKind name name))

def templateType : Form :=
  .node "template_literal_type"
    (seq [mark "\x60",
      .many (alt
        [ .adjacent templateText,
          .node "template_type"
            (seq [.adjacent (token "$\x7b"), the (.type 0 false), mark "\x7d"]) ]),
      .adjacent (token "\x60")])

/-- A type that others can follow directly. -/
def primaryTypeRule (ends : Bool) : Form :=
  .grown
    (alt
      [ .node "parenthesized_type" (seq [mark "(", the (.type 0 false), mark ")"]),
        predefinedType, literalType, templateType,
        .lexeme (wordOfKind "this" "this_type"),
        the (.objectType "object_type"),
        .node "tuple_type"
          (seq [mark "[", alt [trailing (the .tupleMember), opt (mark ",")], mark "]"]),
        typeQuery,
        .node "index_type_query" (seq [kw "keyof", the (.primaryType ends)]),
        .node "existential_type" (mark "*"),
        .node "flow_maybe_type" (seq [mark "?", the (.primaryType ends)]),
        the .typeName,
        kw "const" ])
    (alt
      [ .around "array_type" none anyKind
          (seq [continuesIf ends false, mark "[", mark "]"]),
        .around "lookup_type" none anyKind
          (seq [continuesIf ends false, mark "[", the (.type 0 false), mark "]"]) ])

def typeArgumentsRule : Form :=
  .node "type_arguments" (seq [mark "<", trailing (the (.type 0 false)), mark ">"])

def typeParametersRule : Form :=
  .node "type_parameters"
    (seq [mark "<",
      trailing (.node "type_parameter"
        (seq [opt (modifier "const" (word "")), .field "name" (word "type_identifier"),
          opt (.field "constraint" (.node "constraint"
            (seq [alt [kw "extends", mark ":"], the (.type 0 false)]))),
          opt (.field "value" (.node "default_type" (seq [op "=", the (.type 0 false)])))])),
      mark ">"])

def tupleMemberRule : Form :=
  let label := seq [.field "name" (word "identifier")]
  let rest := .field "name" (.node "rest_pattern"
    (seq [op "...", alt [the .objectPattern, the .arrayPattern, the .leftHand]]))
  let typeClause := .field "type" (the (.typeClause false))
  alt
    [ .node "optional_parameter" (seq [label, mark "?", typeClause]),
      .node "required_parameter" (seq [alt [label, rest], typeClause]),
      .node "rest_type" (seq [op "...", the (.type 0 false)]),
      .node "optional_type" (seq [the (.type 0 false), mark "?"]),
      the (.type 0 false) ]

def methodSignatureRule : Form :=
  .node "method_signature"
    (seq ([opt (accessibility memberStart), opt (memberModifier "static"),
      opt (overriding memberStart)] ++ optionalModifiers ["readonly", "async"] ++
      [accessor, .field "name" (the .propertyName), opt (mark "?"), the .signature]))

def propertySignatureRule : Form :=
  .node "property_signature"
    (seq [opt (accessibility memberStart), opt (memberModifier "static"),
      opt (overriding memberStart), opt (memberModifier "readonly"),
      .field "name" (the .propertyName), opt (mark "?"),
      opt (.field "type" (the (.typeClause true)))])

def indexSignatureRule : Form :=
  let key := alt
    [ .node "mapped_type_clause"
        (seq [mappedKey, .field "type" (the (.type 0 false)),
          opt (seq [kw "as", .field "alias" (the (.type 0 false))])]),
      seq [.field "name" (word "identifier"), mark ":",
        .field "index_type" (the (.type 0 false))] ]
  let typeClause := alt
    [ the (.typeClause true),
      .node "omitting_type_annotation" (seq [mark "-?:", the (.type 0 true)]),
      .node "adding_type_annotation" (seq [mark "+?:", the (.type 0 true)]),
      .node "opting_type_annotation" (seq [mark "?:", the (.type 0 true)]) ]
  .node "index_signature"
    (seq [readonlySign, mark "[", key, mark "]", .field "type" typeClause])

def constructSignature : Form :=
  .node "construct_signature"
    (seq [opt (kw "abstract"), kw "new", opt (.field "type_parameters" (the .typeParameters)),
      .field "parameters" (the .parameters), opt (.field "type" (the (.typeClause true)))])

def typeMemberRule : Form :=
  alt
    [ the .exportStatement,
      .node "call_signature" (the .signature),
      constructSignature, the .indexSignature,
      seq [startsNoMapping, alt [the .methodSignature, the .propertySignature]] ]

def objectTypeRule (kind : String) : Form :=
  let separator := alt [mark ",", the (.semicolon false)]
  .node kind
    (seq [alt [mark "\x7b|", mark "\x7b"],
      opt (seq [opt (alt [mark ",", mark ";"]), the .typeMember,
        .many (seq [separator, the .typeMember]), opt separator]),
      alt [mark "|\x7d", mark "\x7d"]])

end ExportIndex.Script
