import ExportIndex.Script.Expression

/-
This file gives the rules of elements.
-/

namespace ExportIndex.Script

open Grammar

def elementWord (kind : String) : Form := alt [.lexeme (hyphenName kind), word kind]

def namespacedName : Form :=
  .node "jsx_namespace_name" (seq [elementWord "identifier", mark ":", elementWord "identifier"])

def elementNameRule : Form :=
  alt
    [ namespacedName,
      .lexeme (hyphenName "identifier"),
      .grown (word "identifier")
        (.around "member_expression" (some "object") anyKind
          (seq [op ".", .field "property" (word "property_identifier")])) ]

def embeddedRule : Form :=
  .node "jsx_expression"
    (seq [mark "\x7b", opt (alt [the (.expressions false), spread]), mark "\x7d"])

def attributeString : Form :=
  .node "string"
    (alt (['"', '\x27'].map fun quote =>
      quoted (String.ofList [quote])
        [.adjacent (attributeText quote), .adjacent characterReference]))

def attributeRule : Form :=
  alt
    [ .node "jsx_attribute"
        (seq [alt [namespacedName, elementWord "property_identifier"],
          opt (seq [mark "=", alt [attributeString, the .embedded, the .element]])]),
      the .embedded ]

def openingRest (dialect : Dialect) : Form :=
  seq [.field "name" (the .elementName),
    if dialect.isTyped then opt (.field "type_arguments" (the .typeArguments)) else .nothing,
    .many (.field "attribute" (the .attribute))]

def elementChildRule : Form :=
  alt [.adjacent elementText, .lexeme characterReference, the .element, the .embedded]

def elementRule (dialect : Dialect) : Form :=
  let opening := .node "jsx_opening_element"
    (seq [mark "<", opt (openingRest dialect), mark ">"])
  let closing := .node "jsx_closing_element"
    (seq [mark "</", opt (.field "name" (the .elementName)), mark ">"])
  alt
    [ .node "jsx_self_closing_element" (seq [mark "<", openingRest dialect, mark "/>"]),
      .node "jsx_element"
        (seq [.field "open_tag" opening, .many (the .elementChild),
          .field "close_tag" closing]) ]

end ExportIndex.Script
