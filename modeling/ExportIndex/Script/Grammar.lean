import ExportIndex.Grammar.Derive
import ExportIndex.Script.Element
import ExportIndex.Script.Statement
import ExportIndex.Script.Type

/-
This file puts the grammars of JavaScript and TypeScript together.
-/

namespace ExportIndex.Script

open Grammar

def rule (dialect : Dialect) : Notion → Form
  | .program => programRule
  | .statement => statementRule dialect
  | .block => blockRule
  | .declaration => declarationRule dialect
  | .lexical => lexicalDeclaration dialect
  | .exportStatement => exportStatementRule dialect
  | .importStatement => importStatementRule dialect
  | .exportClause => exportClauseRule dialect
  | .importAlias => importAliasRule
  | .semicolon afterExpression => semicolonRule afterExpression
  | .impliedEnd afterExpression beforeBody => impliedEndRule dialect afterExpression beforeBody
  | .forHeader => forHeaderRule dialect
  | .switchBody => switchBodyRule
  | .expressions ends => expressionsRule ends
  | .expression least ends => expressionRule dialect least ends
  | .operand ends => operandRule dialect ends
  | .primary => primaryRule
  | .access => accessRule dialect
  | .leftHand => leftHandRule dialect
  | .arrowFunction ends => arrowRule ends
  | .parenthesized => parenthesizedRule dialect
  | .object => objectRule
  | .array => arrayRule
  | .objectPattern => objectPatternRule
  | .arrayPattern => arrayPatternRule
  | .pattern => patternRule
  | .patternOrDefault => patternOrDefaultRule
  | .propertyName => propertyNameRule
  | .parameters => parametersRule
  | .signature => signatureRule dialect
  | .parameter => parameterRule dialect
  | .arguments => argumentsRule
  | .string => stringRule
  | .template => templateRule
  | .regex => regexRule
  | .functionExpression => functionExpressionRule
  | .classExpression => classExpressionRule dialect
  | .classBody => classBodyRule
  | .classMember => classMemberRule dialect
  | .decorator => decoratorRule dialect
  | .methodDefinition => methodDefinitionRule dialect
  | .element => elementRule dialect
  | .elementChild => elementChildRule
  | .elementName => elementNameRule
  | .attribute => attributeRule
  | .embedded => embeddedRule
  | .type least ends => typeRule least ends
  | .primaryType ends => primaryTypeRule ends
  | .typeName => typeNameRule
  | .typeArguments => typeArgumentsRule
  | .typeParameters => typeParametersRule
  | .typeClause ends => annotationRule ends
  | .returnClause ends => returnAnnotationRule ends
  | .objectType kind => objectTypeRule kind
  | .typeMember => typeMemberRule
  | .methodSignature => methodSignatureRule
  | .indexSignature => indexSignatureRule
  | .propertySignature => propertySignatureRule
  | .tupleMember => tupleMemberRule
  | .functionType ends => functionTypeRule ends
  | .importedType => importedTypeRule
  | .nestedName => nestedNameRule

def rules (dialect : Dialect) : Rules Notion := ⟨rule dialect, [spaces, comment]⟩

/-- The tree of a text in a dialect. -/
def grammar (dialect : Dialect) : ExportIndex.Grammar := (rules dialect).tree .program

end ExportIndex.Script
