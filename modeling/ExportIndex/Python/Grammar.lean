import ExportIndex.Grammar.Derive
import ExportIndex.Python.Statement

/-
This file gives the grammar of Python, which also derives two statements of the earlier
version of the language.
-/

namespace ExportIndex.Python

open Grammar

def rule : Notion → Form
  | .module => moduleRule
  | .statement indent => statementRule indent
  | .statementLine indent => statementLineRule indent
  | .simpleStatement indent => simpleStatementRule indent
  | .suite indent =>
    suiteRule indent .block [.node "block" (the (.statementLine indent))]
  | .block indent => blockOf "block" indent (the (.statement indent))
  | .caseSuite indent => suiteRule indent .caseBlock []
  | .caseBlock indent => blockOf "block" indent (caseClause indent)
  | .comments indent => commentsRule indent
  | .expression least context => expressionRule least context
  | .expressions context => expressionsRule context
  | .operand context => operandRule context
  | .primary context => primaryRule context
  | .atom context => atomRule context
  | .yield context => yieldRule context
  | .target context => targetRule context
  | .targets context => targetsRule context
  | .assignment context => assignmentRule context
  | .assigned context => assignedRule context
  | .type colon context => typeRule colon context
  | .typeParameters indent => typeParametersRule indent
  | .parameter typed context => parameterRule typed context
  | .clauses context => clausesRule context
  | .arguments context => argumentsRule context
  | .looseSplat context => looseSplatRule context
  | .string context => stringRule context
  | .interpolation context => interpolationRule context
  | .casePattern => casePatternRule
  | .simplePattern => simplePatternRule
  | .dottedName indent => dottedNameRule indent

def rules : Rules Notion := ⟨rule, [whiteSpace, comment, lineContinuation]⟩

/-- The grammar of modules. -/
def grammar : Grammar := rules.tree .module

end ExportIndex.Python
