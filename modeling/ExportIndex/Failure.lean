import ExportIndex.FilePath

/-
This file names the reasons for which a source gives no records.
-/

namespace ExportIndex

/-- What a derived source does that it may not do. -/
inductive Violation where
  | elementsNotEnabled
  | withStatement
  | returnOutsideFunction
  | octalLiteral
  | octalEscape
  | deletedBinding
  | reservedWord
  | moduleItemInScript
  | duplicateBinding
  /-- A statement of an earlier version of the language, by its kind. -/
  | formerStatement (kind : String)
deriving DecidableEq, Repr

def Violation.message : Violation → String
  | .elementsNotEnabled => "JSX syntax is not enabled for this extension"
  | .withStatement => "'with' is not allowed in strict mode"
  | .returnOutsideFunction => "'return' outside of function"
  | .octalLiteral => "Octal literals are not allowed in strict mode"
  | .octalEscape => "Octal escape sequences are not allowed in strict mode"
  | .deletedBinding => "Deleting local variable in strict mode"
  | .reservedWord => "Reserved word used as identifier in strict mode"
  | .moduleItemInScript => "'import' and 'export' may appear only in modules"
  | .duplicateBinding => "Identifier has already been declared"
  | .formerStatement kind => "Python 2 " ++ kind ++ " is not valid Python 3"

inductive ParseFailure where
  | unsupportedExtension (path : FilePath)
  | fileTooLarge (path : FilePath) (bytes : Nat)
  /-- The grammar does not derive the text; the node is the first one at fault. -/
  | underivable (path : FilePath) (row column : Nat) (missing : Option String)
  | violated (path : FilePath) (row column : Nat) (violation : Violation)
  /-- A run of the interpreter took longer than so many milliseconds. -/
  | timedOut (path : FilePath) (limit : UInt64)
  /-- The interpreter did not start or did not succeed. -/
  | processFailed (path : FilePath)
  | emptyOutput (path : FilePath)
  | malformedOutput (path : FilePath)
deriving DecidableEq, Repr

namespace ParseFailure

/-- A decimal fraction of a unit without zeros at its end. -/
def fractionText (numerator places : Nat) : String :=
  let digits := (Nat.toDigits 10 numerator).leftpad places '0'
  let kept := (digits.reverse.dropWhile (· = '0')).reverse
  if kept = [] then "" else "." ++ String.ofList kept

/-- Seconds with their fraction, or milliseconds below a second. -/
def durationText (milliseconds : Nat) : String :=
  if milliseconds = 0 then "0ns"
  else if milliseconds < 1000 then toString milliseconds ++ "ms"
  else toString (milliseconds / 1000) ++ fractionText (milliseconds % 1000) 3 ++ "s"

def location (path : FilePath) (row column : Nat) : String :=
  path.text ++ ":" ++ toString row ++ ":" ++ toString column

def message : ParseFailure → String
  | unsupportedExtension path => "Unsupported file extension: " ++ path.text
  | fileTooLarge path bytes =>
    "File " ++ path.text ++ " exceeds maximum size (" ++ toString bytes ++ " bytes)"
  | underivable path row column missing =>
    "Syntax error in " ++ location path row column ++ ": " ++
      match missing with
      | some kind => "missing " ++ kind
      | none => "unexpected input"
  | violated path row column violation =>
    "Syntax error in " ++ location path row column ++ ": " ++ violation.message
  | timedOut path limit =>
    "External parser for " ++ path.text ++ " exceeded timeout of " ++ durationText limit.toNat
  | processFailed path => "External parser failed for " ++ path.text
  | emptyOutput path =>
    "Malformed output from external parser for " ++ path.text ++ ": empty output"
  | malformedOutput path => "Malformed output from external parser for " ++ path.text

/-- A file of another language is no failure worth counting. -/
def isUnsupported : ParseFailure → Bool
  | unsupportedExtension _ => true
  | _ => false

end ParseFailure

end ExportIndex
