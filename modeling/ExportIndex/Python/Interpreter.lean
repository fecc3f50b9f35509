import ExportIndex.Failure
import ExportIndex.Json.Reader
import ExportIndex.Text.Blank

/-
This file finds the names in Python sources by running a program on them. The
program prints a list of names on its last line.
-/

namespace ExportIndex.Python

/-- How a run of a program ends. -/
inductive Outcome where
  /-- The program cannot be started. -/
  | absent
  | failed
  | printed (output : String)
  /-- The program does not stop by itself. -/
  | endless
deriving DecidableEq, Repr

/-- What there is to know of a program that takes a script and a source. -/
structure Program where
  answersVersion : Bool
  run : String → String → Outcome

/-- The programs that can be started, by name. -/
abbrev Programs := String → Option Program

def Programs.isAvailable (programs : Programs) (name : String) : Bool :=
  (programs name).any Program.answersVersion

/-- The lines of a text. -/
def linesOf (characters : List Char) : List (List Char) :=
  FilePath.partsAt '\n' characters

/-- The last line that is not blank, without the blanks around it. -/
def lastLine? (output : String) : Option (List Char) :=
  ((linesOf output.toList).reverse.map Text.trim).find? (· ≠ [])

/-- The names on the last line of an output. -/
def namesPrinted (path : FilePath) (output : String) : Except ParseFailure (List String) :=
  match lastLine? output with
  | none => .error (.emptyOutput path)
  | some line =>
    match (Json.read? line).bind (Json.toListOf? Json.toText?) with
    | some names => .ok names
    | none => .error (.malformedOutput path)

/-- The script that prints the names which statements of a module define. -/
def script : String := "\n".intercalate
  [ "import ast",
    "import json",
    "import sys",
    "",
    "",
    "def top_level_symbols(path):",
    "    with open(path, \"r\", encoding=\"utf-8\") as handle:",
    "        tree = ast.parse(handle.read(), filename=path)",
    "",
    "    names = []",
    "    for node in tree.body:",
    "        if isinstance(node, (ast.FunctionDef, ast.AsyncFunctionDef, ast.ClassDef)):",
    "            names.append(node.name)",
    "        elif isinstance(node, ast.Assign):",
    "            for target in node.targets:",
    "                if isinstance(target, ast.Name):",
    "                    names.append(target.id)",
    "    return [name for name in names if not name.startswith(\"_\")]",
    "",
    "",
    "if __name__ == \"__main__\":",
    "    try:",
    "        print(json.dumps(top_level_symbols(sys.argv[1])))",
    "    except Exception as exc:",
    "        print(\"\x7b\x7d: \x7b\x7d\".format(type(exc).__name__, exc), file=sys.stderr)",
    "        sys.exit(2)",
    "" ]

/-- The names that a program finds in a source within so many milliseconds. -/
def interpreted (programs : Programs) (name : String) (limit : UInt64) (path : FilePath)
    (source : String) : Except ParseFailure (List String) :=
  match programs name with
  | none => .error (.processFailed path)
  | some program =>
    match program.run script source with
    | .absent => .error (.processFailed path)
    | .endless => .error (.timedOut path limit)
    | .failed => if limit = 0 then .error (.timedOut path limit) else .error (.processFailed path)
    | .printed output =>
      if limit = 0 then .error (.timedOut path limit) else namesPrinted path output

end ExportIndex.Python
