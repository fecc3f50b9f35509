import ExportIndex.Python.Interpreter

/-
This file describes the standard programs that can stand in for an interpreter.
-/

namespace ExportIndex.Python

/-- The program prints the files that it gets. -/
def concatenation : Program := ⟨true, fun script source => .printed (script ++ source)⟩

/-- The program succeeds and prints nothing. -/
def success : Program := ⟨true, fun _ _ => .printed ""⟩

def failure : Program := ⟨false, fun _ _ => .failed⟩

/-- The program prints the names of the files that it gets. -/
def echo : Program := ⟨true, fun _ _ => .printed "script.py source.py\n"⟩

/-- The program knows its version but no meaning of two files. -/
def arithmetic : Program := ⟨true, fun _ _ => .failed⟩

/-- The program repeats the names of the files that it gets. -/
def repetition : Program := ⟨true, fun _ _ => .endless⟩

/-- The programs of a plain system, on which no interpreter is installed. -/
def standardPrograms : Programs := fun name =>
  match name with
  | "cat" => some concatenation
  | "true" => some success
  | "false" => some failure
  | "echo" => some echo
  | "expr" => some arithmetic
  | "yes" => some repetition
  | _ => none

end ExportIndex.Python
