import ExportIndex.Proofs.Json.Hexadecimal
import ExportIndex.TypeScript.StringLiteral
import Mathlib

/-
This file takes the decoding of a string literal apart: how it goes over a character and over a
backslash, and which numbers it takes for characters.
-/

namespace ExportIndex.TypeScript

section Steps

/-- An escape leaves no more of the text than there was behind its backslash. -/
theorem length_decodeEscape_le (rest : List Char) :
    (decodeEscape rest).2.length ≤ rest.length := by
  fun_cases decodeEscape rest
  case case3 rest _ =>
    have kept : (rest.dropWhile (· ≠ '\x7d')).length ≤ rest.length :=
      (List.dropWhile_sublist _).length_le
    grind
  all_goals grind

/-- More steps than there are characters change nothing. -/
theorem decodeFrom_congr {limit other : Nat} {characters : List Char}
    (enough : characters.length ≤ limit) (also : characters.length ≤ other) :
    decodeFrom limit characters = decodeFrom other characters := by
  induction limit generalizing other characters with
  | zero =>
    obtain rfl := List.length_eq_zero_iff.mp (Nat.le_zero.mp enough)
    cases other <;> rfl
  | succ limit ih =>
    cases characters with
    | nil => cases other <;> rfl
    | cons character rest =>
      obtain ⟨other, rfl⟩ := Nat.exists_eq_add_one_of_ne_zero (Nat.ne_zero_of_lt also)
      have first : rest.length ≤ limit := Nat.le_of_succ_le_succ enough
      have second : rest.length ≤ other := Nat.le_of_succ_le_succ also
      by_cases backslash : character = '\\'
      · have shorter := length_decodeEscape_le rest
        have behind := ih (shorter.trans first) (shorter.trans second)
        rw [backslash, decodeFrom, decodeFrom, behind]
      · rw [decodeFrom, decodeFrom, ih first second]
        all_goals simpa using backslash

@[simp] theorem decodeBody_nil : decodeBody [] = [] := rfl

theorem decodeBody_plain {character : Char} (plain : character ≠ '\\') (rest : List Char) :
    decodeBody (character :: rest) = character :: decodeBody rest := by
  rw [decodeBody, List.length_cons, decodeFrom, decodeBody]
  simpa using plain

theorem decodeBody_backslash (rest : List Char) :
    decodeBody ('\\' :: rest) = (decodeEscape rest).1 ++ decodeBody (decodeEscape rest).2 := by
  rw [decodeBody, List.length_cons, decodeFrom, decodeBody,
    decodeFrom_congr (length_decodeEscape_le rest) le_rfl]

/-- A text without backslashes stands for itself. -/
theorem decodeBody_eq_self {characters : List Char} (unescaped : '\\' ∉ characters) :
    decodeBody characters = characters := by
  induction characters with
  | nil => rfl
  | cons character rest ih =>
    rw [List.mem_cons, not_or] at unescaped
    rw [decodeBody_plain (Ne.symm unescaped.1), ih unescaped.2]

end Steps

theorem codePoint?_eq (code : Nat) :
    codePoint? code = if code.isValidChar then some (Char.ofNat code) else none := by
  have same : (code < 0xd800 || (0xe000 ≤ code && code < 0x110000)) = true ↔ code.isValidChar := by
    simp only [Bool.or_eq_true, Bool.and_eq_true, decide_eq_true_eq, Nat.isValidChar]
    omega
  rw [codePoint?]
  simp only [same]

end ExportIndex.TypeScript
