import ExportIndex.Json.Reader
import Mathlib

/-
This file defines the number that hexadecimal digits write, and shows that the reader finds it.
-/

namespace ExportIndex.Json

/-- The digits, each at the place that is its value. -/
def hexadecimalDigits : List Char :=
  ['0', '1', '2', '3', '4', '5', '6', '7', '8', '9', 'a', 'b', 'c', 'd', 'e', 'f']

/-- Digits may be small or capital letters. -/
def IsHexadecimal (character : Char) : Prop := character.toLower ∈ hexadecimalDigits

instance (character : Char) : Decidable (IsHexadecimal character) :=
  inferInstanceAs (Decidable (_ ∈ _))

def AreHexadecimal (characters : List Char) : Prop :=
  ∀ character ∈ characters, IsHexadecimal character

-- Otherwise the instance for all characters is found, which tries every one of them.
instance (characters : List Char) : Decidable (AreHexadecimal characters) :=
  List.decidableBAll IsHexadecimal characters

def digitValue (digit : Char) : Nat := hexadecimalDigits.idxOf digit.toLower

/-- The number that digits write. -/
def hexadecimalValue (digits : List Char) : Nat :=
  digits.foldl (fun value digit => 16 * value + digitValue digit) 0

theorem hexValue?_of_ascii : ∀ code < 128, hexValue? (Char.ofNat code) =
    if IsHexadecimal (Char.ofNat code) then some (digitValue (Char.ofNat code)) else none := by
  decide

theorem not_isHexadecimal {character : Char} (foreign : 128 ≤ character.toNat) :
    ¬ IsHexadecimal character := by
  have unchanged : character.toLower = character := by
    apply Char.toLower_eq_of_not_isUpper
    intro upper
    have least : character.toNat ≤ 'Z'.toNat := by
      simp only [Char.isUpper, decide_eq_true_eq] at upper
      exact upper.2
    exact absurd (foreign.trans least) (by decide)
  have small : ∀ digit ∈ hexadecimalDigits, digit.toNat < 128 := by simp [hexadecimalDigits]
  rw [IsHexadecimal, unchanged]
  exact fun member => absurd (small character member) (Nat.not_lt.mpr foreign)

theorem hexValue?_eq (character : Char) : hexValue? character =
    if IsHexadecimal character then some (digitValue character) else none := by
  by_cases ascii : character.toNat < 128
  · have same := hexValue?_of_ascii character.toNat ascii
    rwa [Char.ofNat_toNat] at same
  · have foreign := Nat.le_of_not_lt ascii
    have above (bound : Char) (small : bound.toNat < 128) : ¬ character ≤ bound :=
      fun below => absurd (foreign.trans below) (Nat.not_le.mpr small)
    rw [if_neg (not_isHexadecimal foreign), hexValue?]
    simp [above]

theorem areHexadecimal_concat (digits : List Char) (digit : Char) :
    AreHexadecimal (digits ++ [digit]) ↔ AreHexadecimal digits ∧ IsHexadecimal digit := by
  rw [AreHexadecimal, List.forall_mem_append, List.forall_mem_singleton, AreHexadecimal]

theorem hexadecimalValue_concat (digits : List Char) (digit : Char) :
    hexadecimalValue (digits ++ [digit]) = 16 * hexadecimalValue digits + digitValue digit := by
  rw [hexadecimalValue, List.foldl_append]
  rfl

theorem hexNumber?_concat (digits : List Char) (digit : Char) :
    hexNumber? (digits ++ [digit]) = (hexNumber? digits).bind fun value =>
      (hexValue? digit).map (16 * value + ·) := by
  rw [hexNumber?, List.foldl_append, ← hexNumber?]
  simp [Option.map_eq_bind]

/-- Digits have a number, and other texts have none. -/
theorem hexNumber?_eq (digits : List Char) : hexNumber? digits =
    if AreHexadecimal digits then some (hexadecimalValue digits) else none := by
  induction digits using List.reverseRecOn with
  | nil => rfl
  | append_singleton digits digit ih =>
    rw [hexNumber?_concat, ih, hexValue?_eq, hexadecimalValue_concat]
    simp only [areHexadecimal_concat, ite_and]
    split_ifs <;> rfl

theorem digitValue_lt {digit : Char} (isDigit : IsHexadecimal digit) : digitValue digit < 16 :=
  List.idxOf_lt_length_iff.mpr isDigit

theorem hexadecimalValue_lt {digits : List Char} (areDigits : AreHexadecimal digits) :
    hexadecimalValue digits < 16 ^ digits.length := by
  induction digits using List.reverseRecOn with
  | nil => decide
  | append_singleton digits digit ih =>
    obtain ⟨before, last⟩ := (areHexadecimal_concat digits digit).mp areDigits
    have bound := ih before
    have least := digitValue_lt last
    rw [hexadecimalValue_concat, List.length_append, List.length_singleton, Nat.pow_succ]
    omega

end ExportIndex.Json
