/-
This file decodes bytes as UTF-8. Each maximal invalid part becomes one
replacement character, so the decoding accepts every list of bytes.
-/

namespace ExportIndex.Text.Utf8

/-- The substitute for a part that is no UTF-8. -/
def replacement : Char := Char.ofNat 0xfffd

/-- What the first byte of a sequence demands of the others. -/
structure Lead where
  /-- The number of bytes that follow. -/
  tails : Nat
  /-- The bits that the first byte contributes. -/
  bits : Nat
  /-- The least second byte. -/
  least : UInt8
  /-- The greatest second byte. -/
  greatest : UInt8

/-- A second byte is narrowed where overlong forms, surrogates or numbers above
the last code point would start. -/
def lead? (byte : UInt8) : Option Lead :=
  if byte < 0x80 then some ⟨0, byte.toNat, 0x80, 0xbf⟩
  else if byte < 0xc2 then none
  else if byte < 0xe0 then some ⟨1, byte.toNat - 0xc0, 0x80, 0xbf⟩
  else if byte == 0xe0 then some ⟨2, 0, 0xa0, 0xbf⟩
  else if byte == 0xed then some ⟨2, 0xd, 0x80, 0x9f⟩
  else if byte < 0xf0 then some ⟨2, byte.toNat - 0xe0, 0x80, 0xbf⟩
  else if byte == 0xf0 then some ⟨3, 0, 0x90, 0xbf⟩
  else if byte < 0xf4 then some ⟨3, byte.toNat - 0xf0, 0x80, 0xbf⟩
  else if byte == 0xf4 then some ⟨3, 4, 0x80, 0x8f⟩
  else none

/-- Reads up to `count` bytes, the first of them between the bounds and the
others tails. The number is missing if a byte does not fit. -/
def tails (count bits : Nat) (least greatest : UInt8) :
    List UInt8 → Option Nat × List UInt8
  | rest =>
    match count, rest with
    | 0, rest => (some bits, rest)
    | _ + 1, [] => (none, [])
    | count + 1, byte :: rest =>
      if least ≤ byte && byte ≤ greatest then
        tails count (bits * 64 + (byte.toNat - 0x80)) 0x80 0xbf rest
      else (none, byte :: rest)

theorem tailsLength (count bits : Nat) (least greatest : UInt8) (bytes : List UInt8) :
    (tails count bits least greatest bytes).2.length ≤ bytes.length := by
  induction count generalizing bits least greatest bytes with
  | zero => simp [tails]
  | succ count inductionHypothesis =>
      cases bytes with
      | nil => simp [tails]
      | cons byte rest =>
          rw [tails]
          split
          · exact Nat.le_succ_of_le (inductionHypothesis ..)
          · simp

/-- One character, and the bytes behind it. -/
def step (byte : UInt8) (rest : List UInt8) : Char × List UInt8 :=
  match lead? byte with
  | none => (replacement, rest)
  | some lead =>
    match tails lead.tails lead.bits lead.least lead.greatest rest with
    | (some code, rest) => (Char.ofNat code, rest)
    | (none, rest) => (replacement, rest)

theorem stepLength (byte : UInt8) (rest : List UInt8) :
    (step byte rest).2.length ≤ rest.length := by
  rw [step]
  split
  · exact Nat.le_refl _
  · rename_i lead _
    have bound := tailsLength lead.tails lead.bits lead.least lead.greatest rest
    split <;> rename_i read <;> rw [read] at bound <;> exact bound

def decode : List UInt8 → List Char
  | [] => []
  | byte :: rest => (step byte rest).1 :: decode (step byte rest).2
termination_by bytes => bytes.length
decreasing_by exact Nat.lt_succ_of_le (stepLength byte rest)

end ExportIndex.Text.Utf8
