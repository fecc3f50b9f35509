import ExportIndex.Text.Utf8
import Mathlib

/-
This file divides bytes into the encodings of characters and the parts that break the encoding.
The decoding replaces each broken part, so that the text may be longer than the bytes.
-/

namespace ExportIndex.Text.Utf8

open String (utf8EncodeChar)

/-- The first bytes begin no encoding that goes on as the bytes do. They are as many as may begin
one, or a single byte. -/
structure Breaks (first behind : List UInt8) : Prop where
  notEmpty : first ≠ []
  begins : first.length = 1 ∨ ∃ character, first <+: utf8EncodeChar character
  longest : ∀ byte, [byte] <+: behind → ∀ character, ¬ first ++ [byte] <+: utf8EncodeChar character
  incomplete : ∀ character, ¬ utf8EncodeChar character <+: first ++ behind

/-- A part of some bytes: the encoding of a character, or bytes that begin none. -/
inductive Part where
  | encoded (character : Char)
  | broken (bytes : List UInt8)

namespace Part

/-- What the decoding makes of a part. -/
def decoded : Part → Char
  | encoded character => character
  | broken _ => replacement

/-- How much longer a part gets. A replacement takes three bytes. -/
def excess : Part → Nat
  | encoded _ => 0
  | broken bytes => 3 - bytes.length

end Part

def excess (parts : List Part) : Nat := (parts.map Part.excess).sum

/-- The bytes are divided into parts. -/
inductive Divides : List UInt8 → List Part → Prop
  | nil : Divides [] []
  | encoded {bytes : List UInt8} {parts : List Part} (character : Char)
      (behind : Divides bytes parts) :
      Divides (utf8EncodeChar character ++ bytes) (.encoded character :: parts)
  | broken {first bytes : List UInt8} {parts : List Part} (breaks : Breaks first bytes)
      (behind : Divides bytes parts) : Divides (first ++ bytes) (.broken first :: parts)

section Numbers

/-- The bytes of the character with a code. -/
theorem utf8EncodeChar_ofNat {code : Nat}
    (valid : code < 0xd800 ∨ 0xdfff < code ∧ code < 0x110000) :
    utf8EncodeChar (Char.ofNat code) =
      if code ≤ 127 then [UInt8.ofNat code]
      else if code ≤ 2047 then [UInt8.ofNat (code / 64 + 192), UInt8.ofNat (code % 64 + 128)]
      else if code ≤ 65535 then
        [UInt8.ofNat (code / 4096 + 224), UInt8.ofNat (code / 64 % 64 + 128),
          UInt8.ofNat (code % 64 + 128)]
      else
        [UInt8.ofNat (code / 262144 + 240), UInt8.ofNat (code / 4096 % 64 + 128),
          UInt8.ofNat (code / 64 % 64 + 128), UInt8.ofNat (code % 64 + 128)] := by
  have number : (Char.ofNat code).val.toNat = code :=
    (Char.toNat_ofNat code).trans (if_pos valid)
  have below : code < 0x110000 := by omega
  simp only [utf8EncodeChar, number]
  split_ifs
  · rfl
  · rw [Nat.mod_eq_of_lt (by omega : code / 64 < 32)]
  · rw [Nat.mod_eq_of_lt (by omega : code / 4096 < 16)]
  · rw [Nat.mod_eq_of_lt (by omega : code / 262144 < 8)]

theorem eq_ofNat {byte : UInt8} {code : Nat} (same : byte.toNat = code) : byte = UInt8.ofNat code :=
  (UInt8.ofNat_toNat.symm).trans (congrArg _ same)

theorem one_byte {first : UInt8} (low : first.toNat ≤ 127) :
    utf8EncodeChar (Char.ofNat first.toNat) = [first] := by
  rw [utf8EncodeChar_ofNat (by omega), if_pos low, ← eq_ofNat rfl]

theorem two_bytes {bits : Nat} {first second : UInt8} (leads : first.toNat = 192 + bits)
    (least : 2 ≤ bits) (greatest : bits < 32)
    (tail : 128 ≤ second.toNat ∧ second.toNat ≤ 191) :
    utf8EncodeChar (Char.ofNat (bits * 64 + (second.toNat - 128))) = [first, second] := by
  generalize code : bits * 64 + (second.toNat - 128) = number
  rw [utf8EncodeChar_ofNat (by omega), if_neg (by omega), if_pos (by omega),
    ← eq_ofNat (by omega : first.toNat = _), ← eq_ofNat (by omega : second.toNat = _)]

theorem three_bytes {bits : Nat} {first second third : UInt8} (leads : first.toNat = 224 + bits)
    (greatest : bits < 16) (tail : 128 ≤ second.toNat ∧ second.toNat ≤ 191)
    (shortest : bits = 0 → 160 ≤ second.toNat) (valid : bits = 13 → second.toNat ≤ 159)
    (last : 128 ≤ third.toNat ∧ third.toNat ≤ 191) :
    utf8EncodeChar (Char.ofNat ((bits * 64 + (second.toNat - 128)) * 64 + (third.toNat - 128))) =
      [first, second, third] := by
  generalize code : (bits * 64 + (second.toNat - 128)) * 64 + (third.toNat - 128) = number
  rw [utf8EncodeChar_ofNat (by omega), if_neg (by omega), if_neg (by omega), if_pos (by omega),
    ← eq_ofNat (by omega : first.toNat = _), ← eq_ofNat (by omega : second.toNat = _),
    ← eq_ofNat (by omega : third.toNat = _)]

theorem four_bytes {bits : Nat} {first second third fourth : UInt8}
    (leads : first.toNat = 240 + bits) (greatest : bits < 5)
    (tail : 128 ≤ second.toNat ∧ second.toNat ≤ 191) (shortest : bits = 0 → 144 ≤ second.toNat)
    (valid : bits = 4 → second.toNat ≤ 143) (next : 128 ≤ third.toNat ∧ third.toNat ≤ 191)
    (last : 128 ≤ fourth.toNat ∧ fourth.toNat ≤ 191) :
    utf8EncodeChar (Char.ofNat (((bits * 64 + (second.toNat - 128)) * 64 + (third.toNat - 128)) * 64
      + (fourth.toNat - 128))) = [first, second, third, fourth] := by
  generalize code : ((bits * 64 + (second.toNat - 128)) * 64 + (third.toNat - 128)) * 64 +
    (fourth.toNat - 128) = number
  rw [utf8EncodeChar_ofNat (by omega), if_neg (by omega), if_neg (by omega), if_neg (by omega),
    ← eq_ofNat (by omega : first.toNat = _), ← eq_ofNat (by omega : second.toNat = _),
    ← eq_ofNat (by omega : third.toNat = _), ← eq_ofNat (by omega : fourth.toNat = _)]

end Numbers

section Reading

/-- The first bytes of encodings, by how many tails they demand. The bounds of the second byte rule
out encodings that are too long, surrogates and codes beyond the last one. -/
inductive Leads (byte : UInt8) : Lead → Prop
  | one (below : byte.toNat < 128) : Leads byte ⟨0, byte.toNat, 0x80, 0xbf⟩
  | two (bits : Nat) (first : byte.toNat = 192 + bits) (shortest : 2 ≤ bits) (below : bits < 32) :
      Leads byte ⟨1, bits, 0x80, 0xbf⟩
  | three (bits : Nat) (first : byte.toNat = 224 + bits) (below : bits < 16) :
      Leads byte ⟨2, bits, if bits = 0 then 0xa0 else 0x80, if bits = 13 then 0x9f else 0xbf⟩
  | four (bits : Nat) (first : byte.toNat = 240 + bits) (below : bits < 5) :
      Leads byte ⟨3, bits, if bits = 0 then 0x90 else 0x80, if bits = 4 then 0x8f else 0xbf⟩

theorem leads_iff {byte : UInt8} {lead : Lead} : lead? byte = some lead ↔ Leads byte lead := by
  have below := byte.toNat_lt
  simp only [lead?, UInt8.lt_iff_toNat_lt, beq_iff_eq, ← UInt8.toNat_inj, UInt8.reduceToNat]
  constructor
  · intro leads
    split_ifs at leads with one low two three surrogate other four further last <;>
      obtain rfl := Option.some.inj leads
    · exact .one one
    · exact .two _ (by omega) (by omega) (by omega)
    · exact .three 0 three (by decide)
    · exact .three 13 surrogate (by decide)
    · have leads : Leads byte _ := .three (byte.toNat - 224) (by omega) (by omega)
      rwa [if_neg (by omega), if_neg (by omega)] at leads
    · exact .four 0 four (by decide)
    · have leads : Leads byte _ := .four (byte.toNat - 240) (by omega) (by omega)
      rwa [if_neg (by omega), if_neg (by omega)] at leads
    · exact .four 4 last (by decide)
  · intro leads
    cases leads with
    | one below => rw [if_pos below]
    | two _ first shortest below =>
      rw [if_neg (by omega), if_neg (by omega), if_pos (by omega), first, Nat.add_sub_cancel_left]
    | three bits first below =>
      rw [if_neg (by omega), if_neg (by omega), if_neg (by omega), first, Nat.add_sub_cancel_left]
      by_cases shortest : bits = 0
      · rw [shortest]
        rfl
      · by_cases surrogate : bits = 13
        · rw [surrogate]
          rfl
        · rw [if_neg (by omega), if_neg (by omega), if_pos (by omega), if_neg shortest,
            if_neg surrogate]
    | four bits first below =>
      rw [if_neg (by omega), if_neg (by omega), if_neg (by omega), if_neg (by omega),
        if_neg (by omega), if_neg (by omega), first]
      by_cases shortest : bits = 0
      · rw [shortest]
        rfl
      · by_cases last : bits = 4
        · rw [last]
          rfl
        · rw [if_neg (by omega), if_pos (by omega), Nat.add_sub_cancel_left, if_neg shortest,
            if_neg last]

theorem tails_zero_iff {bits code : Nat} {least greatest : UInt8} {bytes behind : List UInt8} :
    tails 0 bits least greatest bytes = (some code, behind) ↔ code = bits ∧ bytes = behind := by
  rw [tails, Prod.mk.injEq, Option.some.injEq, eq_comm]

theorem tails_succ_iff {count bits code : Nat} {least greatest : UInt8}
    {bytes behind : List UInt8} :
    tails (count + 1) bits least greatest bytes = (some code, behind) ↔
      ∃ byte rest, bytes = byte :: rest ∧ (least.toNat ≤ byte.toNat ∧ byte.toNat ≤ greatest.toNat) ∧
        tails count (bits * 64 + (byte.toNat - 0x80)) 0x80 0xbf rest = (some code, behind) := by
  cases bytes with
  | nil => simp [tails]
  | cons byte rest =>
    rw [tails]
    by_cases fits : least ≤ byte ∧ byte ≤ greatest
    · simp [fits, ← UInt8.le_iff_toNat_le]
    · rw [if_neg (by simpa using fits)]
      simp only [UInt8.le_iff_toNat_le] at fits
      simp [fits]

/-- A first byte and the tails that it demands encode the character whose code they give. -/
theorem encoding_of_reads {byte : UInt8} {rest behind : List UInt8} {lead : Lead} {code : Nat}
    (leads : lead? byte = some lead)
    (reads : tails lead.tails lead.bits lead.least lead.greatest rest = (some code, behind)) :
    byte :: rest = utf8EncodeChar (Char.ofNat code) ++ behind := by
  cases leads_iff.mp leads with
  | one below =>
    obtain ⟨rfl, rfl⟩ := tails_zero_iff.mp reads
    rw [one_byte (by omega)]
    rfl
  | two _ first shortest below =>
    simp only [tails_succ_iff, tails_zero_iff, UInt8.reduceToNat] at reads
    obtain ⟨second, _, rfl, tail, number, rfl⟩ := reads
    rw [number, two_bytes first shortest below tail]
    rfl
  | three _ first below =>
    simp only [tails_succ_iff, tails_zero_iff, apply_ite UInt8.toNat, UInt8.reduceToNat] at reads
    obtain ⟨second, _, rfl, tail, third, _, rfl, last, number, rfl⟩ := reads
    rw [number, three_bytes first below (by split_ifs at tail <;> omega)
      (by split_ifs at tail <;> omega) (by split_ifs at tail <;> omega) last]
    rfl
  | four _ first below =>
    simp only [tails_succ_iff, tails_zero_iff, apply_ite UInt8.toNat, UInt8.reduceToNat] at reads
    obtain ⟨second, _, rfl, tail, third, _, rfl, next, fourth, _, rfl, last, number, rfl⟩ := reads
    rw [number, four_bytes first below (by split_ifs at tail <;> omega)
      (by split_ifs at tail <;> omega) (by split_ifs at tail <;> omega) next last]
    rfl

/-- The tails of an encoding are read. -/
theorem tails_ofNat {count bits number : Nat} {least greatest : UInt8} {rest : List UInt8}
    (fits : least.toNat ≤ number % 64 + 128 ∧ number % 64 + 128 ≤ greatest.toNat) :
    tails (count + 1) bits least greatest (UInt8.ofNat (number % 64 + 128) :: rest) =
      tails count (bits * 64 + number % 64) 0x80 0xbf rest := by
  have byte : (UInt8.ofNat (number % 64 + 128)).toNat = number % 64 + 128 := by
    rw [UInt8.toNat_ofNat', Nat.mod_eq_of_lt (by omega)]
  rw [tails, if_pos (by simpa only [Bool.and_eq_true, decide_eq_true_iff, UInt8.le_iff_toNat_le,
    byte] using fits), byte, Nat.add_sub_cancel]

/-- The decoding reads what has been encoded. -/
theorem reads_of_encoding {byte : UInt8} {rest behind : List UInt8} {character : Char}
    (encoded : byte :: rest = utf8EncodeChar character ++ behind) :
    ∃ lead, lead? byte = some lead ∧
      tails lead.tails lead.bits lead.least lead.greatest rest =
        (some character.toNat, behind) := by
  have valid : character.toNat < 0xd800 ∨ 0xdfff < character.toNat ∧ character.toNat < 0x110000 :=
    character.valid
  have inner (number : Nat) : (0x80 : UInt8).toNat ≤ number % 64 + 128 ∧
      number % 64 + 128 ≤ (0xbf : UInt8).toNat := by
    simp only [UInt8.reduceToNat]
    omega
  rw [← Char.ofNat_toNat character, utf8EncodeChar_ofNat valid] at encoded
  generalize character.toNat = code at *
  split_ifs at encoded with one two three <;>
    obtain ⟨first, rfl⟩ := List.cons.inj encoded <;>
    have first := (congrArg UInt8.toNat first).trans
      ((UInt8.toNat_ofNat' ..).trans (Nat.mod_eq_of_lt (by omega)))
  · exact ⟨_, leads_iff.mpr (.one (by omega)), tails_zero_iff.mpr ⟨first.symm, rfl⟩⟩
  · refine ⟨_, leads_iff.mpr (.two (code / 64) (by omega) (by omega) (by omega)), ?_⟩
    refine (tails_ofNat (inner code)).trans (tails_zero_iff.mpr ⟨?_, rfl⟩)
    dsimp only
    omega
  · refine ⟨_, leads_iff.mpr (.three (code / 4096) (by omega) (by omega)), ?_⟩
    refine (tails_ofNat ?_).trans ((tails_ofNat (inner code)).trans
      (tails_zero_iff.mpr ⟨?_, rfl⟩))
    · simp only [apply_ite UInt8.toNat, UInt8.reduceToNat]
      split_ifs <;> omega
    · dsimp only
      omega
  · refine ⟨_, leads_iff.mpr (.four (code / 262144) (by omega) (by omega)), ?_⟩
    refine (tails_ofNat ?_).trans ((tails_ofNat (inner (code / 64))).trans
      ((tails_ofNat (inner code)).trans (tails_zero_iff.mpr ⟨?_, rfl⟩)))
    · simp only [apply_ite UInt8.toNat, UInt8.reduceToNat]
      split_ifs <;> omega
    · dsimp only
      omega

section Breaking

variable {count bits : Nat} {least greatest : UInt8}

theorem tails_fit {byte : UInt8} (rest : List UInt8) (fits : least ≤ byte ∧ byte ≤ greatest) :
    tails (count + 1) bits least greatest (byte :: rest) =
      tails count (bits * 64 + (byte.toNat - 0x80)) 0x80 0xbf rest := by
  rw [tails, if_pos (by simpa using fits)]

theorem tails_unfit {byte : UInt8} (rest : List UInt8)
    (unfit : ¬ (least ≤ byte ∧ byte ≤ greatest)) :
    tails (count + 1) bits least greatest (byte :: rest) = (none, byte :: rest) := by
  rw [tails, if_neg (by simpa using unfit)]

/-- Tails that are missing can be added. -/
theorem exists_tails (count bits : Nat) (bounds : least ≤ greatest) :
    ∃ more code, tails count bits least greatest more = (some code, []) := by
  induction count generalizing bits least greatest with
  | zero => exact ⟨[], bits, tails_zero_iff.mpr ⟨rfl, rfl⟩⟩
  | succ count inductionHypothesis =>
    obtain ⟨more, code, reads⟩ :=
      inductionHypothesis (bits * 64 + (least.toNat - 0x80)) (by decide : (0x80 : UInt8) ≤ 0xbf)
    exact ⟨least :: more, code, (tails_fit more ⟨UInt8.le_refl least, bounds⟩).trans reads⟩

/-- Where tails break off, what has been read may go on, but not with the next byte. -/
theorem tails_none {bytes behind : List UInt8} (bounds : least ≤ greatest)
    (breaks : tails count bits least greatest bytes = (none, behind)) :
    ∃ read, bytes = read ++ behind ∧
      (∃ more code, tails count bits least greatest (read ++ more) = (some code, [])) ∧
      ∀ byte, [byte] <+: behind → ∀ more code last,
        tails count bits least greatest (read ++ byte :: more) ≠ (some code, last) := by
  induction count generalizing bits least greatest bytes with
  | zero => cases breaks
  | succ count inductionHypothesis =>
    cases bytes with
    | nil =>
      rw [tails] at breaks
      obtain rfl : [] = behind := (Prod.mk.inj breaks).2
      exact ⟨[], rfl, exists_tails _ _ bounds, fun byte next => by simp at next⟩
    | cons byte rest =>
      by_cases fits : least ≤ byte ∧ byte ≤ greatest
      · rw [tails_fit rest fits] at breaks
        obtain ⟨read, rfl, ⟨more, code, ends⟩, stops⟩ := inductionHypothesis (by decide) breaks
        refine ⟨byte :: read, rfl, ⟨more, code, (tails_fit _ fits).trans ends⟩, ?_⟩
        intro next here more code last
        rw [List.cons_append, tails_fit _ fits]
        exact stops next here more code last
      · rw [tails_unfit rest fits] at breaks
        obtain rfl : byte :: rest = behind := (Prod.mk.inj breaks).2
        refine ⟨[], rfl, exists_tails _ _ bounds, fun next here more code last reads => ?_⟩
        obtain rfl : next = byte := by simpa using here
        rw [List.nil_append, tails_unfit more fits] at reads
        cases reads

end Breaking

theorem leads_bounds {byte : UInt8} {lead : Lead} (leads : lead? byte = some lead) :
    lead.least ≤ lead.greatest := by
  cases leads_iff.mp leads with
  | one | two => exact (by decide : (0x80 : UInt8) ≤ 0xbf)
  | three | four =>
    simp only [UInt8.le_iff_toNat_le, apply_ite UInt8.toNat, UInt8.reduceToNat]
    split_ifs <;> omega

/-- A step passes the encoding of a character, or else bytes that break the encoding. -/
theorem step_cases (byte : UInt8) (rest : List UInt8) :
    byte :: rest = utf8EncodeChar (step byte rest).1 ++ (step byte rest).2 ∨
      ∃ first, byte :: rest = first ++ (step byte rest).2 ∧ (step byte rest).1 = replacement ∧
        Breaks first (step byte rest).2 := by
  rw [step]
  split
  · next noLead =>
    refine .inr ⟨[byte], rfl, rfl, by simp, .inl rfl, fun next here character begins => ?_,
      fun character begins => ?_⟩
    · obtain ⟨more, encoded⟩ := begins
      obtain ⟨lead, leads, _⟩ := reads_of_encoding (encoded.trans (List.append_nil _).symm)
      rw [noLead] at leads
      cases leads
    · obtain ⟨more, encoded⟩ := begins
      obtain ⟨lead, leads, _⟩ := reads_of_encoding encoded.symm
      rw [noLead] at leads
      cases leads
  · next lead leads =>
    split
    · next code behind reads =>
      exact .inl (encoding_of_reads leads reads)
    · next behind breaks =>
      obtain ⟨read, rfl, ⟨more, code, ends⟩, stops⟩ := tails_none (leads_bounds leads) breaks
      refine .inr ⟨byte :: read, rfl, rfl, by simp, .inr ⟨Char.ofNat code, ?_⟩, ?_, ?_⟩
      · exact ⟨more, (encoding_of_reads leads ends).trans (List.append_nil _)⟩
      · rintro next here character ⟨more, encoded⟩
        simp only [List.cons_append, List.append_assoc, List.nil_append] at encoded
        obtain ⟨_, sameLead, reads⟩ := reads_of_encoding (encoded.trans (List.append_nil _).symm)
        obtain rfl := Option.some.inj (leads.symm.trans sameLead)
        exact stops next here _ _ _ reads
      · rintro character ⟨more, encoded⟩
        obtain ⟨_, sameLead, reads⟩ := reads_of_encoding encoded.symm
        obtain rfl := Option.some.inj (leads.symm.trans sameLead)
        cases breaks.symm.trans reads

end Reading

section Division

variable {bytes : List UInt8} {parts : List Part}

theorem exists_divides (bytes : List UInt8) :
    ∃ parts, Divides bytes parts ∧ decode bytes = parts.map Part.decoded := by
  induction bytes using decode.induct with
  | case1 => exact ⟨[], .nil, by rw [decode]; rfl⟩
  | case2 byte rest inductionHypothesis =>
    obtain ⟨parts, divides, decoded⟩ := inductionHypothesis
    rw [decode, decoded]
    rcases step_cases byte rest with encoded | ⟨first, split, replaced, breaks⟩
    · exact ⟨.encoded _ :: parts, encoded ▸ .encoded _ divides, rfl⟩
    · refine ⟨.broken first :: parts, split ▸ .broken breaks divides, ?_⟩
      rw [replaced]
      rfl

theorem utf8EncodeChar_ne_nil (character : Char) : utf8EncodeChar character ≠ [] := by
  rw [← List.length_pos_iff, String.length_utf8EncodeChar]
  exact character.utf8Size_pos

/-- No encoding begins another one. -/
theorem utf8EncodeChar_append_inj {character other : Char} {behind rest : List UInt8}
    (same : utf8EncodeChar character ++ behind = utf8EncodeChar other ++ rest) :
    character = other ∧ behind = rest := by
  obtain ⟨byte, more, split⟩ := List.exists_cons_of_ne_nil
    (List.append_ne_nil_of_left_ne_nil (utf8EncodeChar_ne_nil character) behind)
  obtain ⟨lead, leads, reads⟩ := reads_of_encoding split.symm
  obtain ⟨_, sameLead, readsOther⟩ := reads_of_encoding (split.symm.trans same)
  obtain rfl := Option.some.inj (leads.symm.trans sameLead)
  have read := Prod.mk.inj (reads.symm.trans readsOther)
  exact ⟨Char.toNat_inj.mp (Option.some.inj read.1), read.2⟩

namespace Breaks

variable {first other behind rest : List UInt8}

theorem length_le_three (breaks : Breaks first behind) : first.length ≤ 3 := by
  rcases breaks.begins with one | ⟨character, begins⟩
  · omega
  · have size := (String.length_utf8EncodeChar character).trans_le character.utf8Size_le_four
    by_contra long
    have whole := begins.eq_of_length_le (by omega)
    exact breaks.incomplete character (whole ▸ List.prefix_append first behind)

theorem eq_nil_of_append {more : List UInt8} (breaks : Breaks first (more ++ rest))
    (longer : Breaks (first ++ more) rest) : more = [] := by
  cases more with
  | nil => rfl
  | cons byte more =>
    have inside : first ++ [byte] <+: first ++ byte :: more :=
      (List.prefix_append_right_inj first).mpr (List.prefix_append [byte] more)
    have next : [byte] <+: byte :: more ++ rest := List.prefix_append [byte] (more ++ rest)
    rcases longer.begins with one | ⟨character, begins⟩
    · have some := List.length_pos_iff.mpr breaks.notEmpty
      rw [List.length_append, List.length_cons] at one
      omega
    · exact absurd (inside.trans begins) (breaks.longest byte next character)

theorem unique (breaks : Breaks first behind) (breaksOther : Breaks other rest)
    (same : first ++ behind = other ++ rest) : first = other ∧ behind = rest := by
  rcases List.append_eq_append_iff.mp same with ⟨more, rfl, rfl⟩ | ⟨more, rfl, rfl⟩
  · obtain rfl := breaks.eq_nil_of_append breaksOther
    exact ⟨(List.append_nil first).symm, rfl⟩
  · obtain rfl := breaksOther.eq_nil_of_append breaks
    exact ⟨List.append_nil other, rfl⟩

end Breaks

/-- Bytes are divided in one way. -/
theorem Divides.unique {others : List Part} (divides : Divides bytes parts)
    (dividesOther : Divides bytes others) : parts = others := by
  induction divides generalizing others with
  | nil =>
    generalize whole : [] = bytes at dividesOther
    cases dividesOther with
    | nil => rfl
    | encoded character =>
      exact absurd whole.symm (List.append_ne_nil_of_left_ne_nil (utf8EncodeChar_ne_nil _) _)
    | broken breaks => exact absurd whole.symm (List.append_ne_nil_of_left_ne_nil breaks.notEmpty _)
  | @encoded bytes parts character _ inductionHypothesis =>
    generalize whole : utf8EncodeChar character ++ bytes = all at dividesOther
    cases dividesOther with
    | nil => exact absurd whole (List.append_ne_nil_of_left_ne_nil (utf8EncodeChar_ne_nil _) _)
    | encoded other behind =>
      obtain ⟨rfl, rfl⟩ := utf8EncodeChar_append_inj whole
      rw [inductionHypothesis behind]
    | broken breaks => exact absurd (whole ▸ List.prefix_append _ _) (breaks.incomplete character)
  | @broken first bytes parts breaks _ inductionHypothesis =>
    generalize whole : first ++ bytes = all at dividesOther
    cases dividesOther with
    | nil => exact absurd whole (List.append_ne_nil_of_left_ne_nil breaks.notEmpty _)
    | encoded other => exact absurd (whole ▸ List.prefix_append _ _) (breaks.incomplete other)
    | broken breaksOther behind =>
      obtain ⟨rfl, rfl⟩ := breaks.unique breaksOther whole
      rw [inductionHypothesis behind]

theorem decode_eq (divides : Divides bytes parts) : decode bytes = parts.map Part.decoded := by
  obtain ⟨others, dividesOther, decoded⟩ := exists_divides bytes
  rw [divides.unique dividesOther, decoded]

/-- The text is longer than the bytes by what the replacements take more. -/
theorem utf8ByteSize_decode (divides : Divides bytes parts) :
    (String.ofList (decode bytes)).utf8ByteSize = bytes.length + excess parts := by
  rw [decode_eq divides, String.utf8ByteSize_ofList]
  induction divides with
  | nil => rfl
  | encoded character _ inductionHypothesis =>
    rw [List.map_cons, String.utf8Len_cons, inductionHypothesis, List.length_append,
      String.length_utf8EncodeChar]
    simp only [excess, List.map_cons, List.sum_cons, Part.excess, Part.decoded]
    omega
  | @broken first bytes parts breaks _ inductionHypothesis =>
    have short := breaks.length_le_three
    have size : (Part.broken first).decoded.utf8Size = 3 := (by decide : replacement.utf8Size = 3)
    rw [List.map_cons, String.utf8Len_cons, inductionHypothesis, List.length_append, size]
    simp only [excess, List.map_cons, List.sum_cons, Part.excess]
    omega

/-- A text takes at most three bytes for each byte. -/
theorem excess_le (divides : Divides bytes parts) : excess parts ≤ 2 * bytes.length := by
  induction divides with
  | nil => exact Nat.zero_le _
  | encoded character _ inductionHypothesis =>
    simp only [excess, List.map_cons, List.sum_cons, Part.excess, List.length_append] at *
    omega
  | broken breaks _ inductionHypothesis =>
    have some := List.length_pos_iff.mpr breaks.notEmpty
    simp only [excess, List.map_cons, List.sum_cons, Part.excess, List.length_append] at *
    omega

theorem divides_flatMap (text : List Char) :
    Divides (text.flatMap utf8EncodeChar) (text.map .encoded) := by
  induction text with
  | nil => exact .nil
  | cons character text inductionHypothesis => exact .encoded character inductionHypothesis

theorem excess_encoded (text : List Char) : excess (text.map .encoded) = 0 := by
  rw [excess, List.map_map]
  exact List.sum_eq_zero (by simp [Part.excess])

/-- A character of the text is a replacement, or its encoding is somewhere in the bytes. -/
theorem infix_of_mem_decode {character : Char} (kept : character ≠ replacement)
    (member : character ∈ decode bytes) : utf8EncodeChar character <:+: bytes := by
  obtain ⟨parts, divides, decoded⟩ := exists_divides bytes
  rw [decoded] at member
  clear decoded
  induction divides with
  | nil => cases member
  | encoded other _ inductionHypothesis =>
    rcases List.mem_cons.mp member with rfl | behind
    · exact ⟨[], _, rfl⟩
    · exact (inductionHypothesis behind).trans (List.infix_append_right ..)
  | broken _ _ inductionHypothesis =>
    rcases List.mem_cons.mp member with rfl | behind
    · exact absurd rfl kept
    · exact (inductionHypothesis behind).trans (List.infix_append_right ..)

theorem decode_flatMap (text : List Char) : decode (text.flatMap utf8EncodeChar) = text := by
  rw [decode_eq (divides_flatMap text), List.map_map]
  exact List.map_id text

/-- A text without replacements is decoded from its encoding alone. -/
theorem decode_eq_iff {text : List Char} (kept : replacement ∉ text) :
    decode bytes = text ↔ bytes = text.flatMap utf8EncodeChar := by
  constructor
  · rintro rfl
    obtain ⟨parts, divides, decoded⟩ := exists_divides bytes
    rw [decoded] at kept ⊢
    clear decoded
    induction divides with
    | nil => rfl
    | encoded other _ inductionHypothesis =>
      have behind := inductionHypothesis fun member => kept (List.mem_cons_of_mem _ member)
      exact congrArg (utf8EncodeChar other ++ ·) behind
    | broken => exact absurd List.mem_cons_self kept
  · rintro rfl
    exact decode_flatMap text

end Division

section Single

variable {byte : UInt8}

/-- A byte that is a character by itself goes into no other character. -/
theorem tails_append {count bits : Nat} {least greatest : UInt8} (bound : 0x80 ≤ least)
    (low : byte < 0x80) (front rest : List UInt8) :
    tails count bits least greatest (front ++ byte :: rest) =
      (tails count bits least greatest front).map id (· ++ byte :: rest) := by
  induction count generalizing bits least greatest front with
  | zero => rfl
  | succ count inductionHypothesis =>
    cases front with
    | nil =>
      have unfit : ¬ (least ≤ byte ∧ byte ≤ greatest) :=
        fun fits => UInt8.not_le.mpr low (UInt8.le_trans bound fits.1)
      rw [List.nil_append, tails_unfit rest unfit, tails]
      rfl
    | cons first front =>
      by_cases fits : least ≤ first ∧ first ≤ greatest
      · rw [List.cons_append, tails_fit _ fits, tails_fit _ fits]
        exact inductionHypothesis (UInt8.le_refl 0x80) front
      · rw [List.cons_append, tails_unfit _ fits, tails_unfit _ fits]
        rfl

theorem leads_least {lead : Lead} (leads : lead? byte = some lead) : 0x80 ≤ lead.least := by
  cases leads_iff.mp leads with
  | one | two => exact UInt8.le_refl 0x80
  | three | four =>
    simp only [UInt8.le_iff_toNat_le, apply_ite UInt8.toNat, UInt8.reduceToNat]
    split_ifs <;> omega

theorem step_append (low : byte < 0x80) (first : UInt8) (front rest : List UInt8) :
    step first (front ++ byte :: rest) = (step first front).map id (· ++ byte :: rest) := by
  rw [step, step]
  cases leads : lead? first with
  | none => rfl
  | some lead =>
    dsimp only
    rw [tails_append (leads_least leads) low]
    rcases tails lead.tails lead.bits lead.least lead.greatest front with ⟨_ | code, behind⟩ <;> rfl

theorem decode_cons (low : byte < 0x80) (rest : List UInt8) :
    decode (byte :: rest) = Char.ofNat byte.toNat :: decode rest := by
  have leads : lead? byte = some ⟨0, byte.toNat, 0x80, 0xbf⟩ := if_pos low
  rw [decode, step, leads]
  rfl

/-- The decoding is cut wherever a byte is a character by itself. -/
theorem decode_append (low : byte < 0x80) (front rest : List UInt8) :
    decode (front ++ byte :: rest) = decode front ++ Char.ofNat byte.toNat :: decode rest := by
  induction front using decode.induct with
  | case1 =>
    rw [List.nil_append, decode_cons low, decode]
    rfl
  | case2 first front inductionHypothesis =>
    rw [List.cons_append, decode, decode, step_append low, List.cons_append, ← inductionHypothesis]
    rfl

theorem mem_of_mem_decode {bytes : List UInt8} (low : byte < 0x80)
    (member : Char.ofNat byte.toNat ∈ decode bytes) : byte ∈ bytes := by
  have below : byte.toNat < 128 := low
  have kept : Char.ofNat byte.toNat ≠ replacement := by
    intro same
    have code := congrArg Char.toNat same
    rw [Char.toNat_ofNat, if_pos (.inl (by omega))] at code
    exact absurd (code.symm.trans_lt below) (by decide)
  have encoded := infix_of_mem_decode kept member
  rw [one_byte (by omega)] at encoded
  exact encoded.subset List.mem_cons_self

theorem decode_eq_nil_iff {bytes : List UInt8} : decode bytes = [] ↔ bytes = [] := by
  cases bytes with
  | nil => simp [decode]
  | cons byte rest => simp [decode]

end Single

end ExportIndex.Text.Utf8
