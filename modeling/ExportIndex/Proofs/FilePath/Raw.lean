import ExportIndex.Proofs.FilePath.Marks
import ExportIndex.Proofs.Text.Encoding
import ExportIndex.RawPath
import Mathlib

/-
This file compares a path with its text, be the path UTF-8 or not. The names in the text are those of
the path, each decoded by itself, and an extension in which nothing is replaced is that of both.
-/

namespace ExportIndex.RawPath

open String (utf8EncodeChar)
open Text.Utf8 (decode decode_append decode_eq_iff decode_eq_nil_iff mem_of_mem_decode
  replacement)

/-- The marks are ASCII, so that decoding leaves them where they are and makes no new ones. -/
theorem kept_decode : FilePath.Marks.Kept marks FilePath.characters decode where
  separator := decode_append (by decide : (0x2f : UInt8) < 0x80)
  dot := decode_append (by decide : (0x2e : UInt8) < 0x80)
  separated _ := mem_of_mem_decode (by decide : (0x2f : UInt8) < 0x80)
  dotted _ := mem_of_mem_decode (by decide : (0x2e : UInt8) < 0x80)
  nil _ := decode_eq_nil_iff

theorem extension?_shown (path : RawPath) : path.shown.extension? = path.lossyExtension? := by
  rw [FilePath.extension?, shown, String.toList_ofList, kept_decode.extension?_read,
    Option.map_map]
  rfl

theorem fromUTF8?_eq_some_iff {bytes : List UInt8} {text : String} :
    String.fromUTF8? bytes.toByteArray = some text ↔
      bytes = text.toList.flatMap utf8EncodeChar := by
  have encoded : text.toByteArray = (text.toList.flatMap utf8EncodeChar).toByteArray :=
    String.utf8Encode_toList.symm
  rw [← List.toByteArray_inj, ← encoded, String.fromUTF8?]
  constructor
  · intro read
    split at read
    · exact congrArg String.toByteArray (Option.some.inj read)
    · cases read
  · intro same
    rw [same, dif_pos text.isValidUTF8]
    rfl

variable {path : RawPath} {extension : String}

theorem strictExtension?_eq_some_iff : path.strictExtension? = some extension ↔
    path.extension? = some (extension.toList.flatMap utf8EncodeChar) := by
  simp only [strictExtension?, Option.bind_eq_some_iff, fromUTF8?_eq_some_iff, exists_eq_right]

/-- Both readings find the same extensions in which nothing is replaced. -/
theorem strictExtension?_eq_some_iff_lossy (plain : replacement ∉ extension.toList) :
    path.strictExtension? = some extension ↔ path.lossyExtension? = some extension := by
  rw [strictExtension?_eq_some_iff, lossyExtension?, Option.map_eq_some_iff]
  have same (bytes : List UInt8) : String.ofList (decode bytes) = extension ↔
      bytes = extension.toList.flatMap utf8EncodeChar := by
    rw [← decode_eq_iff plain, ← String.ofList_inj, String.ofList_toList]
  simp only [same, exists_eq_right]

-- Where something is replaced, one of them finds an extension and the other none.
example : (⟨[0x61, 0x2e, 0xff]⟩ : RawPath).lossyExtension? = some "\ufffd" ∧
    (⟨[0x61, 0x2e, 0xff]⟩ : RawPath).strictExtension? = none := by
  decide +kernel

/-- A table of such extensions serves both readings. -/
theorem exists_mem_lossy_iff_strict {table : List String}
    (plain : ∀ extension ∈ table, replacement ∉ extension.toList) :
    (∃ extension ∈ table, path.lossyExtension? = some extension) ↔
      ∃ extension ∈ table, path.strictExtension? = some extension :=
  exists_congr fun extension => and_congr_right fun listed =>
    (strictExtension?_eq_some_iff_lossy (plain extension listed)).symm

end ExportIndex.RawPath
