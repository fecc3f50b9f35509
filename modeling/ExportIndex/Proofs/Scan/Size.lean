import ExportIndex.Proofs.Extraction.Outcome
import ExportIndex.Proofs.Text.Encoding
import ExportIndex.Scan.Counting
import Mathlib

/-
This file compares the sizes by which a scan and the parsers turn files away. A scan counts the
bytes of a file, and the parsers count those of the text that comes of the decoding.
-/

namespace ExportIndex.Scan.Scanner

open Text.Utf8

variable {scanner : Scanner} {parser : Parser} {name : String} {bytes : List UInt8}
  {parts : List Part}

/-- A parser calls the decoded bytes of a file too large. -/
def FindsTooLarge (scanner : Scanner) (name : String) (bytes : List UInt8) (parser : Parser) :
    Prop :=
  ∃ file size, parser.exportsUnder scanner.grammars scanner.programs scanner.settings.parser ⟨name⟩
    (String.ofList (decode bytes)) = .error (.fileTooLarge file size)

/-- The parsers for a file, by its name. -/
def parsersFor (name : String) : List Parser := (SourceLanguage.ofPath ⟨name⟩).parsers

theorem findsTooLarge_iff (divides : Divides bytes parts) (chosen : parser ∈ parsersFor name) :
    scanner.FindsTooLarge name bytes parser ↔
      scanner.settings.parser.maxFileSize.toNat < bytes.length + excess parts := by
  rw [FindsTooLarge, Parser.tooLarge_iff, utf8ByteSize_decode divides,
    and_iff_right (Parser.canParse_of_ofPath chosen)]

theorem isSupported_iff {language : SourceLanguage} :
    language.isSupported = true ↔ language.parsers ≠ [] := by
  cases language <;> decide

theorem admits_iff : scanner.admits name bytes = true ↔
    parsersFor name ≠ [] ∧ bytes.length ≤ scanner.settings.parser.maxFileSize.toNat := by
  rw [admits, Bool.and_eq_true, isSupported_iff, decide_eq_true_iff]
  rfl

theorem admits_of_chosen (chosen : parser ∈ parsersFor name) :
    scanner.admits name bytes = true ↔
      bytes.length ≤ scanner.settings.parser.maxFileSize.toNat := by
  rw [admits_iff, and_iff_right (List.ne_nil_of_mem chosen)]

/-- Where the text of an admitted file is too large, all parsers for it fail. -/
theorem extraction_of_tooLarge (divides : Divides bytes parts)
    (admitted : scanner.admits name bytes = true)
    (large : scanner.settings.parser.maxFileSize.toNat < bytes.length + excess parts) :
    scanner.extraction name bytes = ⟨[], true⟩ := by
  have fails (parser : Parser) (chosen : parser ∈ parsersFor name) :
      ParseResult.Failed (parser.exportsUnder scanner.grammars scanner.programs
        scanner.settings.parser ⟨name⟩ (String.ofList (decode bytes))) := by
    obtain ⟨file, size, failed⟩ := (findsTooLarge_iff divides chosen).mpr large
    exact ⟨_, failed⟩
  have marked : (scanner.extraction name bytes).failed = true :=
    failed_extractUnder_iff.mpr ⟨(admits_iff.mp admitted).1, fun parser chosen =>
      ⟨Parser.canParse_of_ofPath chosen, fails parser chosen⟩⟩
  have nothing : (scanner.extraction name bytes).records = [] := by
    rw [extraction, records_extractUnder, List.filterMap_eq_nil_iff.mpr]
    · rfl
    · intro parser chosen
      obtain ⟨failure, failed⟩ := fails parser chosen
      rw [failed]
      rfl
  exact congrArg₂ Extraction.mk nothing marked

/-- How the two guards treat a file whose text is longer than its bytes by some number. -/
structure Guards (scanner : Scanner) (name : String) (bytes : List UInt8) (surplus : Nat) :
    Prop where
  /-- The parsers count the surplus. -/
  measured : ∀ parser ∈ parsersFor name, scanner.FindsTooLarge name bytes parser ↔
    scanner.settings.parser.maxFileSize.toNat < bytes.length + surplus
  /-- What a parser does not find too large has been admitted. -/
  admitted : ∀ parser ∈ parsersFor name, ¬ scanner.FindsTooLarge name bytes parser →
    scanner.admits name bytes = true
  /-- The guards disagree where the limit is reached by the surplus alone. -/
  disagree : ∀ parser ∈ parsersFor name,
    scanner.admits name bytes = true ∧ scanner.FindsTooLarge name bytes parser ↔
      bytes.length ≤ scanner.settings.parser.maxFileSize.toNat ∧
        scanner.settings.parser.maxFileSize.toNat < bytes.length + surplus
  /-- There the file is reported without exports and counted as a failure of the parsers. -/
  counted : scanner.admits name bytes = true →
    scanner.settings.parser.maxFileSize.toNat < bytes.length + surplus →
    ∀ metrics, (scanner.plain name (some (.file bytes true))).run metrics =
      (scanner.noExports, metrics.seeFile.parseFile true 0)

theorem guards (scanner : Scanner) (name : String) (divides : Divides bytes parts) :
    scanner.Guards name bytes (excess parts) where
  measured parser chosen := findsTooLarge_iff divides chosen
  admitted parser chosen small := by
    rw [findsTooLarge_iff divides chosen, Nat.not_lt] at small
    exact (admits_of_chosen chosen).mpr (Nat.le_of_add_right_le small)
  disagree parser chosen :=
    and_congr (admits_of_chosen chosen) (findsTooLarge_iff divides chosen)
  counted admitted large metrics := by
    rw [(Reading.parsed admitted).runs, extraction_of_tooLarge divides admitted large]
    cases mode : scanner.settings.mode <;> simp only [noExports, mode] <;> rfl

/-- The text of a file is longer than the file by what the replacements of its broken parts take
more, and the guards disagree by as much. The parts are determined by the bytes, and bytes that
encode a text have no broken ones, so that the guards agree on them. -/
theorem guards_differ_by_replacements (scanner : Scanner) (name : String) (bytes : List UInt8) :
    ∃ parts, (∀ others, Divides bytes others ↔ others = parts) ∧
      scanner.Guards name bytes (excess parts) ∧ excess parts ≤ 2 * bytes.length ∧
      ∀ text : List Char, bytes = text.flatMap String.utf8EncodeChar →
        parts = text.map .encoded ∧ excess parts = 0 := by
  obtain ⟨parts, divides, _⟩ := exists_divides bytes
  refine ⟨parts, fun others => ⟨fun other => other.unique divides, fun same => same ▸ divides⟩,
    guards scanner name divides, excess_le divides, ?_⟩
  rintro text rfl
  obtain rfl := divides.unique (divides_flatMap text)
  exact ⟨rfl, excess_encoded text⟩

/-- A scanner whose limit is the size of one line. -/
def lineScanner : Scanner where
  system := ⟨[]⟩
  settings :=
    { ScanSettings.standard with parser := { ParserSettings.standard with maxFileSize := 14 } }
  programs := fun _ => none
  grammars := .standard

/-- The line has a comment of one letter, which is not in UTF-8. -/
def latinLine : List UInt8 := [101, 120, 112, 111, 114, 116, 115, 46, 97, 61, 49, 47, 47, 233]

/-- A file that has just the greatest size is admitted, and its parser finds it too large. -/
theorem latin_line_is_admitted_and_too_large :
    lineScanner.admits "a.js" latinLine = true ∧
      ∃ parser ∈ parsersFor "a.js", lineScanner.FindsTooLarge "a.js" latinLine parser := by
  have admitted : lineScanner.admits "a.js" latinLine = true := by cbv
  have chosen : .javaScript ∈ parsersFor "a.js" := by
    have language : SourceLanguage.ofPath ⟨"a.js"⟩ = .javaScript := by cbv
    simp [parsersFor, language, SourceLanguage.parsers]
  refine ⟨admitted, .javaScript, chosen, Parser.tooLarge_iff.mpr
    ⟨Parser.canParse_of_ofPath chosen, ?_⟩⟩
  cbv

end ExportIndex.Scan.Scanner
