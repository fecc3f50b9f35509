import ExportIndex.Proofs.Extraction.Refusal
import Mathlib

/-
This file says when an extraction is marked as failed. A parser that calls the extension of a file
unsupported counts like one that has succeeded, so that it hides the failure of another parser.
-/

namespace ExportIndex

/-- What a parser makes of a source. -/
abbrev ParseResult := Except ParseFailure (List ExportRecord)

namespace ParseResult

/-- The parser has not called the extension unsupported. -/
def Accepted (result : ParseResult) : Prop :=
  ∀ path, result ≠ .error (.unsupportedExtension path)

def Failed (result : ParseResult) : Prop := ∃ failure, result = .error failure

theorem isFailure_iff (result : ParseResult) :
    Extraction.isFailure result = true ↔ result.Accepted ∧ result.Failed := by
  cases result with
  | ok records => simp [Extraction.isFailure, Failed]
  | error failure =>
    cases failure <;>
      simp [Extraction.isFailure, Accepted, Failed, ParseFailure.isUnsupported]

end ParseResult

/-- Some parser for a language accepts the extension, and each parser that does fails. -/
def AcceptingParsersFail (result : Parser → ParseResult) (language : SourceLanguage) : Prop :=
  (∃ parser ∈ language.parsers, (result parser).Accepted) ∧
    ∀ parser ∈ language.parsers, (result parser).Accepted → (result parser).Failed

/-- One of the two parsers for typed sources with elements fails, and the other one does not know
the extension of the file. -/
inductive HiddenFailure (result : Parser → ParseResult) (path : FilePath) : Prop
  | typed (extension : path.extension? = some "ts") (failed : (result .typeScript).Failed)
  | elements (extension : path.extension? = some "jsx") (failed : (result .component).Failed)

section Outcome

variable {grammars : Grammars} {programs : Python.Programs} {settings : ParserSettings}
  {parser : Parser} {language : SourceLanguage} {path : FilePath} {source : String}

theorem Parser.accepted_iff :
    ParseResult.Accepted (parser.exportsUnder grammars programs settings path source) ↔
      parser.canParse path = true := by
  rw [← Bool.not_eq_false, ← unsupported_iff, not_exists]
  rfl

/-- The mark demands that there are parsers, and that each of them accepts the extension and
fails. -/
theorem failed_extractUnder_iff :
    (extractUnder grammars programs settings language path source).failed = true ↔
      language.parsers ≠ [] ∧ ∀ parser ∈ language.parsers, parser.canParse path = true ∧
        ParseResult.Failed (parser.exportsUnder grammars programs settings path source) := by
  rw [extractUnder, Extraction.ofResults, Bool.and_eq_true, decide_eq_true_iff, List.all_eq_true]
  refine and_congr (by simp) ?_
  simp only [List.forall_mem_map, ParseResult.isFailure_iff, Parser.accepted_iff]

theorem acceptingParsersFail_iff :
    AcceptingParsersFail (Parser.exportsUnder grammars programs settings · path source) language ↔
      (∃ parser ∈ language.parsers, parser.canParse path = true) ∧
        ∀ parser ∈ language.parsers, parser.canParse path = true →
          ParseResult.Failed (parser.exportsUnder grammars programs settings path source) := by
  simp only [AcceptingParsersFail, Parser.accepted_iff]

theorem acceptingParsersFail_of_failed
    (failed : (extractUnder grammars programs settings language path source).failed = true) :
    AcceptingParsersFail (Parser.exportsUnder grammars programs settings · path source)
      language := by
  obtain ⟨inhabited, each⟩ := failed_extractUnder_iff.mp failed
  obtain ⟨parser, listed⟩ := List.exists_mem_of_ne_nil _ inhabited
  exact acceptingParsersFail_iff.mpr
    ⟨⟨parser, listed, (each parser listed).1⟩, fun other member _ => (each other member).2⟩

/-- If all parsers accept the extension, the mark says that each parser which accepts it fails. -/
theorem failed_extractUnder_of_accepted
    (accepted : ∀ parser ∈ language.parsers, parser.canParse path = true) :
    (extractUnder grammars programs settings language path source).failed = true ↔
      AcceptingParsersFail (Parser.exportsUnder grammars programs settings · path source)
        language := by
  refine ⟨acceptingParsersFail_of_failed, fun fail => ?_⟩
  obtain ⟨⟨parser, listed, _⟩, each⟩ := acceptingParsersFail_iff.mp fail
  exact failed_extractUnder_iff.mpr ⟨List.ne_nil_of_mem listed, fun other member =>
    ⟨accepted other member, each other member (accepted other member)⟩⟩

/-- Where the accepting parsers fail without a mark, another parser has not accepted. -/
theorem exists_refusing
    (fail : AcceptingParsersFail (Parser.exportsUnder grammars programs settings · path source)
      language)
    (unmarked : (extractUnder grammars programs settings language path source).failed = false) :
    ∃ parser ∈ language.parsers, parser.canParse path = false := by
  by_contra all
  push Not at all
  have marked := (failed_extractUnder_of_accepted fun parser listed =>
    Bool.eq_true_of_not_eq_false (all parser listed)).mpr fail
  rw [unmarked] at marked
  cases marked

/-- Only typed sources with elements have two parsers. -/
theorem eq_of_two_parsers {other : Parser} (listed : parser ∈ language.parsers)
    (otherListed : other ∈ language.parsers) (apart : parser ≠ other) :
    language = .typeScriptElements ∧ (parser = .typeScript ∧ other = .component ∨
      parser = .component ∧ other = .typeScript) := by
  cases language <;> simp only [SourceLanguage.parsers, List.mem_cons, List.not_mem_nil, or_false]
    at listed otherListed
  case typeScriptElements =>
    refine ⟨rfl, ?_⟩
    rcases listed with rfl | rfl <;> rcases otherListed with rfl | rfl <;> simp at apart ⊢
  all_goals exact absurd (listed.trans otherListed.symm) apart

/-- Of the two parsers for typed sources with elements each knows an extension that the other one
does not know. There a failure goes without a mark, and nowhere else. -/
theorem unmarked_iff :
    (AcceptingParsersFail (Parser.exportsUnder grammars programs settings · path source) language ∧
      (extractUnder grammars programs settings language path source).failed = false) ↔
      language = .typeScriptElements ∧
        HiddenFailure (Parser.exportsUnder grammars programs settings · path source) path := by
  constructor
  · rintro ⟨fail, unmarked⟩
    obtain ⟨other, otherListed, refuses⟩ := exists_refusing fail unmarked
    obtain ⟨⟨parser, listed, accepts⟩, each⟩ := acceptingParsersFail_iff.mp fail
    have failed := each parser listed accepts
    have apart : parser ≠ other := by
      rintro rfl
      rw [accepts] at refuses
      cases refuses
    obtain ⟨extension, known, isExtension⟩ := Parser.canParse_iff.mp accepts
    have unknown : extension ∉ other.extensions := by
      intro listedThere
      rw [Parser.canParse_iff.mpr ⟨extension, listedThere, isExtension⟩] at refuses
      cases refuses
    obtain ⟨rfl, ⟨rfl, rfl⟩ | ⟨rfl, rfl⟩⟩ := eq_of_two_parsers listed otherListed apart
    · refine ⟨rfl, .typed ?_ failed⟩
      have split : extension = "ts" ∨ extension = "tsx" := by
        simpa [Parser.extensions, TypeScript.extensions] using known
      rcases split with rfl | rfl
      · exact isExtension
      · exact absurd (by decide) unknown
    · refine ⟨rfl, .elements ?_ failed⟩
      have split : extension = "jsx" ∨ extension = "tsx" := by
        simpa [Parser.extensions, Component.extensions] using known
      rcases split with rfl | rfl
      · exact isExtension
      · exact absurd (by decide) unknown
  · rintro ⟨rfl, hidden⟩
    have canParse (parser : Parser) (extension : String)
        (isExtension : path.extension? = some extension) :
        parser.canParse path = parser.endings.contains ("." ++ extension) := by
      rw [Parser.canParse, FilePath.hasEnding, isExtension]
    rw [← Bool.not_eq_true, failed_extractUnder_iff, acceptingParsersFail_iff]
    cases hidden with
    | typed isExtension failed =>
      have typed : Parser.typeScript.canParse path = true := canParse _ _ isExtension
      have elements : Parser.component.canParse path = false := canParse _ _ isExtension
      simp [SourceLanguage.parsers, typed, elements, failed]
    | elements isExtension failed =>
      have typed : Parser.typeScript.canParse path = false := canParse _ _ isExtension
      have elements : Parser.component.canParse path = true := canParse _ _ isExtension
      simp [SourceLanguage.parsers, typed, elements, failed]

theorem records_extractUnder :
    (extractUnder grammars programs settings language path source).records =
      ExportRecord.merge (language.parsers.filterMap fun parser =>
        (parser.exportsUnder grammars programs settings path source).toOption) := by
  have batch (result : ParseResult) : Extraction.batch? result = result.toOption := by
    cases result <;> rfl
  rw [extractUnder, Extraction.ofResults, List.filterMap_map]
  exact congrArg ExportRecord.merge (List.filterMap_congr fun parser _ => batch _)

end Outcome

/-- The records of an extraction are those of the parsers that succeed, merged in the order of the
parsers. An extraction is marked as failed if some parser for the language accepts the extension
and all that do fail, except that a failure stays hidden where the other parser for typed sources
with elements does not know the extension. For the language of the file itself nothing is hidden. -/
theorem extractions_mark_failures (grammars : Grammars) (programs : Python.Programs)
    (settings : ParserSettings) (language : SourceLanguage) (path : FilePath) (source : String) :
    (extractUnder grammars programs settings language path source).records =
      ExportRecord.merge (language.parsers.filterMap fun parser =>
        (parser.exportsUnder grammars programs settings path source).toOption) ∧
    (∀ parser, ParseResult.Accepted (Parser.exportsUnder grammars programs settings parser path
      source) ↔ parser.canParse path = true) ∧
    ((extractUnder grammars programs settings language path source).failed = true ↔
      AcceptingParsersFail (Parser.exportsUnder grammars programs settings · path source) language ∧
        ¬ (language = .typeScriptElements ∧
          HiddenFailure (Parser.exportsUnder grammars programs settings · path source) path)) ∧
    ((extractUnder grammars programs settings (.ofPath path) path source).failed = true ↔
      AcceptingParsersFail (Parser.exportsUnder grammars programs settings · path source)
        (.ofPath path)) := by
  refine ⟨records_extractUnder, fun parser => Parser.accepted_iff, ⟨fun failed => ?_, ?_⟩,
    failed_extractUnder_of_accepted fun parser chosen => Parser.canParse_of_ofPath chosen⟩
  · refine ⟨acceptingParsersFail_of_failed failed, fun hidden => ?_⟩
    have unmarked := (unmarked_iff.mpr hidden).2
    rw [failed] at unmarked
    cases unmarked
  · rintro ⟨fail, shown⟩
    by_contra unmarked
    exact shown (unmarked_iff.mp ⟨fail, Bool.eq_false_of_not_eq_true unmarked⟩)

/-- The settings under which a source of two characters is too large. -/
def narrow : ParserSettings := { ParserSettings.standard with maxFileSize := 1 }

/-- A typed source that is too large is looked at as one with elements. The only parser that accepts
its extension fails, and the extraction is not marked. -/
theorem unsupported_extension_hides_failure :
    AcceptingParsersFail
      (Parser.exportsUnder .standard (fun _ => none) narrow · ⟨"a.ts"⟩ "ab") .typeScriptElements ∧
    (extract (fun _ => none) narrow .typeScriptElements ⟨"a.ts"⟩ "ab").failed = false := by
  have extension : FilePath.extension? ⟨"a.ts"⟩ = some "ts" := by cbv
  have canParse : Parser.typeScript.canParse ⟨"a.ts"⟩ = true := by cbv
  have large : narrow.maxFileSize.toNat < "ab".utf8ByteSize := by decide
  obtain ⟨file, bytes, failed⟩ := Parser.tooLarge_iff.mpr ⟨canParse, large⟩
  exact unmarked_iff.mpr ⟨rfl, .typed extension ⟨_, failed⟩⟩

end ExportIndex
