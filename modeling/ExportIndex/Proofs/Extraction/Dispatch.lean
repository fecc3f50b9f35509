import ExportIndex.Proofs.Extraction.Outcome
import ExportIndex.Proofs.FilePath.Raw
import Mathlib

/-
This file shows that those who read the extension of a path agree on it. The parsers compare it with
dotted endings and with plain extensions, and their choice goes by languages; one reading replaces
what is no UTF-8 and the others take it for no extension.
-/

namespace ExportIndex

/-- The extensions of the sources in a language. -/
def SourceLanguage.extensions : SourceLanguage → List String
  | javaScript => ["js", "mjs"]
  | typeScript => ["ts"]
  | typeScriptElements => ["tsx"]
  | elements => ["jsx"]
  | python => ["py"]
  | other => []

/-- What is made of the path of a file, which need not be text. -/
structure Dispatch (grammars : Grammars) (programs : Python.Programs) (path : RawPath) : Prop where
  /-- A parser goes by its endings when it says what it can parse. -/
  endings : ∀ parser : Parser, parser.canParse path.shown = true ↔
    ∃ extension, path.lossyExtension? = some extension ∧ "." ++ extension ∈ parser.endings
  /-- It can parse what has one of its extensions as it is. -/
  extensions : ∀ parser : Parser, parser.canParse path.shown = true ↔
    ∃ extension ∈ parser.extensions, path.strictExtension? = some extension
  languages : ∀ language, language ≠ .other → (SourceLanguage.ofPath path.shown = language ↔
    ∃ extension ∈ language.extensions, path.strictExtension? = some extension)
  /-- A path is in no language only if nothing can parse it. -/
  unparsed : SourceLanguage.ofPath path.shown = .other ↔
    ∀ parser : Parser, parser.canParse path.shown = false
  /-- What a parser cannot parse is unsupported, whatever the source and the settings. -/
  refused : ∀ (parser : Parser) (settings : ParserSettings) (source : String),
    parser.canParse path.shown = false →
      parser.exportsUnder grammars programs settings path.shown source =
        .error (.unsupportedExtension path.shown)
  /-- Nothing else is. -/
  unsupported : ∀ (parser : Parser) (settings : ParserSettings) (source : String),
    (∃ file, parser.exportsUnder grammars programs settings path.shown source =
      .error (.unsupportedExtension file)) ↔ parser.canParse path.shown = false
  /-- It is so with a service that has been asked before. -/
  service : ∀ (service : Python.Service) (source : String),
    (∃ file, service.exports grammars.python programs path.shown source =
      .error (.unsupportedExtension file)) ↔ Parser.python.canParse path.shown = false
  chosen : ∀ parser ∈ (SourceLanguage.ofPath path.shown).parsers,
    parser.canParse path.shown = true
  supported : ∀ parser ∈ (SourceLanguage.ofPath path.shown).parsers,
    ∀ (settings : ParserSettings) (source : String) (file : FilePath),
      parser.exportsUnder grammars programs settings path.shown source ≠
        .error (.unsupportedExtension file)
  /-- So the mark of an extraction says that all of them have failed. -/
  marked : ∀ (settings : ParserSettings) (source : String),
    (extractUnder grammars programs settings (SourceLanguage.ofPath path.shown) path.shown
      source).failed = true ↔ (SourceLanguage.ofPath path.shown).parsers ≠ [] ∧
        ∀ parser ∈ (SourceLanguage.ofPath path.shown).parsers, ParseResult.Failed
          (parser.exportsUnder grammars programs settings path.shown source)

section Tables

variable {path : FilePath} {extension : String}

theorem SourceLanguage.ofPath_eq_iff {language : SourceLanguage} (known : language ≠ .other) :
    ofPath path = language ↔
      ∃ extension ∈ language.extensions, path.extension? = some extension := by
  constructor
  · rintro rfl
    rw [ofPath] at known ⊢
    split at known
    case h_7 => exact absurd rfl known
    all_goals
      next isExtension =>
        rw [isExtension]
        exact ⟨_, by decide, rfl⟩
  · rintro ⟨extension, listed, isExtension⟩
    rw [ofPath, isExtension]
    revert extension
    cases language <;> simp [extensions]

/-- Every extension that a parser knows is that of a language. -/
theorem SourceLanguage.exists_of_mem_extensions {parser : Parser}
    (listed : extension ∈ parser.extensions) :
    ∃ language ≠ SourceLanguage.other, extension ∈ language.extensions := by
  have all : ∀ extension ∈ parser.extensions, ∃ language ∈ SourceLanguage.all,
      language ≠ SourceLanguage.other ∧ extension ∈ language.extensions := by
    cases parser <;> decide
  obtain ⟨language, -, found⟩ := all extension listed
  exact ⟨language, found⟩

theorem SourceLanguage.ofPath_eq_other_iff :
    ofPath path = .other ↔ ∀ parser : Parser, parser.canParse path = false := by
  constructor
  · intro isOther parser
    rw [← Bool.not_eq_true, Parser.canParse_iff]
    rintro ⟨extension, listed, isExtension⟩
    obtain ⟨language, known, inLanguage⟩ := exists_of_mem_extensions listed
    exact known (((ofPath_eq_iff known).mpr ⟨extension, inLanguage, isExtension⟩).symm.trans isOther)
  · intro nothing
    by_contra known
    have some : (ofPath path).parsers ≠ [] := by
      revert known
      cases ofPath path <;> decide
    obtain ⟨parser, chosen⟩ := List.exists_mem_of_ne_nil _ some
    cases (nothing parser).symm.trans (Parser.canParse_of_ofPath chosen)

end Tables

/-- All who read the extension of a path agree on it, whatever the path. A source under an extension
that a parser does not know is unsupported before anything else is asked, and the parsers that are
chosen for a path never call it so. -/
theorem dispatch_agrees (grammars : Grammars) (programs : Python.Programs) (path : RawPath) :
    Dispatch grammars programs path where
  endings parser := by
    rw [Parser.canParse, FilePath.hasEnding_iff, path.extension?_shown]
  extensions parser := by
    rw [Parser.canParse_iff, path.extension?_shown]
    exact RawPath.exists_mem_lossy_iff_strict (by cases parser <;> decide)
  languages language known := by
    rw [SourceLanguage.ofPath_eq_iff known, path.extension?_shown]
    exact RawPath.exists_mem_lossy_iff_strict (by cases language <;> decide)
  unparsed := SourceLanguage.ofPath_eq_other_iff
  refused parser settings source := (Parser.guarded ..).unknown
  unsupported parser settings source := Parser.unsupported_iff
  service service source := (service.guarded ..).unsupported_iff
  chosen parser := Parser.canParse_of_ofPath
  supported parser chosen settings source file unsupported := by
    have unparsed := Parser.unsupported_iff.mp ⟨file, unsupported⟩
    cases unparsed.symm.trans (Parser.canParse_of_ofPath chosen)
  marked settings source := by
    rw [failed_extractUnder_iff]
    exact and_congr_right fun _ => forall₂_congr fun parser chosen =>
      and_iff_right (Parser.canParse_of_ofPath chosen)

end ExportIndex
