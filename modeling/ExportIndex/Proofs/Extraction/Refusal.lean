import ExportIndex.Extraction
import ExportIndex.Proofs.FilePath.Marks
import ExportIndex.Proofs.JavaScript.Ladder
import Mathlib

/-
This file says which sources a parser refuses without looking at them: those whose extension it
does not know and those that are too large. All other failures come of what a source holds.
-/

namespace ExportIndex

theorem error_of_bind {E A B : Type} {first : Except E A} {next : A → Except E B} {failure : E}
    (failed : (first >>= next) = .error failure) :
    first = .error failure ∨ ∃ value, first = .ok value ∧ next value = .error failure := by
  cases first with
  | error other => exact .inl (congrArg _ (Except.error.inj failed))
  | ok value => exact .inr ⟨value, rfl, failed⟩

theorem error_of_map {E A B : Type} {first : Except E A} {next : A → B} {failure : E}
    (failed : first.map next = .error failure) : first = .error failure := by
  cases first with
  | error other => exact congrArg _ (Except.error.inj failed)
  | ok value => cases failed

namespace ParseFailure

/-- The source has not been looked at. -/
def isRefusal : ParseFailure → Bool
  | unsupportedExtension _ | fileTooLarge _ _ => true
  | _ => false

end ParseFailure

/-- A source with a known extension is refused for its size alone. -/
theorem admitted_of_extension (settings : ParserSettings) {extensions : List String}
    {path : FilePath} {extension : String} (source : String)
    (isExtension : path.extension? = some extension) (known : extension ∈ extensions) :
    admitted settings extensions path source =
      if settings.maxFileSize.toNat < source.utf8ByteSize
      then .error (.fileTooLarge path source.utf8ByteSize) else .ok extension := by
  have found : path.extension?.filter extensions.contains = some extension := by
    simp [isExtension, known]
  rw [admitted, found]
  by_cases large : settings.maxFileSize.toNat < source.utf8ByteSize
  · simp only [if_pos large]
    rfl
  · simp only [if_neg large]
    rfl

theorem admitted_unknown {settings : ParserSettings} {extensions : List String} {path : FilePath}
    {source : String} (unknown : ∀ extension ∈ extensions, path.extension? ≠ some extension) :
    admitted settings extensions path source = .error (.unsupportedExtension path) := by
  have nothing : path.extension?.filter extensions.contains = none := by
    rw [Option.filter_eq_none_iff]
    intro extension isExtension listed
    exact unknown extension (List.contains_iff_mem.mp listed) isExtension
  rw [admitted, nothing]
  rfl

/-- What comes of a source is settled by the extension of its path, then by its size, and only then
by what it holds. -/
structure Guarded (settings : ParserSettings) (known : Bool) (path : FilePath) (source : String)
    (result : Except ParseFailure (List ExportRecord)) : Prop where
  unknown : known = false → result = .error (.unsupportedExtension path)
  large : known = true → settings.maxFileSize.toNat < source.utf8ByteSize →
    result = .error (.fileTooLarge path source.utf8ByteSize)
  small : known = true → source.utf8ByteSize ≤ settings.maxFileSize.toNat →
    ∀ failure, result = .error failure → failure.isRefusal = false

namespace Guarded

variable {settings : ParserSettings} {known : Bool} {path : FilePath} {source : String}
  {result : Except ParseFailure (List ExportRecord)}

theorem unsupported_iff (guarded : Guarded settings known path source result) :
    (∃ file, result = .error (.unsupportedExtension file)) ↔ known = false := by
  refine ⟨?_, fun unknown => ⟨path, guarded.unknown unknown⟩⟩
  rintro ⟨file, unsupported⟩
  by_contra accepted
  have known := Bool.eq_true_of_not_eq_false accepted
  rcases Nat.lt_or_ge settings.maxFileSize.toNat source.utf8ByteSize with large | small
  · cases unsupported.symm.trans (guarded.large known large)
  · cases guarded.small known small _ unsupported

theorem tooLarge_iff (guarded : Guarded settings known path source result) :
    (∃ file bytes, result = .error (.fileTooLarge file bytes)) ↔
      known = true ∧ settings.maxFileSize.toNat < source.utf8ByteSize := by
  refine ⟨?_, fun both => ⟨_, _, guarded.large both.1 both.2⟩⟩
  rintro ⟨file, bytes, tooLarge⟩
  cases known with
  | false => cases tooLarge.symm.trans (guarded.unknown rfl)
  | true =>
    refine ⟨rfl, Nat.lt_of_not_le fun small => ?_⟩
    cases guarded.small rfl small _ tooLarge

/-- A parser is guarded that admits a source before it looks at what it holds. -/
theorem of_admitted {extensions : List String}
    {next : String → Except ParseFailure (List ExportRecord)}
    (knows : known = true ↔ ∃ extension ∈ extensions, path.extension? = some extension)
    (looks : ∀ extension failure, next extension = .error failure → failure.isRefusal = false) :
    Guarded settings known path source (admitted settings extensions path source >>= next) where
  unknown unknown := by
    have nothing : ∀ extension ∈ extensions, path.extension? ≠ some extension :=
      fun extension listed isExtension => by
        rw [knows.mpr ⟨extension, listed, isExtension⟩] at unknown
        cases unknown
    rw [admitted_unknown nothing]
    rfl
  large known large := by
    obtain ⟨extension, listed, isExtension⟩ := knows.mp known
    rw [admitted_of_extension settings source isExtension listed, if_pos large]
    rfl
  small known small failure failed := by
    obtain ⟨extension, listed, isExtension⟩ := knows.mp known
    rw [admitted_of_extension settings source isExtension listed,
      if_neg (Nat.not_lt_of_le small)] at failed
    exact looks extension failure failed

end Guarded

section Contents

variable {arena : Arena} {path : FilePath} {failure : ParseFailure} {source : String}

theorem Arena.isRefusal_of_checked (failed : arena.checked path = .error failure) :
    failure.isRefusal = false := by
  rw [checked] at failed
  split at failed
  · cases failed
  · exact Except.error.inj failed ▸ rfl

theorem Arena.isRefusal_violation (arena : Arena) (path : FilePath) (id : Nat)
    (violation : Violation) : (arena.violation path id violation).isRefusal = false := by
  rw [Arena.violation]
  split <;> rfl

theorem JavaScript.isRefusal_of_validated {sourceType : SourceType} {elements : Bool}
    (failed : validated arena path sourceType elements = .error failure) :
    failure.isRefusal = false := by
  rcases error_of_bind failed with unchecked | ⟨_, _, failed⟩
  · exact Arena.isRefusal_of_checked unchecked
  · dsimp only at failed
    split at failed
    · cases failed
    · exact Except.error.inj failed ▸ arena.isRefusal_violation ..

theorem JavaScript.isRefusal_of_accepted {grammar : Grammar} {extension : String}
    (failed : accepted grammar path extension source = .error failure) :
    failure.isRefusal = false := by
  by_cases readable : Readable grammar path extension source
  · rw [accepted_of_readable readable] at failed
    cases failed
  · rw [accepted_of_unreadable readable] at failed
    exact isRefusal_of_validated (error_of_map failed)

theorem Python.isRefusal_of_namesPrinted {output : String}
    (failed : namesPrinted path output = .error failure) : failure.isRefusal = false := by
  rw [namesPrinted] at failed
  split at failed
  · exact Except.error.inj failed ▸ rfl
  · split at failed
    · cases failed
    · exact Except.error.inj failed ▸ rfl

theorem Python.isRefusal_of_interpreted {programs : Programs} {name : String} {limit : UInt64}
    (failed : interpreted programs name limit path source = .error failure) :
    failure.isRefusal = false := by
  rw [interpreted] at failed
  split at failed
  · exact Except.error.inj failed ▸ rfl
  · split at failed
    · exact Except.error.inj failed ▸ rfl
    · exact Except.error.inj failed ▸ rfl
    · split at failed <;> exact Except.error.inj failed ▸ rfl
    · split at failed
      · exact Except.error.inj failed ▸ rfl
      · exact isRefusal_of_namesPrinted failed

theorem Python.isRefusal_of_topLevel {grammar : Grammar}
    (failed : topLevel grammar path source = .error failure) : failure.isRefusal = false := by
  rcases error_of_bind failed with unchecked | ⟨_, _, failed⟩
  · exact Arena.isRefusal_of_checked unchecked
  · split at failed
    · exact Except.error.inj failed ▸ Arena.isRefusal_violation ..
    · cases failed

theorem Python.isRefusal_of_found {service : Service} {grammar : Grammar} {programs : Programs}
    (failed : service.found grammar programs path source = .error failure) :
    failure.isRefusal = false := by
  rw [Service.found] at failed
  split at failed
  · exact isRefusal_of_interpreted failed
  · exact isRefusal_of_topLevel failed
  · cases failed

end Contents

/-- A service is guarded, whatever backend it has chosen before. -/
theorem Python.Service.guarded (service : Service) (grammar : Grammar) (programs : Programs)
    (path : FilePath) (source : String) :
    Guarded service.settings (path.hasEnding endings) path source
      (service.exports grammar programs path source) where
  unknown unknown := if_neg (Bool.not_eq_true _ ▸ unknown)
  large known large := by
    have refused : service.isTooLarge source = true := decide_eq_true large
    rw [exports, if_pos known, symbols, if_pos refused]
    rfl
  small known small failure failed := by
    have accepted : ¬ service.isTooLarge source = true :=
      fun large => Nat.not_lt_of_le small (of_decide_eq_true large)
    rw [exports, if_pos known, symbols, if_neg accepted] at failed
    exact isRefusal_of_found (error_of_map (error_of_map failed))

namespace Parser

/-- The extensions that a parser knows. -/
def extensions : Parser → List String
  | javaScript => JavaScript.extensions
  | typeScript => TypeScript.extensions
  | component => Component.extensions
  | python => ["py"]

/-- The endings by which a parser says what it can parse are the extensions that it knows, with
their dots. -/
theorem endings_eq (parser : Parser) : parser.endings = parser.extensions.map ("." ++ ·) := by
  cases parser <;> rfl

variable {grammars : Grammars} {programs : Python.Programs} {settings : ParserSettings}
  {parser : Parser} {path : FilePath} {source : String} {failure : ParseFailure}

theorem canParse_iff : parser.canParse path = true ↔
    ∃ extension ∈ parser.extensions, path.extension? = some extension := by
  rw [canParse, FilePath.hasEnding_iff, endings_eq]
  simp only [List.mem_map, String.append_right_inj, exists_eq_right]
  exact exists_congr fun extension => And.comm

/-- The parsers that are chosen for a path can parse it. -/
theorem canParse_of_ofPath (chosen : parser ∈ (SourceLanguage.ofPath path).parsers) :
    parser.canParse path = true := by
  rw [SourceLanguage.ofPath] at chosen
  split at chosen
  case h_7 => cases chosen
  all_goals
    next isExtension =>
      refine canParse_iff.mpr ⟨_, ?_, isExtension⟩
      clear isExtension
      revert parser
      decide

theorem guarded (grammars : Grammars) (programs : Python.Programs) (settings : ParserSettings)
    (parser : Parser) (path : FilePath) (source : String) :
    Guarded settings (parser.canParse path) path source
      (parser.exportsUnder grammars programs settings path source) := by
  cases parser with
  | javaScript =>
    refine .of_admitted canParse_iff fun extension failure failed => ?_
    rcases error_of_bind failed with unread | ⟨_, _, failed⟩
    · exact JavaScript.isRefusal_of_accepted unread
    · cases failed
  | typeScript =>
    refine .of_admitted canParse_iff fun extension failure failed => ?_
    rcases error_of_bind failed with unchecked | ⟨_, _, failed⟩
    · exact Arena.isRefusal_of_checked unchecked
    · cases failed
  | component =>
    refine .of_admitted canParse_iff fun extension failure failed => ?_
    rcases error_of_bind failed with unchecked | ⟨_, _, failed⟩
    · exact Arena.isRefusal_of_checked unchecked
    · cases failed
  | python => exact Python.Service.guarded (.new settings) grammars.python programs path source

/-- A parser calls the extension of a source unsupported if it cannot parse the path, whatever the
source and the settings. -/
theorem unsupported_iff :
    (∃ file, parser.exportsUnder grammars programs settings path source =
      .error (.unsupportedExtension file)) ↔ parser.canParse path = false :=
  (guarded grammars programs settings parser path source).unsupported_iff

/-- A parser calls a source too large if it can parse the path and the source has more bytes than
the settings allow. -/
theorem tooLarge_iff :
    (∃ file bytes, parser.exportsUnder grammars programs settings path source =
      .error (.fileTooLarge file bytes)) ↔
      parser.canParse path = true ∧ settings.maxFileSize.toNat < source.utf8ByteSize :=
  (guarded grammars programs settings parser path source).tooLarge_iff

end Parser

end ExportIndex
