import ExportIndex.Extraction
import ExportIndex.Proofs.Extraction.Contribution
import ExportIndex.Proofs.Record.Distinct
import Mathlib

/-
This file shows that whatever a parser finds is fit to be reported: exported, named, and one
record for each name. The trees are arbitrary, and so is what an interpreter prints.
-/

namespace ExportIndex

open ExportRecord

theorem ok_of_bind {E A B : Type} {first : Except E A} {next : A → Except E B} {result : B}
    (done : (first >>= next) = .ok result) :
    ∃ value, first = .ok value ∧ next value = .ok result := by
  cases first with
  | error failure => cases done
  | ok value => exact ⟨value, rfl, done⟩

theorem exported_of_map {A : Type} (items : List A) {make : A → ExportRecord}
    (exported : ∀ item, (make item).exported = true) :
    ∀ record ∈ items.map make, record.exported = true := by
  intro record member
  obtain ⟨item, _, rfl⟩ := List.mem_map.mp member
  exact exported item

namespace JavaScript

/-- An exported record keeps a collection fit, whether it is taken in or not. -/
theorem Collection.add_reported {collection : Collection} {record : ExportRecord}
    (reported : Reported collection.records) (exported : record.exported = true) :
    Reported (collection.add record).records := by
  rw [Collection.add]
  split
  · exact reported
  · next admitted =>
    obtain ⟨named, fresh⟩ : record.name ≠ "" ∧ ∀ other ∈ collection.records,
        other.name ≠ record.name := by
      simpa [Collection.hasName] using admitted
    refine ⟨?_, ?_, ?_⟩
    · intro other member
      rcases List.mem_append.mp member with old | new
      · exact reported.exported other old
      · exact List.mem_singleton.mp new ▸ exported
    · intro other member
      rcases List.mem_append.mp member with old | new
      · exact reported.named other old
      · exact List.mem_singleton.mp new ▸ named
    · rw [List.map_append, List.map_singleton]
      apply reported.distinct.append (List.nodup_singleton _)
      intro name old new
      obtain ⟨other, listed, rfl⟩ := List.mem_map.mp old
      exact fresh other listed (List.mem_singleton.mp new)

theorem Collection.addAll_reported {collection : Collection} {records : List ExportRecord}
    (reported : Reported collection.records)
    (exported : ∀ record ∈ records, record.exported = true) :
    Reported (collection.addAll records).records :=
  List.foldlRecOn (motive := fun collection => Reported collection.records) records
    Collection.add reported fun _ kept record member =>
      Collection.add_reported kept (exported record member)

theorem defaultRecord_exported (arena : Arena) (path : FilePath) (id : Nat) :
    (defaultRecord arena path id).exported = true := by
  rw [defaultRecord]
  cases defaultTarget? arena id with
  | none => rfl
  | some target =>
    cases kind : callableKind? (arena.kind target) with
    | none => simp [kind]
    | some symbol => cases name : arena.field? target "name" <;> simp [kind, name]

theorem declarationRecords_exported (arena : Arena) (declaration : Nat) :
    ∀ record ∈ declarationRecords arena declaration, record.exported = true := by
  unfold declarationRecords
  split
  · exact exported_of_map _ fun _ => rfl
  · split <;> simp

theorem clauseRecords_exported (arena : Arena) (clause : Nat) :
    ∀ record ∈ clauseRecords arena clause, record.exported = true :=
  exported_of_map _ fun _ => rfl

theorem assignmentRecords_exported (arena : Arena) (id : Nat) :
    ∀ record ∈ assignmentRecords arena id, record.exported = true := by
  intro record member
  obtain ⟨name, rfl⟩ := assignmentRecords_named arena id record member
  rfl

/-- A visit keeps a collection fit, whatever node it looks at. -/
theorem visit_reported (arena : Arena) (path : FilePath) {collection : Collection}
    (reported : Reported collection.records) (id : Nat) :
    Reported (visit arena path collection id).records := by
  unfold visit
  split
  · rw [visitExport]
    split
    · exact Collection.add_reported reported (defaultRecord_exported arena path id)
    · apply Collection.addAll_reported
      · apply Collection.addAll_reported reported
        cases arena.field? id "declaration" with
        | none => simp
        | some declaration => exact declarationRecords_exported arena declaration
      · cases arena.childOfKind? id "export_clause" with
        | none => simp
        | some clause => exact clauseRecords_exported arena clause
  · exact Collection.addAll_reported reported (assignmentRecords_exported arena id)
  · exact reported

theorem recordsFrom_reported (arena : Arena) (path : FilePath) (start : Nat) :
    Reported (recordsFrom arena path start) :=
  List.foldlRecOn (motive := fun collection => Reported collection.records) (arena.walk start)
    (visit arena path) reported_nil fun _ kept id _ => visit_reported arena path kept id

theorem exports_reported {grammar : Grammar} {settings : ParserSettings} {path : FilePath}
    {source : String} {records : List ExportRecord}
    (done : exports grammar settings path source = .ok records) : Reported records := by
  obtain ⟨extension, _, done⟩ := ok_of_bind done
  obtain ⟨arena, _, done⟩ := ok_of_bind done
  cases done
  exact recordsFrom_reported arena path 0

end JavaScript

namespace TypeScript

/-- However deep ambient declarations nest, what they declare is exported. -/
theorem declarationRecords_exported (arena : Arena) (depth id : Nat) :
    ∀ record ∈ declarationRecords arena depth id, record.exported = true := by
  induction depth generalizing id with
  | zero => simp [declarationRecords]
  | succ depth ih =>
    intro record member
    rw [declarationRecords] at member
    split at member
    · split at member
      · exact ih _ record member
      · simp at member
    · have single {name? : Option String} {make : String → ExportRecord}
          (exported : ∀ name, (make name).exported = true)
          (member : record ∈ (name?.map make).toList) : record.exported = true := by
        obtain ⟨name, _, rfl⟩ : ∃ name, name? = some name ∧ make name = record := by
          simpa using member
        exact exported name
      split at member
      · exact single (by simp) member
      · split at member
        · exact single (by simp) member
        · split at member
          · exact single (by simp) member
          · split at member
            · exact single (by simp) member
            · split at member
              · obtain ⟨declarator, _, found⟩ := List.mem_filterMap.mp member
                rw [declaratorRecord?] at found
                split at found
                · obtain ⟨name, _, rfl⟩ := Option.map_eq_some_iff.mp found
                  rfl
                · cases found
              · simp at member

theorem namedRecords_exported (arena : Arena) (id : Nat) :
    ∀ record ∈ namedRecords arena id, record.exported = true := by
  intro record member
  rw [namedRecords] at member
  rcases List.mem_append.mp member with member | whole
  · rcases List.mem_append.mp member with declared | listed
    · cases declaration : arena.field? id "declaration" with
      | none => simp [declaration] at declared
      | some inner =>
        rw [declaration] at declared
        exact declarationRecords_exported arena _ inner record declared
    · cases clause : arena.childOfKind? id "export_clause" with
      | none => simp [clause] at listed
      | some inner =>
        rw [clause] at listed
        obtain ⟨specifier, _, found⟩ := List.mem_filterMap.mp listed
        rw [specifierRecord?] at found
        split at found
        · obtain ⟨name, _, rfl⟩ := Option.map_eq_some_iff.mp found
          rfl
        · cases found
  · obtain ⟨clause, _, found⟩ := Option.bind_eq_some_iff.mp (Option.mem_toList.mp whole)
    obtain ⟨name, _, rfl⟩ := Option.map_eq_some_iff.mp found
    rfl

theorem defaultRecord_exported (arena : Arena) (path : FilePath) (id : Nat) :
    (defaultRecord arena path id).exported = true := by
  rw [defaultRecord]
  cases (arena.field? id "declaration").or (arena.field? id "value") with
  | none => rfl
  | some target => cases kind : defaultKind? (arena.kind target) <;> simp [kind]

/-- Everything that a visit adds is exported. -/
theorem visit_exported (arena : Arena) (path : FilePath) {records : List ExportRecord}
    (exported : ∀ record ∈ records, record.exported = true) (id : Nat) :
    ∀ record ∈ visit arena path records id, record.exported = true := by
  intro record member
  rw [visit] at member
  split at member
  · split at member
    · rcases List.mem_append.mp member with old | new
      · exact exported record old
      · exact List.mem_singleton.mp new ▸ defaultRecord_exported arena path id
    · rcases List.mem_append.mp member with old | new
      · exact exported record old
      · exact namedRecords_exported arena id record new
  · exact exported record member

theorem recordsFrom_reported (arena : Arena) (path : FilePath) (start : Nat) :
    Reported (recordsFrom arena path start) := by
  apply reported_dedup
  exact List.foldlRecOn
    (motive := fun records => ∀ record ∈ records, record.exported = true) (arena.walk start)
    (visit arena path) (fun _ member => absurd member List.not_mem_nil) fun _ kept id _ =>
      visit_exported arena path kept id

theorem exports_reported {plain elements : Grammar} {settings : ParserSettings}
    {path : FilePath} {source : String} {records : List ExportRecord}
    (done : exports plain elements settings path source = .ok records) : Reported records := by
  obtain ⟨extension, _, done⟩ := ok_of_bind done
  obtain ⟨_, _, done⟩ := ok_of_bind done
  cases done
  exact recordsFrom_reported _ path 0

end TypeScript

namespace Component

/-- Records that no export has reached are left out at the end. -/
theorem finish_reported (discovery : Discovery) : Reported discovery.finish := by
  apply reported_dedup
  intro record member
  exact (List.mem_filter.mp member).2

theorem exports_reported {untyped typed : Grammar} {settings : ParserSettings}
    {path : FilePath} {source : String} {records : List ExportRecord}
    (done : exports untyped typed settings path source = .ok records) : Reported records := by
  obtain ⟨extension, _, done⟩ := ok_of_bind done
  obtain ⟨_, _, done⟩ := ok_of_bind done
  cases done
  exact finish_reported _

end Component

namespace Python

/-- Public names are not empty, and none of them is repeated. -/
theorem publicNames_distinct (names : List String) :
    "" ∉ publicNames names ∧ (publicNames names).Nodup := by
  constructor
  · intro member
    exact firstOfEach_fresh id [""] _ "" member List.mem_cons_self
  · have distinct := firstOfEach_nodup id [""] (names.filter fun name => !isPrivate name)
    rwa [List.map_id] at distinct

theorem symbols_distinct {service : Service} {grammar : Grammar} {programs : Programs}
    {path : FilePath} {source : String} {names : List String}
    (done : service.symbols grammar programs path source = .ok names) :
    "" ∉ names ∧ names.Nodup := by
  rw [Service.symbols] at done
  split at done
  · cases done
  · cases found : service.found grammar programs path source with
    | error failure =>
      rw [found] at done
      cases done
    | ok all =>
      rw [found] at done
      cases done
      exact publicNames_distinct all

/-- What a program prints in time is read. -/
theorem interpreted_printed {programs : Programs} {name : String} {program : Program}
    {output : String} {limit : UInt64} {path : FilePath} {source : String}
    (present : programs name = some program)
    (prints : ∀ script source, program.run script source = .printed output)
    (limited : limit ≠ 0) :
    interpreted programs name limit path source = namesPrinted path output := by
  rw [interpreted, present]
  simp only [prints, if_neg limited]

/-- The records of a service are those of its names. -/
theorem Service.exists_symbols {service : Service} {grammar : Grammar} {programs : Programs}
    {path : FilePath} {source : String} {records : List ExportRecord}
    (done : service.exports grammar programs path source = .ok records) :
    ∃ names, service.symbols grammar programs path source = .ok names ∧
      records = names.map (named · .unknown) := by
  rw [exports] at done
  split at done
  · cases found : service.symbols grammar programs path source with
    | error failure =>
      rw [found] at done
      cases done
    | ok names =>
      rw [found] at done
      exact ⟨names, rfl, (Except.ok.inj done).symm⟩
  · cases done

/-- Whatever backend a service has chosen before, what it finds is fit. -/
theorem Service.exports_reported {service : Service} {grammar : Grammar} {programs : Programs}
    {path : FilePath} {source : String} {records : List ExportRecord}
    (done : service.exports grammar programs path source = .ok records) : Reported records := by
  obtain ⟨names, found, rfl⟩ := exists_symbols done
  obtain ⟨named, distinct⟩ := symbols_distinct found
  refine ⟨by simp, ?_, ?_⟩
  · intro record member
    obtain ⟨name, listed, rfl⟩ := List.mem_map.mp member
    exact fun empty => named (empty ▸ listed)
  · rw [List.map_map]
    exact (List.map_id names).symm ▸ distinct

end Python

theorem Parser.exportsUnder_reported {grammars : Grammars} {programs : Python.Programs}
    {settings : ParserSettings} {parser : Parser} {path : FilePath} {source : String}
    {records : List ExportRecord}
    (done : parser.exportsUnder grammars programs settings path source = .ok records) :
    Reported records := by
  cases parser with
  | javaScript => exact JavaScript.exports_reported done
  | typeScript => exact TypeScript.exports_reported done
  | component => exact Component.exports_reported done
  | python => exact Python.Service.exports_reported done

/-- A source that fails reports nothing, which is fit as well. -/
theorem Parser.foundUnder_reported (grammars : Grammars) (programs : Python.Programs)
    (settings : ParserSettings) (parser : Parser) (path : FilePath) (source : String) :
    Reported (parser.foundUnder grammars programs settings path source) := by
  unfold Parser.foundUnder
  split
  · next done => exact Parser.exportsUnder_reported done
  · exact reported_nil

/-- The batches of several parsers may share names; their merge does not. -/
theorem extractUnder_reported (grammars : Grammars) (programs : Python.Programs)
    (settings : ParserSettings) (language : SourceLanguage) (path : FilePath) (source : String) :
    Reported (extractUnder grammars programs settings language path source).records := by
  apply reported_dedup
  intro record member
  obtain ⟨batch, isBatch, listed⟩ := List.mem_flatten.mp member
  obtain ⟨result, isResult, succeeded⟩ := List.mem_filterMap.mp isBatch
  obtain ⟨parser, _, rfl⟩ := List.mem_map.mp isResult
  cases done : parser.exportsUnder grammars programs settings path source with
  | error failure =>
    rw [done] at succeeded
    cases succeeded
  | ok records =>
    rw [done] at succeeded
    cases succeeded
    exact (Parser.exportsUnder_reported done).exported record listed

/-- Whatever trees the grammars give and whatever programs print, every parser that succeeds,
a Python service with any backend chosen before, and every extraction report exported records with
names, one for each name. Hence the names of a source are those of its records, and its records are
their own merge. -/
theorem parsers_report_distinct_exports (grammars : Grammars) (programs : Python.Programs)
    (settings : ParserSettings) (path : FilePath) (source : String) :
    (∀ parser records,
      Parser.exportsUnder grammars programs settings parser path source = .ok records →
        Reported records ∧ names records = records.map ExportRecord.name ∧
          merge [records] = records) ∧
    (∀ service records,
      Python.Service.exports service grammars.python programs path source = .ok records →
        Reported records) ∧
    (∀ language,
      Reported (extractUnder grammars programs settings language path source).records) ∧
    (∀ parser, Parser.namesUnder grammars programs settings parser path source =
      (Parser.foundUnder grammars programs settings parser path source).map
        ExportRecord.name) := by
  refine ⟨fun parser records done => ?_, fun service records => ?_, fun language => ?_,
    fun parser => ?_⟩
  · have reported := Parser.exportsUnder_reported done
    exact ⟨reported, reported.names_eq, reported.merge_eq⟩
  · exact Python.Service.exports_reported
  · exact extractUnder_reported grammars programs settings language path source
  · exact (Parser.foundUnder_reported grammars programs settings parser path source).names_eq

/-- An interpreter that prints a name twice, a private one and an empty one, for every source. -/
def repeating : Python.Programs := fun _ =>
  some ⟨true, fun _ _ => .printed "[\"a\",\"_b\",\"a\",\"\"]\n"⟩

/-- The settings under which that interpreter is asked. -/
def asking : ParserSettings := ⟨100, .interpreter, "python3", 5⟩

theorem found_repeating :
    (Python.Service.new asking).found Python.grammar repeating ⟨"m.py"⟩ "a = 1" =
      .ok ["a", "_b", "a", ""] := by
  have chosen : (Python.Service.new asking).backend repeating = .interpreter := rfl
  have printed : Python.namesPrinted ⟨"m.py"⟩ "[\"a\",\"_b\",\"a\",\"\"]\n" =
      .ok ["a", "_b", "a", ""] := by cbv
  simp only [Python.Service.found, chosen]
  exact (Python.interpreted_printed rfl (fun _ _ => rfl) (by decide)).trans printed

theorem exportsUnder_repeating :
    Parser.python.exportsUnder .standard repeating asking ⟨"m.py"⟩ "a = 1" =
      .ok [named "a" .unknown] := by
  have known : FilePath.hasEnding ⟨"m.py"⟩ Python.endings = true := by cbv
  have fits : (Python.Service.new asking).isTooLarge "a = 1" = false := by cbv
  have listed : (Python.Service.new asking).symbols Python.grammar repeating ⟨"m.py"⟩ "a = 1" =
      .ok ["a"] := by
    rw [Python.Service.symbols, fits, found_repeating]
    rfl
  simp only [Parser.exportsUnder, Grammars.standard, Python.exports, Python.Service.exports,
    if_pos known, listed]
  rfl

/-- Of what that interpreter prints, one name is left, and merging it again keeps it. -/
theorem parsers_report_distinct_exports_of_repeating :
    Parser.python.exportsUnder .standard repeating asking ⟨"m.py"⟩ "a = 1" =
      .ok [named "a" .unknown] ∧ Reported [named "a" .unknown] ∧
      merge [[named "a" .unknown]] = [named "a" .unknown] :=
  have outcome := (parsers_report_distinct_exports .standard repeating asking ⟨"m.py"⟩
    "a = 1").1 .python _ exportsUnder_repeating
  ⟨exportsUnder_repeating, outcome.1, outcome.2.2⟩

end ExportIndex
