import ExportIndex.Metrics.Json
import ExportIndex.Proofs.Json.Printed
import ExportIndex.Proofs.Json.Restated
import ExportIndex.Record.Json
import ExportIndex.Settings.Json
import Mathlib

/-
This file shows that JSON carries records, settings and metrics: what is written is read back,
from either printed text, and also when members have changed places or unknown ones have been
added.
-/

namespace ExportIndex

open Json

/-- JSON carries a value of a type that is written and read in some way. -/
structure Carries {A : Type} (shape : Shape) (toJson : A → Json) (ofJson? : Json → Option A)
    (value : A) : Prop where
  /-- The written value has the shape that the type looks for. -/
  shaped : Restates shape (toJson value) (toJson value)
  /-- The value is read from whatever restates what is written. -/
  read : ∀ json, Restates shape (toJson value) json → ofJson? json = some value
  readCompact : (read? (toJson value).compact.toList).bind ofJson? = some value
  readPretty : (read? (toJson value).pretty.toList).bind ofJson? = some value

section Carries

variable {A : Type} {toJson : A → Json} {ofJson? : Json → Option A}

/-- Printed texts give back what is written, so it is enough to read that. -/
theorem Carries.of_read {shape : Shape} {value : A} (integral : (toJson value).Integral)
    (shaped : Restates shape (toJson value) (toJson value))
    (read : ∀ json, Restates shape (toJson value) json → ofJson? json = some value) :
    Carries shape toJson ofJson? value where
  shaped := shaped
  read := read
  readCompact := by rw [read?_compact integral, Option.bind_some, read _ shaped]
  readPretty := by rw [read?_pretty integral, Option.bind_some, read _ shaped]

/-- A list is read if each of its items is. -/
theorem toListOf?_restated {item : Shape} {values : List A} {json : Json}
    (restated : Restates (.listOf item) (.list (values.map toJson)) json)
    (each : ∀ value json, Restates item (toJson value) json → ofJson? json = some value) :
    json.toListOf? ofJson? = some values := by
  cases restated with
  | @list _ _ others restated =>
    have related := restated.forall₂
    have found : others.mapM ofJson? = some values := by
      induction values generalizing others with
      | nil =>
        cases related
        rfl
      | cons value rest ih =>
        obtain ⟨other, tail, first, behind, rfl⟩ := List.forall₂_cons_left_iff.mp related
        cases restated with
        | cons _ restated => simp [each value other first, ih restated behind]
    exact found

theorem integral_list {values : List A} (each : ∀ value, (toJson value).Integral) :
    (Json.list (values.map toJson)).Integral := by
  rw [Integral, integralItems_iff]
  intro item member
  obtain ⟨value, _, rfl⟩ := List.mem_map.mp member
  exact each value

theorem restates_listOf {item : Shape} (values : List A)
    (each : ∀ value, Restates item (toJson value) (toJson value)) :
    Restates (.listOf item) (.list (values.map toJson)) (.list (values.map toJson)) := by
  refine restates_list fun json member => ?_
  obtain ⟨value, _, rfl⟩ := List.mem_map.mp member
  exact each value

/-- An enumeration is read by the name of its member. -/
theorem oneOf?_name {name : A → String} {items : List A} {value : A}
    (found : items.find? (fun item => name item == name value) = some value) :
    oneOf? name items (.text (name value)) = some value :=
  found

@[simp] theorem required?_text (text : String) :
    required? toText? (some (.text text)) = some text := rfl

@[simp] theorem required?_bool (value : Bool) :
    required? toBool? (some (.bool value)) = some value := rfl

theorem toUInt64?_toNat (value : UInt64) :
    toUInt64? (.integer value.toNat) = some value := by
  have small : (value.toNat : Int) < UInt64.size := Int.ofNat_lt.mpr value.toNat_lt
  have inside : (0 ≤ (value.toNat : Int) && (value.toNat : Int) < UInt64.size) = true := by
    rw [Bool.and_eq_true]
    exact ⟨decide_eq_true (Int.natCast_nonneg _), decide_eq_true small⟩
  rw [toUInt64?, if_pos inside, Int.toNat_natCast, UInt64.ofNat_toNat]

@[simp] theorem required?_counter (value : UInt64) :
    required? toUInt64? (some (.integer value.toNat)) = some value := by
  rw [required?, Option.bind_some, toUInt64?_toNat]

@[simp] theorem onlyMember?_single (key : String) (value : Json) :
    onlyMember? (.object [(key, value)]) = some (key, value) := by
  simp [onlyMember?, member?]

end Carries

namespace PropertySignature

def shape : Shape := .struct (fieldNames.map fun name => (name, .plain))

theorem ofJson?_restated (property : PropertySignature) (json : Json)
    (restated : Restates shape property.toJson json) : ofJson? json = some property := by
  obtain ⟨field, read, plain, -⟩ := restated.fields? (by decide) (by simp) fieldNames 3
  simp only [fieldNames] at plain
  rw [ofJson?, read]
  simp [plain, member?]

theorem shaped (property : PropertySignature) :
    Restates shape property.toJson property.toJson :=
  restates_structure (by simp [fieldNames, Restates.plain])

theorem integral (property : PropertySignature) : property.toJson.Integral := by
  simp [toJson, Integral, IntegralMembers]

end PropertySignature

namespace ComponentProp

def shape : Shape := .struct (fieldNames.map fun name => (name, .plain))

theorem ofJson?_restated (prop : ComponentProp) (json : Json)
    (restated : Restates shape prop.toJson json) : ofJson? json = some prop := by
  obtain ⟨field, read, plain, -⟩ := restated.fields? (by decide) (by simp) fieldNames 2
  simp only [fieldNames] at plain
  rw [ofJson?, read]
  simp [plain, member?]

theorem shaped (prop : ComponentProp) : Restates shape prop.toJson prop.toJson :=
  restates_structure (by simp [fieldNames, Restates.plain])

theorem integral (prop : ComponentProp) : prop.toJson.Integral := by
  simp [toJson, Integral, IntegralMembers]

end ComponentProp

namespace Metadata

def shape : Shape :=
  .tagged [("properties", .listOf PropertySignature.shape), ("definition", .plain),
    ("props", .listOf ComponentProp.shape)]

theorem ofJson?_restated (metadata : Metadata) (json : Json)
    (restated : Restates shape metadata.toJson json) : ofJson? json = some metadata := by
  cases metadata with
  | properties items =>
    cases restated with
    | tagged case restated =>
      obtain rfl : _ = Shape.listOf PropertySignature.shape := by simpa using case
      have read := toListOf?_restated restated PropertySignature.ofJson?_restated
      simp [ofJson?, read]
  | definition text =>
    cases restated with
    | tagged case restated =>
      obtain rfl : _ = Shape.plain := by simpa using case
      simp [ofJson?, restated.eq_of_plain, toText?]
  | props items =>
    cases restated with
    | tagged case restated =>
      obtain rfl : _ = Shape.listOf ComponentProp.shape := by simpa using case
      have read := toListOf?_restated restated ComponentProp.ofJson?_restated
      simp [ofJson?, read]

theorem shaped (metadata : Metadata) : Restates shape metadata.toJson metadata.toJson := by
  cases metadata with
  | properties items =>
    exact .tagged (by simp) (restates_listOf items PropertySignature.shaped)
  | definition text => exact .tagged (by simp) (.plain _)
  | props items => exact .tagged (by simp) (restates_listOf items ComponentProp.shaped)

theorem integral (metadata : Metadata) : metadata.toJson.Integral := by
  cases metadata with
  | properties items => exact ⟨integral_list PropertySignature.integral, trivial⟩
  | definition text => exact ⟨trivial, trivial⟩
  | props items => exact ⟨integral_list ComponentProp.integral, trivial⟩

end Metadata

namespace ExportRecord

def shape : Shape :=
  .struct [("name", .plain), ("kind", .plain), ("exported", .plain), ("export_kind", .plain),
    ("metadata", Metadata.shape)]

theorem required?_kind (kind : SymbolKind) :
    required? SymbolKind.ofJson? (some (.text kind.name)) = some kind :=
  oneOf?_name (by cases kind <;> decide)

theorem ofJson?_exportKind (kind : ExportKind) :
    ExportKind.ofJson? (.text kind.name) = some kind :=
  oneOf?_name (by cases kind <;> decide)

/-- No export kind is written as null, and read so. -/
theorem optional?_exportKind (exportKind : Option ExportKind) :
    optional? ExportKind.ofJson?
      (some (exportKind.elim .null fun kind => .text kind.name)) = some exportKind := by
  cases exportKind with
  | none => rfl
  | some kind => simp [optional?, ofJson?_exportKind]

/-- No metadata is not written at all, and read as none. -/
theorem optional?_metadata {metadata : Option Metadata} {field : Option Json}
    (related : Option.Rel (Restates Metadata.shape) (metadata.map Metadata.toJson) field) :
    optional? Metadata.ofJson? field = some metadata := by
  cases metadata with
  | none =>
    cases related
    rfl
  | some metadata =>
    cases related with
    | @some _ other restated =>
      have read := Metadata.ofJson?_restated metadata other restated
      unfold optional?
      split
      · next absent => cases absent
      · next isNull =>
        obtain rfl := Option.some.inj isNull
        cases read
      · next value _ isValue =>
        obtain rfl := Option.some.inj isValue
        rw [read, Option.map_some]

/-- A member that may be missing hides no other one. -/
theorem member?_of_apart {key : String} (apart : "metadata" ≠ key)
    (members : List (String × Json)) (metadata : Option Metadata) :
    (object (members ++
        (metadata.map fun metadata => ("metadata", metadata.toJson)).toList)).member? key =
      (object members).member? key := by
  cases metadata <;> simp [member?, apart]

theorem ofJson?_restated (record : ExportRecord) (json : Json)
    (restated : Restates shape record.toJson json) : ofJson? json = some record := by
  obtain ⟨name, kind, exported, exportKind, metadata⟩ := record
  obtain ⟨field, read, plain, found⟩ := restated.fields? (by decide)
    (by cases metadata <;> simp) fieldNames 4
  have detail : Option.Rel (Restates Metadata.shape) (metadata.map Metadata.toJson)
      (field "metadata") := by
    have related := found "metadata" Metadata.shape (by simp)
    cases metadata <;> simpa [member?] using related
  have others (key : String) (isPlain : key ∈ ["name", "kind", "exported", "export_kind"]) :
      field key = (object [("name", .text name), ("kind", .text kind.name),
        ("exported", .bool exported),
        ("export_kind", exportKind.elim .null fun kind => .text kind.name)]).member? key := by
    have apart : "metadata" ≠ key := by
      rintro rfl
      simp at isPlain
    have isField : (key, Shape.plain) ∈
        ["name", "kind", "exported", "export_kind"].map (fun name => (name, Shape.plain)) ++
          [("metadata", Metadata.shape)] :=
      List.mem_append_left _ (List.mem_map_of_mem isPlain)
    rw [plain key isField, member?_of_apart apart]
  rw [ofJson?, read]
  simp [others, member?, required?_kind, optional?_exportKind, optional?_metadata detail]

theorem shaped (record : ExportRecord) : Restates shape record.toJson record.toJson := by
  refine restates_structure fun member listed => ?_
  rcases List.mem_append.mp listed with plain | detail
  · simp only [List.mem_cons, List.not_mem_nil, or_false] at plain
    rcases plain with rfl | rfl | rfl | rfl
    all_goals exact ⟨.plain, by simp, .plain _⟩
  · obtain ⟨metadata, -, rfl⟩ : ∃ metadata, record.metadata = some metadata ∧
        ("metadata", metadata.toJson) = member := by
      simpa using detail
    exact ⟨Metadata.shape, by simp, metadata.shaped⟩

theorem integral (record : ExportRecord) : record.toJson.Integral := by
  obtain ⟨name, kind, exported, exportKind, metadata⟩ := record
  cases exportKind <;> cases metadata <;>
    simp [toJson, Integral, IntegralMembers, Metadata.integral]

end ExportRecord

namespace ParserSettings

def shape : Shape := .struct (fieldNames.map fun name => (name, .plain))

theorem required?_backend (backend : PythonBackend) :
    required? PythonBackend.ofJson? (some (.text backend.name)) = some backend :=
  oneOf?_name (by cases backend <;> decide)

theorem ofJson?_restated (settings : ParserSettings) (json : Json)
    (restated : Restates shape settings.toJson json) : ofJson? json = some settings := by
  obtain ⟨field, read, plain, -⟩ := restated.fields? (by decide) (by simp) fieldNames 4
  simp only [fieldNames] at plain
  rw [ofJson?, read]
  simp [plain, member?, required?_backend]

theorem shaped (settings : ParserSettings) : Restates shape settings.toJson settings.toJson :=
  restates_structure (by simp [fieldNames, Restates.plain])

theorem integral (settings : ParserSettings) : settings.toJson.Integral := by
  simp [toJson, Integral, IntegralMembers]

end ParserSettings

namespace ScanSettings

def shape : Shape :=
  .struct [("skip_dirs", .listOf .plain), ("mode", .plain), ("parser", ParserSettings.shape)]

theorem required?_mode (mode : OutputMode) :
    required? OutputMode.ofJson? (some (.text mode.name)) = some mode :=
  oneOf?_name (by cases mode <;> decide)

theorem toText?_restated (text : String) (json : Json)
    (restated : Restates .plain (.text text) json) : json.toText? = some text := by
  rw [restated.eq_of_plain, toText?]

theorem ofJson?_restated (settings : ScanSettings) (json : Json)
    (restated : Restates shape settings.toJson json) : ofJson? json = some settings := by
  obtain ⟨field, read, plain, found⟩ := restated.fields? (by decide) (by simp) fieldNames 3
  have isMode : field "mode" = some (.text settings.mode.name) := by
    rw [plain "mode" (by simp)]
    simp [member?]
  have names : required? (toListOf? toText?) (field "skip_dirs") =
      some settings.skippedNames := by
    have related := found "skip_dirs" (.listOf .plain) (by simp)
    obtain ⟨own, isOwn, skipped⟩ := exists_of_some_rel (by simpa [member?] using related)
    rw [isOwn]
    exact toListOf?_restated skipped toText?_restated
  have parser : required? ParserSettings.ofJson? (field "parser") = some settings.parser := by
    have related := found "parser" ParserSettings.shape (by simp)
    obtain ⟨own, isOwn, parser⟩ := exists_of_some_rel (by simpa [member?] using related)
    rw [isOwn]
    exact ParserSettings.ofJson?_restated settings.parser own parser
  rw [ofJson?, read]
  simp [isMode, names, parser, required?_mode]

theorem shaped (settings : ScanSettings) : Restates shape settings.toJson settings.toJson := by
  refine restates_structure fun member listed => ?_
  simp only [List.mem_cons, List.not_mem_nil, or_false] at listed
  rcases listed with rfl | rfl | rfl
  · exact ⟨.listOf .plain, by simp, restates_listOf settings.skippedNames fun _ => .plain _⟩
  · exact ⟨.plain, by simp, .plain _⟩
  · exact ⟨ParserSettings.shape, by simp, settings.parser.shaped⟩

theorem integral (settings : ScanSettings) : settings.toJson.Integral := by
  have names : (Json.list (settings.skippedNames.map .text)).Integral :=
    integral_list fun _ => trivial
  exact ⟨names, trivial, settings.parser.integral, trivial⟩

end ScanSettings

namespace ScanMetrics

def shape : Shape := .struct (fieldNames.map fun name => (name, .plain))

/-- Milliseconds that 64 bits hold are written as they are. -/
theorem toJson_of_fits {metrics : ScanMetrics} (fits : metrics.scanTime < UInt64.size) :
    ∃ duration : UInt64, duration.toNat = metrics.scanTime ∧
      metrics.toJson =
        .object (metrics.counters ++ [("total_scan_time", .integer duration.toNat)]) := by
  have same : (UInt64.ofNat metrics.scanTime).toNat = metrics.scanTime :=
    UInt64.toNat_ofNat_of_lt' fits
  refine ⟨_, same, ?_⟩
  rw [toJson, Nat.mod_eq_of_lt fits, same]

theorem ofJson?_restated {metrics : ScanMetrics} (fits : metrics.scanTime < UInt64.size)
    (json : Json) (restated : Restates shape metrics.toJson json) :
    ofJson? json = some metrics := by
  obtain ⟨duration, isDuration, written⟩ := toJson_of_fits fits
  obtain ⟨_, _, _, _, _, _, _, _, scanTime⟩ := metrics
  obtain rfl : duration.toNat = scanTime := isDuration
  rw [written] at restated
  obtain ⟨field, read, plain, -⟩ := restated.fields? (by decide) (by simp [counters])
    fieldNames 9
  simp only [fieldNames] at plain
  rw [ofJson?, read]
  simp [plain, member?, counters]

theorem shaped (metrics : ScanMetrics) : Restates shape metrics.toJson metrics.toJson :=
  restates_structure (by simp [fieldNames, counters, Restates.plain])

theorem integral (metrics : ScanMetrics) : metrics.toJson.Integral := by
  simp [toJson, counters, Integral, IntegralMembers]

end ScanMetrics

/-- Records, settings and the metrics of scans that end within 64 bits of milliseconds come back
from JSON as they were written, however the members of objects are ordered and whatever members
are added to structures under other names. -/
theorem json_carries_values :
    (∀ record, Carries ExportRecord.shape ExportRecord.toJson ExportRecord.ofJson? record) ∧
      (∀ settings,
        Carries ParserSettings.shape ParserSettings.toJson ParserSettings.ofJson? settings) ∧
      (∀ settings,
        Carries ScanSettings.shape ScanSettings.toJson ScanSettings.ofJson? settings) ∧
      ∀ metrics : ScanMetrics, metrics.scanTime < UInt64.size →
        Carries ScanMetrics.shape ScanMetrics.toJson ScanMetrics.ofJson? metrics :=
  ⟨fun record => .of_read record.integral record.shaped record.ofJson?_restated,
    fun settings => .of_read settings.integral settings.shaped settings.ofJson?_restated,
    fun settings => .of_read settings.integral settings.shaped settings.ofJson?_restated,
    fun metrics fits =>
      .of_read metrics.integral metrics.shaped (ScanMetrics.ofJson?_restated fits)⟩

/-- The metrics of a scan of a second and a half. -/
def timed : ScanMetrics := ⟨3, 2, 1, 0, 1, 0, 0, 5, 1500⟩

/-- What is written of that scan, backwards and behind a member that metrics do not know. -/
def timedBackwards : Json :=
  .object (("host", .text "local") ::
    (timed.counters ++ [("total_scan_time", Json.integer 1500)]).reverse)

theorem timed_restated : Restates ScanMetrics.shape timed.toJson timedBackwards := by
  have members : ∀ member ∈ timed.counters ++ [("total_scan_time", Json.integer 1500)],
      ∃ shape, (member.1, shape) ∈ ScanMetrics.fieldNames.map (fun name => (name, Shape.plain)) ∧
        Restates shape member.2 member.2 := by
    simp [ScanMetrics.fieldNames, ScanMetrics.counters, Restates.plain]
  have foreign : ∀ member ∈ [("host", Json.text "local")], member.1 ∉
      (ScanMetrics.fieldNames.map fun name => (name, Shape.plain)).map Prod.fst := by
    simp [ScanMetrics.fieldNames]
  exact .struct (restatesMembers_refl members) foreign
    (((List.reverse_perm _).cons _).trans (List.perm_append_singleton _ _).symm)

/-- The metrics of that scan are read from their members in another order. -/
theorem json_carries_values_of_timed :
    timed.scanTime < UInt64.size ∧ ScanMetrics.ofJson? timedBackwards = some timed :=
  have fits : timed.scanTime < UInt64.size := by decide
  ⟨fits, (json_carries_values.2.2.2 timed fits).read timedBackwards timed_restated⟩

end ExportIndex
