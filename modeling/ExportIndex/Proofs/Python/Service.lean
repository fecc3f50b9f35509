import ExportIndex.Proofs.Extraction.Refusal
import ExportIndex.Proofs.Extraction.Reported
import Mathlib

/-
This file says how a service settles on a backend while the programs change from one request to the
next. The first request that needs a backend decides by the programs of its time, and whatever needs
one from then on is answered by that backend.
-/

namespace ExportIndex.Python

/-- What a service is asked for. -/
inductive Call where
  | availability
  | backend
  | symbols (path : FilePath) (source : String)
  /-- The names alone; a failure has none. -/
  | symbolsOrNone (path : FilePath) (source : String)
  | exports (path : FilePath) (source : String)

/-- A call, and the programs that there are at its time. -/
structure Request where
  call : Call
  programs : Programs

inductive Answer where
  | availability (available : Bool)
  | backend (backend : Backend)
  | names (result : Except ParseFailure (List String))
  | records (result : Except ParseFailure (List ExportRecord))

namespace Service

def answer (grammar : Grammar) (service : Service) : Request → Answer
  | ⟨.availability, programs⟩ =>
    .availability (programs.isAvailable service.settings.pythonInterpreter)
  | ⟨.backend, programs⟩ => .backend (service.backend programs)
  | ⟨.symbols path source, programs⟩ => .names (service.symbols grammar programs path source)
  | ⟨.symbolsOrNone path source, programs⟩ =>
    .names (.ok ((service.symbols grammar programs path source).toOption.getD []))
  | ⟨.exports path source, programs⟩ => .records (service.exports grammar programs path source)

/-- The service behind a request. Records are looked for under a supported extension only. -/
def next (service : Service) : Request → Service
  | ⟨.availability, _⟩ => service
  | ⟨.backend, programs⟩ => service.decided programs
  | ⟨.symbols _ source, programs⟩ => service.afterSymbols programs source
  | ⟨.symbolsOrNone _ source, programs⟩ => service.afterSymbols programs source
  | ⟨.exports path source, programs⟩ =>
    if path.hasEnding endings then service.afterSymbols programs source else service

def after (service : Service) (requests : List Request) : Service := requests.foldl next service

end Service

/-- A call is answered by a backend. A source that is too large is not looked at, and neither is one
whose records are wanted under another extension. -/
inductive Call.NeedsBackend (settings : ParserSettings) : Call → Prop
  | backend : NeedsBackend settings .backend
  | symbols {path : FilePath} {source : String}
      (small : source.utf8ByteSize ≤ settings.maxFileSize.toNat) :
      NeedsBackend settings (.symbols path source)
  | symbolsOrNone {path : FilePath} {source : String}
      (small : source.utf8ByteSize ≤ settings.maxFileSize.toNat) :
      NeedsBackend settings (.symbolsOrNone path source)
  | exports {path : FilePath} {source : String} (known : path.extension? = some "py")
      (small : source.utf8ByteSize ≤ settings.maxFileSize.toNat) :
      NeedsBackend settings (.exports path source)

/-- A backend is the one for some settings while there are given programs. -/
inductive Suits (settings : ParserSettings) (programs : Programs) : Backend → Prop
  | embedded (demanded : settings.pythonBackend = .embedded) : Suits settings programs .embedded
  | interpreter (allowed : settings.pythonBackend ≠ .embedded)
      (answers : programs.isAvailable settings.pythonInterpreter = true) :
      Suits settings programs .interpreter
  | substitute (free : settings.pythonBackend = .auto)
      (silent : programs.isAvailable settings.pythonInterpreter = false) :
      Suits settings programs .embedded
  | unavailable (demanded : settings.pythonBackend = .interpreter)
      (silent : programs.isAvailable settings.pythonInterpreter = false) :
      Suits settings programs .unavailable

/-- A backend suits the first of some requests that needs one. -/
def Decides (settings : ParserSettings) (requests : List Request) (backend : Backend) : Prop :=
  ∃ earlier request later, requests = earlier ++ request :: later ∧
    (∀ other ∈ earlier, ¬ other.call.NeedsBackend settings) ∧
    request.call.NeedsBackend settings ∧ Suits settings request.programs backend

/-- The names that a backend finds in a source, private ones included. -/
def Backend.found (settings : ParserSettings) (grammar : Grammar) (programs : Programs)
    (path : FilePath) (source : String) : Backend → Except ParseFailure (List String)
  | interpreter =>
    interpreted programs settings.pythonInterpreter settings.pythonTimeout path source
  | embedded => topLevel grammar path source
  | unavailable => .ok []

/-- A backend answers a request that needs one. -/
inductive Backend.Answers (settings : ParserSettings) (grammar : Grammar) (backend : Backend) :
    Request → Answer → Prop
  | backend {programs : Programs} :
      Answers settings grammar backend ⟨.backend, programs⟩ (.backend backend)
  | symbols {path : FilePath} {source : String} {programs : Programs} :
      Answers settings grammar backend ⟨.symbols path source, programs⟩
        (.names ((backend.found settings grammar programs path source).map publicNames))
  | symbolsOrNone {path : FilePath} {source : String} {programs : Programs} :
      Answers settings grammar backend ⟨.symbolsOrNone path source, programs⟩
        (.names (.ok (((backend.found settings grammar programs path source).map
          publicNames).toOption.getD [])))
  | exports {path : FilePath} {source : String} {programs : Programs} :
      Answers settings grammar backend ⟨.exports path source, programs⟩
        (.records ((backend.found settings grammar programs path source).map fun names =>
          (publicNames names).map (ExportRecord.named · .unknown)))

/-- Names that may be shown. -/
structure ArePublic (names : List String) : Prop where
  named : "" ∉ names
  distinct : names.Nodup
  shown : ∀ name ∈ names, name.toList.head? ≠ some '_'

/-- What a service has decided behind some requests. -/
structure Keeps (settings : ParserSettings) (requests : List Request) : Prop where
  /-- Nothing is decided before a backend is needed. -/
  undecided : ((Service.new settings).after requests).chosen = none ↔
    ∀ request ∈ requests, ¬ request.call.NeedsBackend settings
  decided : ∀ backend, ((Service.new settings).after requests).chosen = some backend ↔
    Decides settings requests backend
  /-- What has been decided stays, whatever is asked for later. -/
  kept : ∀ backend later, Decides settings requests backend →
    ((Service.new settings).after (requests ++ later)).chosen = some backend
  embedded : ∀ backend, Decides settings requests backend →
    settings.pythonBackend = .embedded → backend = .embedded
  interpreter : ∀ backend, Decides settings requests backend →
    settings.pythonBackend = .interpreter → backend ≠ .embedded
  auto : ∀ backend, Decides settings requests backend →
    settings.pythonBackend = .auto → backend ≠ .unavailable

/-- How a service answers a request behind some others. -/
structure Replies (grammar : Grammar) (settings : ParserSettings) (requests : List Request)
    (request : Request) (answer : Answer) : Prop where
  /-- The backend that answers is the one that has been decided, perhaps by this request. -/
  answered : request.call.NeedsBackend settings →
    ∃ backend, Decides settings (requests ++ [request]) backend ∧
      backend.Answers settings grammar request answer
  /-- A probe tells of the programs that there are now. -/
  probed : request.call = .availability →
    answer = .availability (request.programs.isAvailable settings.pythonInterpreter)
  /-- A source that is too large fails, whatever the backend. -/
  large : ∀ path source, settings.maxFileSize.toNat < source.utf8ByteSize →
    request.call = .symbols path source →
      answer = .names (.error (.fileTooLarge path source.utf8ByteSize))
  names : ∀ names, answer = .names (.ok names) → ArePublic names
  records : ∀ records, answer = .records (.ok records) →
    ArePublic (records.map ExportRecord.name)
  /-- Without the interpreter that is demanded nothing is found, and that is no failure. -/
  nothing : ((Service.new settings).after (requests ++ [request])).chosen = some .unavailable →
    request.call.NeedsBackend settings → request.call ≠ .backend →
      answer = .names (.ok []) ∨ answer = .records (.ok [])

section Choice

variable {settings : ParserSettings} {programs : Programs} {backend : Backend}

theorem suits_iff :
    Suits settings programs backend ↔ backend = Python.backend programs settings := by
  rw [Python.backend]
  constructor
  · intro suits
    cases suits with
    | embedded demanded => simp [demanded]
    | interpreter allowed answers => cases demanded : settings.pythonBackend <;> simp_all
    | substitute free silent => simp [free, silent]
    | unavailable demanded silent => simp [demanded, silent]
  · rintro rfl
    cases demanded : settings.pythonBackend with
    | embedded => exact .embedded demanded
    | interpreter =>
      cases answers : programs.isAvailable settings.pythonInterpreter with
      | true => exact .interpreter (by simp [demanded]) answers
      | false => exact .unavailable demanded answers
    | auto =>
      cases answers : programs.isAvailable settings.pythonInterpreter with
      | true => exact .interpreter (by simp [demanded]) answers
      | false => exact .substitute demanded answers

theorem Decides.append {requests : List Request} (decides : Decides settings requests backend)
    (later : List Request) : Decides settings (requests ++ later) backend := by
  obtain ⟨earlier, request, between, rfl, idle, needs, suits⟩ := decides
  exact ⟨earlier, request, between ++ later, by simp, idle, needs, suits⟩

/-- Either no request needs a backend or one of them is the first. -/
theorem idle_or_decides (settings : ParserSettings) (requests : List Request) :
    (∀ request ∈ requests, ¬ request.call.NeedsBackend settings) ∨
      ∃ backend, Decides settings requests backend := by
  induction requests with
  | nil => exact .inl (by simp)
  | cons request rest ih =>
    by_cases needs : request.call.NeedsBackend settings
    · exact .inr ⟨_, [], request, rest, rfl, by simp, needs, suits_iff.mpr rfl⟩
    · rcases ih with idle | ⟨backend, earlier, first, later, rfl, idle, first_needs, suits⟩
      · exact .inl (List.forall_mem_cons.mpr ⟨needs, idle⟩)
      · exact .inr ⟨backend, request :: earlier, first, later, rfl,
          List.forall_mem_cons.mpr ⟨needs, idle⟩, first_needs, suits⟩

end Choice

theorem hasEnding_iff {path : FilePath} :
    path.hasEnding endings = true ↔ path.extension? = some "py" := by
  have same : Parser.python.canParse path = path.hasEnding endings := rfl
  rw [← same, Parser.canParse_iff]
  simp [Parser.extensions]

theorem arePublic_publicNames (names : List String) : ArePublic (publicNames names) := by
  obtain ⟨named, distinct⟩ := publicNames_distinct names
  refine ⟨named, distinct, fun name member => ?_⟩
  have kept := (firstOfEach_sublist id [""] _).subset member
  simpa [isPrivate] using (List.mem_filter.mp kept).2

theorem arePublic_nil : ArePublic [] := ⟨by simp, .nil, by simp⟩

namespace Service

variable {service : Service} {request : Request} {grammar : Grammar} {programs : Programs}
  {path : FilePath} {source : String}

section States

theorem isTooLarge_iff : service.isTooLarge source = true ↔
    service.settings.maxFileSize.toNat < source.utf8ByteSize := by
  rw [isTooLarge, decide_eq_true_iff]

theorem not_isTooLarge (small : source.utf8ByteSize ≤ service.settings.maxFileSize.toNat) :
    ¬ service.isTooLarge source = true := by
  rw [isTooLarge_iff, Nat.not_lt]
  exact small

theorem next_of_needs (needs : request.call.NeedsBackend service.settings) :
    service.next request = service.decided request.programs := by
  obtain ⟨call, programs⟩ := request
  cases needs with
  | backend => rfl
  | symbols small => exact if_neg (not_isTooLarge small)
  | symbolsOrNone small => exact if_neg (not_isTooLarge small)
  | exports known small =>
    exact (if_pos (hasEnding_iff.mpr known)).trans (if_neg (not_isTooLarge small))

theorem next_of_idle (idle : ¬ request.call.NeedsBackend service.settings) :
    service.next request = service := by
  obtain ⟨call, programs⟩ := request
  have unread {source : String}
      (needs : source.utf8ByteSize ≤ service.settings.maxFileSize.toNat → False) :
      service.afterSymbols programs source = service :=
    if_pos (isTooLarge_iff.mpr (Nat.lt_of_not_le needs))
  cases call with
  | availability => rfl
  | backend => exact absurd .backend idle
  | symbols path source => exact unread fun small => idle (.symbols small)
  | symbolsOrNone path source => exact unread fun small => idle (.symbolsOrNone small)
  | exports path source =>
    by_cases supported : path.hasEnding endings = true
    · have known := hasEnding_iff.mp supported
      exact (if_pos supported).trans (unread fun small => idle (.exports known small))
    · exact if_neg supported

theorem next_of_chosen {backend : Backend} (chosen : service.chosen = some backend)
    (request : Request) : service.next request = service := by
  by_cases needs : request.call.NeedsBackend service.settings
  · rw [next_of_needs needs, decided, Service.backend, chosen, Option.getD_some, ← chosen]
  · exact next_of_idle needs

theorem settings_next (service : Service) (request : Request) :
    (service.next request).settings = service.settings := by
  by_cases needs : request.call.NeedsBackend service.settings
  · rw [next_of_needs needs, decided]
  · rw [next_of_idle needs]

theorem after_append (service : Service) (requests later : List Request) :
    service.after (requests ++ later) = (service.after requests).after later :=
  List.foldl_append

theorem settings_after (service : Service) (requests : List Request) :
    (service.after requests).settings = service.settings :=
  List.foldlRecOn (motive := fun after => after.settings = service.settings) requests next rfl
    fun _ kept request _ => (settings_next _ request).trans kept

theorem after_of_idle {requests : List Request}
    (idle : ∀ request ∈ requests, ¬ request.call.NeedsBackend service.settings) :
    service.after requests = service :=
  List.foldlRecOn (motive := fun after => after = service) requests next rfl
    fun _ same request member => (congrArg (next · request) same).trans
      (next_of_idle (idle request member))

theorem after_of_chosen {backend : Backend} (chosen : service.chosen = some backend)
    (requests : List Request) : service.after requests = service :=
  List.foldlRecOn (motive := fun after => after = service) requests next rfl
    fun _ same request _ => (congrArg (next · request) same).trans
      (next_of_chosen chosen request)

end States

section Decisions

variable {settings : ParserSettings} {requests : List Request} {backend : Backend}

theorem after_of_decides (decides : Decides settings requests backend) :
    (new settings).after requests = ⟨settings, some backend⟩ := by
  obtain ⟨earlier, request, later, rfl, idle, needs, suits⟩ := decides
  have here : (new settings).after (earlier ++ [request]) = ⟨settings, some backend⟩ := by
    have before : (new settings).after earlier = new settings := after_of_idle idle
    rw [after_append, before, suits_iff.mp suits]
    exact next_of_needs needs
  rw [List.append_cons, after_append, here, after_of_chosen rfl]

theorem chosen_eq_some_iff :
    ((new settings).after requests).chosen = some backend ↔ Decides settings requests backend := by
  refine ⟨fun chosen => ?_, fun decides => congrArg chosen (after_of_decides decides)⟩
  rcases idle_or_decides settings requests with idle | ⟨other, decides⟩
  · rw [after_of_idle idle] at chosen
    cases chosen
  · rw [after_of_decides decides] at chosen
    exact Option.some.inj chosen ▸ decides

theorem chosen_eq_none_iff : ((new settings).after requests).chosen = none ↔
    ∀ request ∈ requests, ¬ request.call.NeedsBackend settings := by
  refine ⟨fun nothing => ?_, fun idle => congrArg chosen (after_of_idle idle)⟩
  rcases idle_or_decides settings requests with idle | ⟨backend, decides⟩
  · exact idle
  · rw [after_of_decides decides] at nothing
    cases nothing

theorem keeps (settings : ParserSettings) (requests : List Request) : Keeps settings requests := by
  have suits {backend : Backend} (decides : Decides settings requests backend) :
      ∃ programs, Suits settings programs backend :=
    have ⟨_, request, _, _, _, _, suits⟩ := decides
    ⟨request.programs, suits⟩
  refine ⟨chosen_eq_none_iff, fun backend => chosen_eq_some_iff,
    fun backend later decides => chosen_eq_some_iff.mpr (decides.append later), ?_, ?_, ?_⟩
  all_goals
    intro backend decides setting
    obtain ⟨programs, suits⟩ := suits decides
    cases suits <;> simp_all

end Decisions

section Answers

theorem found_eq : service.found grammar programs path source =
    (service.backend programs).found service.settings grammar programs path source := by
  rw [found]
  split <;> next chosen => rw [chosen]; rfl

theorem symbols_of_small
    (small : source.utf8ByteSize ≤ service.settings.maxFileSize.toNat) :
    service.symbols grammar programs path source =
      ((service.backend programs).found service.settings grammar programs path source).map
        publicNames := by
  rw [symbols, if_neg (not_isTooLarge small), found_eq]

theorem symbols_of_large
    (large : service.settings.maxFileSize.toNat < source.utf8ByteSize) :
    service.symbols grammar programs path source =
      .error (.fileTooLarge path source.utf8ByteSize) :=
  if_pos (isTooLarge_iff.mpr large)

theorem exports_of_small (known : path.extension? = some "py")
    (small : source.utf8ByteSize ≤ service.settings.maxFileSize.toNat) :
    service.exports grammar programs path source =
      ((service.backend programs).found service.settings grammar programs path source).map
        fun names => (publicNames names).map (ExportRecord.named · .unknown) := by
  rw [exports, if_pos (hasEnding_iff.mpr known), symbols_of_small small]
  cases (service.backend programs).found service.settings grammar programs path source <;> rfl

theorem answers_of_needs (needs : request.call.NeedsBackend service.settings) :
    (service.backend request.programs).Answers service.settings grammar request
      (service.answer grammar request) := by
  obtain ⟨call, programs⟩ := request
  cases needs with
  | backend => exact .backend
  | symbols small =>
    rw [answer, symbols_of_small small]
    exact .symbols
  | symbolsOrNone small =>
    rw [answer, symbols_of_small small]
    exact .symbolsOrNone
  | exports known small =>
    rw [answer, exports_of_small known small]
    exact .exports

theorem arePublic_of_symbols {names : List String}
    (done : service.symbols grammar programs path source = .ok names) : ArePublic names := by
  rcases Nat.lt_or_ge service.settings.maxFileSize.toNat source.utf8ByteSize with large | small
  · rw [symbols_of_large large] at done
    cases done
  · rw [symbols_of_small small] at done
    cases found : (service.backend programs).found service.settings grammar programs path source
      with
    | error failure =>
      rw [found] at done
      cases done
    | ok all =>
      rw [found] at done
      cases done
      exact arePublic_publicNames all

theorem arePublic_of_exports {records : List ExportRecord}
    (done : service.exports grammar programs path source = .ok records) :
    ArePublic (records.map ExportRecord.name) := by
  obtain ⟨names, found, rfl⟩ := exists_symbols done
  rw [List.map_map]
  exact (List.map_id names).symm ▸ arePublic_of_symbols found

theorem arePublic_of_answer {names : List String}
    (answers : service.answer grammar request = .names (.ok names)) : ArePublic names := by
  obtain ⟨call, programs⟩ := request
  cases call with
  | availability | backend | exports => cases answers
  | symbols path source =>
    exact arePublic_of_symbols (Answer.names.inj answers)
  | symbolsOrNone path source =>
    obtain rfl := Except.ok.inj (Answer.names.inj answers)
    cases found : service.symbols grammar programs path source with
    | error failure => exact arePublic_nil
    | ok names => exact arePublic_of_symbols found

theorem arePublic_of_records {records : List ExportRecord}
    (answers : service.answer grammar request = .records (.ok records)) :
    ArePublic (records.map ExportRecord.name) := by
  obtain ⟨call, programs⟩ := request
  cases call with
  | availability | backend | symbols | symbolsOrNone => cases answers
  | exports path source => exact arePublic_of_exports (Answer.records.inj answers)

/-- Where no interpreter answers there is nothing to find. -/
theorem nothing_of_unavailable {settings : ParserSettings} {answer : Answer}
    (answers : Backend.unavailable.Answers settings grammar request answer)
    (extracts : request.call ≠ .backend) :
    answer = .names (.ok []) ∨ answer = .records (.ok []) := by
  cases answers with
  | backend => exact absurd rfl extracts
  | symbols | symbolsOrNone => exact .inl rfl
  | exports => exact .inr rfl

end Answers

/-- A request that needs a backend is answered by the one that has been decided behind it. -/
theorem decides_of_needs {settings : ParserSettings} {requests : List Request} {request : Request}
    (needs : request.call.NeedsBackend settings) :
    Decides settings (requests ++ [request])
      (((new settings).after requests).backend request.programs) := by
  have kept : ((new settings).after requests).settings = settings := settings_after _ requests
  have behind : (new settings).after (requests ++ [request]) =
      ((new settings).after requests).next request := after_append _ requests [request]
  rw [← chosen_eq_some_iff, behind]
  exact congrArg chosen (next_of_needs (kept.symm ▸ needs))

theorem replies (grammar : Grammar) (settings : ParserSettings) (requests : List Request)
    (request : Request) :
    Replies grammar settings requests request
      (((new settings).after requests).answer grammar request) := by
  have kept : ((new settings).after requests).settings = settings := settings_after _ requests
  have decides (needs : request.call.NeedsBackend settings) :
      Decides settings (requests ++ [request])
        (((new settings).after requests).backend request.programs) := decides_of_needs needs
  generalize (new settings).after requests = service at *
  subst kept
  refine ⟨fun needs => ⟨_, decides needs, answers_of_needs needs⟩, ?_, ?_,
    fun names answers => arePublic_of_answer answers,
    fun records answers => arePublic_of_records answers, ?_⟩
  · intro probes
    obtain ⟨call, programs⟩ := request
    obtain rfl : call = .availability := probes
    rfl
  · intro path source large extracts
    obtain ⟨call, programs⟩ := request
    obtain rfl : call = .symbols path source := extracts
    exact congrArg Answer.names (symbols_of_large large)
  · intro chosen needs extracts
    have same := (chosen_eq_some_iff.mpr (decides needs)).symm.trans chosen
    have answers : (service.backend request.programs).Answers service.settings grammar request
        (service.answer grammar request) := answers_of_needs needs
    rw [Option.some.inj same] at answers
    exact nothing_of_unavailable answers extracts

end Service

/-- While the programs change between requests, the first request that needs a backend decides on
one, by the settings and the programs of its time. It stays, and all later requests that need a
backend are answered by it. Probes and sources that are too large decide nothing. What is shown are
public names, each once. Where the interpreter is demanded and missing, a source that is not too
large has no names and does not fail; one that is too large fails there as well. -/
theorem first_need_decides_backend (grammar : Grammar) (settings : ParserSettings)
    (requests : List Request) (request : Request) :
    Keeps settings requests ∧
      Replies grammar settings requests request
        (((Service.new settings).after requests).answer grammar request) :=
  ⟨Service.keeps settings requests, Service.replies grammar settings requests request⟩

-- The interpreter is there when it is probed and missing when the backend is asked for, and that
-- it comes back changes nothing.
example (present : Programs) : ((Service.new .standard).after
    [⟨.availability, present⟩, ⟨.backend, fun _ => none⟩, ⟨.backend, present⟩]).chosen =
      some .embedded := rfl

/-- An interpreter is demanded, and a source of two bytes is too large. -/
def demanding : ParserSettings := ⟨1, .interpreter, "python3", 5000⟩

/-- There are no programs, so that the interpreter is unavailable for good. A source that is too large
fails nevertheless. -/
theorem large_module_fails_while_unavailable :
    ((Service.new demanding).after [⟨.backend, fun _ => none⟩]).chosen = some .unavailable ∧
      ((Service.new demanding).after [⟨.backend, fun _ => none⟩]).answer Python.grammar
          ⟨.symbols ⟨"m.py"⟩ "x = 1", fun _ => none⟩ =
        .names (.error (.fileTooLarge ⟨"m.py"⟩ 5)) := by
  refine ⟨rfl, ?_⟩
  cbv

end ExportIndex.Python
