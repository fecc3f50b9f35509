import ExportIndex.Proofs.JavaScript.Erasure.Passes
import Mathlib

/-
This file follows the rules of the erasure over a list of statements each of which has one
annotation. A rule looks at one line at a time there: an annotation ends at its terminator, and
nothing else in the text has a colon.
-/

namespace ExportIndex.JavaScript.Erasure

open Text

section Apart

variable {first second separators : List Char} {separator : Char}

/-- The characters that occur in no mark. -/
def Separates (character : Char) : Prop :=
  character ≠ ':' ∧ character ∉ "interface".toList ∧ character ∉ "type".toList

instance (character : Char) : Decidable (Separates character) :=
  inferInstanceAs (Decidable (_ ∧ _ ∧ _))

/-- A word does not go over a character that it does not have. -/
theorem infix_of_append_cons {word : List Char} (absent : separator ∉ word)
    (within : word <:+: first ++ separator :: second) : word <:+: first ∨ word <:+: second := by
  rcases List.infix_append_iff.mp within with before | within | ⟨start, rest, rfl, ends, starts⟩
  · exact .inl before
  · rcases List.infix_cons_iff.mp within with starts | behind
    · rcases List.prefix_cons_iff.mp starts with rfl | ⟨rest, rfl, _⟩
      · exact .inl List.nil_infix
      · exact absurd List.mem_cons_self absent
    · exact .inr behind
  · rcases List.prefix_cons_iff.mp starts with rfl | ⟨rest, rfl, _⟩
    · rw [List.append_nil]
      exact .inl ends.isInfix
    · exact absurd (List.mem_append_right _ List.mem_cons_self) absent

theorem Unmarked.append_cons (before : Unmarked first) (behind : Unmarked second)
    (separates : Separates separator) : Unmarked (first ++ separator :: second) := by
  obtain ⟨other, interfaceless, typeless⟩ := separates
  constructor
  · simp [before.colonless, behind.colonless, other.symm]
  · intro within
    exact (infix_of_append_cons interfaceless within).elim before.interfaceless
      behind.interfaceless
  · intro within
    exact (infix_of_append_cons typeless within).elim before.typeless behind.typeless

theorem unmarked_nil : Unmarked [] := ⟨by decide, by decide, by decide⟩

/-- No mark arises where unmarked texts are put together with separators between them. -/
theorem Unmarked.append (before : Unmarked first) (behind : Unmarked second)
    (apart : separators ≠ []) (separate : ∀ character ∈ separators, Separates character) :
    Unmarked (first ++ (separators ++ second)) := by
  induction separators generalizing first with
  | nil => exact absurd rfl apart
  | cons separator others ih =>
    obtain ⟨separates, separate⟩ := List.forall_mem_cons.mp separate
    cases others with
    | nil => exact before.append_cons behind separates
    | cons next others =>
      exact before.append_cons (ih unmarked_nil (List.cons_ne_nil _ _) separate) separates

end Apart

section Colonless

theorem colon_not_mem_name (name : Name) : ':' ∉ name.text := by
  intro member
  rcases List.mem_cons.mp member with isFirst | isFurther
  · have starts := name.starts
    rw [← isFirst] at starts
    exact absurd starts (by decide)
  · exact absurd (name.continues _ isFurther) (by decide)

theorem colon_not_mem_blanks (blanks : Blanks) : ':' ∉ blanks.text := fun member =>
  absurd (blanks.blank _ member) (by decide)

theorem colon_not_mem_member (member : Member) : ':' ∉ member.text := by
  rw [Member.text, List.mem_append, not_or]
  refine ⟨colon_not_mem_name member.name, ?_⟩
  split <;> decide

theorem colon_not_mem_type (type : SimpleType) : ':' ∉ type.text := by
  rw [SimpleType.text, List.mem_append, List.mem_flatMap, not_or]
  refine ⟨colon_not_mem_member type.first, ?_⟩
  rintro ⟨⟨before, behind, member⟩, _, colon⟩
  simp [Alternative.text, colon_not_mem_blanks, colon_not_mem_member] at colon

theorem replaceAll_colonless {terminator : Char} {replacement text : List Char}
    (colonless : ':' ∉ text) (rest : List Char) :
    replaceAll (afterAnnotation? terminator) replacement (text ++ rest) =
      text ++ replaceAll (afterAnnotation? terminator) replacement rest := by
  induction text with
  | nil => rfl
  | cons character text ih =>
    obtain ⟨other, colonless⟩ := not_or.mp (List.mem_cons.not.mp colonless)
    rw [List.cons_append, List.cons_append, replaceAll_of_none, ih colonless]
    unfold afterAnnotation?
    split
    · next isColon => exact absurd (List.cons.inj isColon).1.symm other
    · rfl

end Colonless

/-- A text without types, and a type for the place before one of its terminators. -/
structure Line where
  before : List Char
  type : SimpleType
  terminator : Char
  behind : List Char
  known : terminator ∈ terminators
  unmarkedBefore : Unmarked before
  unmarkedBehind : Unmarked behind

/-- The annotation of a line is there unless the rule of its terminator has been applied. -/
def Line.text (applied : List Char) (line : Line) : List Char :=
  line.before ++ ((if line.terminator ∈ applied then [] else ':' :: ' ' :: line.type.text) ++
    (kept line.terminator ++ line.behind))

def joined (applied : List Char) (lines : List Line) : List Char :=
  ['\n'].intercalate (lines.map (Line.text applied))

theorem terminator_cases {terminator : Char} (known : terminator ∈ terminators) :
    terminator = '=' ∨ terminator = ';' ∨ terminator = ')' := by
  simpa [terminators] using known

theorem trimStart_kept {terminator : Char} (known : terminator ∈ terminators)
    (rest : List Char) : trimStart (kept terminator ++ rest) = terminator :: rest := by
  rcases terminator_cases known with rfl | rfl | rfl <;> rfl

theorem separates_kept {terminator : Char} (known : terminator ∈ terminators) :
    ∀ character ∈ kept terminator, Separates character := by
  rcases terminator_cases known with rfl | rfl | rfl
  · exact List.forall_mem_cons.mpr ⟨by decide, List.forall_mem_singleton.mpr (by decide)⟩
  · exact List.forall_mem_singleton.mpr (by decide)
  · exact List.forall_mem_singleton.mpr (by decide)

theorem colon_not_mem_kept {terminator : Char} (known : terminator ∈ terminators) :
    ':' ∉ kept terminator := fun isColon => (separates_kept known ':' isColon).1 rfl

theorem kept_ne_nil (terminator : Char) : kept terminator ≠ [] := by
  rw [kept]
  split <;> exact List.cons_ne_nil _ _

theorem ends_kept {terminator : Char} (known : terminator ∈ terminators) (rest : List Char) :
    Ends (kept terminator ++ rest) := by
  rcases terminator_cases known with rfl | rfl | rfl <;> exact ends_cons (by decide) (by decide) _

theorem advances_afterAnnotation? (terminator : Char) : Advances (afterAnnotation? terminator) := by
  intro text behind found
  obtain ⟨matched, ⟨before, type, blanks⟩, rfl⟩ := afterAnnotation?_eq_some found
  simp only [List.cons_append, List.length_cons, List.length_append]
  omega

/-- The rule of a terminator finds an annotation if that is what ends it. -/
theorem afterAnnotation?_line (line : Line) (terminator : Char) (rest : List Char) :
    afterAnnotation? terminator
        (':' :: ' ' :: (line.type.text ++ (kept line.terminator ++ rest))) =
      if line.terminator = terminator then some rest else none := by
  have closed : (trimStart (kept line.terminator ++ rest)).head? ≠ some '|' := by
    rw [trimStart_kept line.known, List.head?_cons]
    intro isBar
    have known := line.known
    rw [Option.some.inj isBar] at known
    exact absurd known (by decide)
  have space : ∀ character ∈ [' '], isBlank character = true :=
    List.forall_mem_singleton.mpr rfl
  have passed := afterAnnotation?_text terminator ⟨[' '], space⟩ line.type
    (ends_kept line.known rest) closed
  rw [trimStart_kept line.known] at passed
  simpa [afterText?, eq_comm] using passed

theorem replaceAll_ending (line : Line) (terminator : Char) (replacement rest : List Char) :
    replaceAll (afterAnnotation? terminator) replacement
        (kept line.terminator ++ (line.behind ++ rest)) =
      kept line.terminator ++
        (line.behind ++ replaceAll (afterAnnotation? terminator) replacement rest) := by
  rw [replaceAll_colonless (colon_not_mem_kept line.known),
    replaceAll_colonless line.unmarkedBehind.colonless]

/-- The rule of a terminator goes past a line and takes out the annotation that it ends. -/
theorem replaceAll_line (line : Line) (terminator : Char) (applied rest : List Char) :
    replaceAll (afterAnnotation? terminator) (kept terminator) (line.text applied ++ rest) =
      line.text (terminator :: applied) ++
        replaceAll (afterAnnotation? terminator) (kept terminator) rest := by
  have found := afterAnnotation?_line line terminator (line.behind ++ rest)
  simp only [Line.text, List.append_assoc]
  rw [replaceAll_colonless line.unmarkedBefore.colonless]
  apply congrArg
  by_cases earlier : line.terminator ∈ applied
  · rw [if_pos earlier, if_pos (List.mem_cons_of_mem _ earlier), List.nil_append, List.nil_append,
      replaceAll_ending]
  rw [if_neg earlier, List.cons_append, List.cons_append]
  by_cases same : line.terminator = terminator
  · rw [if_pos same] at found
    rw [replaceAll_of_some (advances_afterAnnotation? terminator) found,
      replaceAll_colonless line.unmarkedBehind.colonless, same, if_pos List.mem_cons_self,
      List.nil_append]
  -- An annotation that another terminator ends has no further colon for the rule to start at.
  · rw [if_neg same] at found
    have waiting : line.terminator ∉ terminator :: applied :=
      List.not_mem_cons_of_ne_of_not_mem same earlier
    have space (text : List Char) : afterAnnotation? terminator (' ' :: text) = none := rfl
    rw [replaceAll_of_none found, if_neg waiting, replaceAll_of_none (space _),
      replaceAll_colonless (colon_not_mem_type line.type), replaceAll_ending]
    rfl

theorem joined_cons (line next : Line) (others : List Line) (applied : List Char) :
    joined applied (line :: next :: others) =
      line.text applied ++ (['\n'] ++ joined applied (next :: others)) := by
  simp [joined, List.intercalate_cons_cons]

/-- The rule of a terminator takes out the annotations of all lines that it ends. -/
theorem replaceAll_joined (lines : List Line) (terminator : Char) (applied : List Char) :
    replaceAll (afterAnnotation? terminator) (kept terminator) (joined applied lines) =
      joined (terminator :: applied) lines := by
  induction lines with
  | nil => rfl
  | cons line others ih =>
    cases others with
    | nil =>
      have single := replaceAll_line line terminator applied []
      rw [List.append_nil] at single
      simpa [joined] using single.trans (List.append_nil _)
    | cons next others =>
      rw [joined_cons, joined_cons, replaceAll_line, replaceAll_colonless (by decide), ih]

theorem Line.unmarked_text (line : Line) {applied : List Char}
    (known : line.terminator ∈ applied) : Unmarked (line.text applied) := by
  rw [Line.text, if_pos known, List.nil_append]
  exact line.unmarkedBefore.append line.unmarkedBehind (kept_ne_nil _) (separates_kept line.known)

/-- Lines without their annotations have nothing for a rule to take out. -/
theorem unmarked_joined (lines : List Line) {applied : List Char}
    (known : ∀ line ∈ lines, line.terminator ∈ applied) : Unmarked (joined applied lines) := by
  induction lines with
  | nil => exact unmarked_nil
  | cons line others ih =>
    obtain ⟨isKnown, known⟩ := List.forall_mem_cons.mp known
    cases others with
    | nil => simpa [joined] using line.unmarked_text isKnown
    | cons next others =>
      rw [joined_cons]
      exact (line.unmarked_text isKnown).append_cons (ih known) (by decide)

/-- The erasure leaves the text of the lines without the annotations. -/
theorem eraseChars_joined (lines : List Line) :
    eraseChars (joined [] lines) = joined terminators.reverse lines := by
  have unmarked : Unmarked (joined terminators.reverse lines) :=
    unmarked_joined lines fun line _ => List.mem_reverse.mpr line.known
  have interfaces : replaceAll afterInterface? [] (joined terminators.reverse lines) =
      joined terminators.reverse lines :=
    unmarked.replaceAll_eq (show (afterInterface?, []) ∈ rules by simp [rules])
  have aliases : replaceAll afterAlias? [] (joined terminators.reverse lines) =
      joined terminators.reverse lines :=
    unmarked.replaceAll_eq (show (afterAlias?, []) ∈ rules by simp [rules])
  have annotations : terminators.foldl (fun text terminator =>
      replaceAll (afterAnnotation? terminator) (kept terminator) text) (joined [] lines) =
        joined terminators.reverse lines := by
    simp only [terminators, List.foldl_cons, List.foldl_nil, replaceAll_joined]
    rfl
  rw [eraseChars, rules_eq, List.foldl_append, List.foldl_map, annotations]
  show replaceAll afterAlias? [] (replaceAll afterInterface? [] _) = _
  rw [interfaces, aliases]

/-- A text in which no rule finds anything to start at. -/
structure Plain where
  text : String
  unmarked : Unmarked text.toList

/-- A statement with one annotation. -/
inductive Statement
  | assigned (name : Plain) (type : SimpleType) (value : Plain)
  | declared (name : Plain) (type : SimpleType)
  | function (name parameter : Plain) (type : SimpleType)

namespace Statement

def annotated : Statement → String
  | assigned name type value =>
    "let " ++ name.text ++ ": " ++ String.ofList type.text ++ " = " ++ value.text ++ ";"
  | declared name type => "let " ++ name.text ++ ": " ++ String.ofList type.text ++ ";"
  | function name parameter type =>
    "function " ++ name.text ++ "(" ++ parameter.text ++ ": " ++ String.ofList type.text ++
      ") \x7b\x7d"

def bare : Statement → String
  | assigned name _ value => "let " ++ name.text ++ " = " ++ value.text ++ ";"
  | declared name _ => "let " ++ name.text ++ ";"
  | function name parameter _ =>
    "function " ++ name.text ++ "(" ++ parameter.text ++ ") \x7b\x7d"

/-- What stands before the annotation of a statement. -/
def before : Statement → String
  | assigned name _ _ | declared name _ => "let " ++ name.text
  | function name parameter _ => "function " ++ name.text ++ "(" ++ parameter.text

def type : Statement → SimpleType
  | assigned _ type _ | declared _ type | function _ _ type => type

def terminator : Statement → Char
  | assigned .. => '='
  | declared .. => ';'
  | function .. => ')'

/-- What stands behind the terminator of the annotation. -/
def behind : Statement → String
  | assigned _ _ value => " " ++ value.text ++ ";"
  | declared .. => ""
  | function .. => " \x7b\x7d"

theorem terminator_known (statement : Statement) : statement.terminator ∈ terminators := by
  cases statement <;> simp [terminator, terminators]

theorem unmarked_before (statement : Statement) : Unmarked statement.before.toList := by
  have binder : Unmarked "let".toList := ⟨by decide, by decide, by decide⟩
  have keyword : Unmarked "function".toList := ⟨by decide, by decide, by decide⟩
  have space : Separates ' ' := by decide
  cases statement with
  | assigned name | declared name =>
    simpa [before] using binder.append_cons name.unmarked space
  | function name parameter =>
    have header := name.unmarked.append_cons parameter.unmarked (show Separates '(' by decide)
    simpa [before] using keyword.append_cons header space

theorem unmarked_behind (statement : Statement) : Unmarked statement.behind.toList := by
  cases statement with
  | assigned _ _ value =>
    have ended := value.unmarked.append_cons unmarked_nil (show Separates ';' by decide)
    simpa [behind] using unmarked_nil.append_cons ended (show Separates ' ' by decide)
  | declared => exact unmarked_nil
  | function =>
    have body : Unmarked " \x7b\x7d".toList := ⟨by decide, by decide, by decide⟩
    exact body

def line (statement : Statement) : Line where
  before := statement.before.toList
  type := statement.type
  terminator := statement.terminator
  behind := statement.behind.toList
  known := statement.terminator_known
  unmarkedBefore := statement.unmarked_before
  unmarkedBehind := statement.unmarked_behind

theorem toList_annotated (statement : Statement) :
    statement.annotated.toList = statement.line.text [] := by
  cases statement <;>
    simp [annotated, line, Line.text, kept, before, type, terminator, behind]

theorem toList_bare (statement : Statement) :
    statement.bare.toList = statement.line.text terminators.reverse := by
  cases statement <;>
    simp [bare, line, Line.text, kept, before, terminator, behind, terminators]

theorem toList_lines (text : Statement → String) (applied : List Char)
    (shown : ∀ statement, (text statement).toList = statement.line.text applied)
    (statements : List Statement) :
    ("\n".intercalate (statements.map text)).toList = joined applied (statements.map line) := by
  have newline : "\n".toList = ['\n'] := rfl
  rw [String.toList_intercalate, joined, newline, List.map_map, List.map_map]
  exact congrArg _ (List.map_congr_left fun statement _ => shown statement)

end Statement

/-- Lines of statements come out as the same lines without their annotations. -/
theorem statements_lose_annotations (statements : List Statement) :
    erase ("\n".intercalate (statements.map Statement.annotated)) =
      "\n".intercalate (statements.map Statement.bare) := by
  apply String.toList_inj.mp
  rw [toList_erase, Statement.toList_lines _ [] Statement.toList_annotated, eraseChars_joined,
    Statement.toList_lines _ _ Statement.toList_bare]

/-- The words of the rules may be types. -/
example : erase "let a: interface | type[] = b;\nlet c: d;" = "let a = b;\nlet c;" := by
  decide +kernel

end ExportIndex.JavaScript.Erasure
