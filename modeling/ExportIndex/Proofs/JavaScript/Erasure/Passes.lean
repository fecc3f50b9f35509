import ExportIndex.Proofs.JavaScript.Erasure.Match
import Mathlib

/-
This file says what is left of a text when rules of the erasure have been applied to it: the
text without some parts, each of which leaves its last character, perhaps behind a space, or
nothing.
-/

namespace ExportIndex.JavaScript.Erasure

open Text

section Replace

variable {after? : List Char → Option (List Char)} {replacement : List Char}

/-- A rule that matches takes something out. -/
def Advances (after? : List Char → Option (List Char)) : Prop :=
  ∀ text behind, after? text = some behind → behind.length < text.length

theorem replaceFrom_congr (advances : Advances after?) {limit other : Nat} {text : List Char}
    (enough : text.length ≤ limit) (sufficient : text.length ≤ other) :
    replaceFrom after? replacement limit text = replaceFrom after? replacement other text := by
  induction limit generalizing other text with
  | zero =>
    obtain rfl := List.length_eq_zero_iff.mp (Nat.le_zero.mp enough)
    cases other <;> rfl
  | succ limit ih =>
    cases text with
    | nil => cases other <;> rfl
    | cons character rest =>
      rw [List.length_cons] at enough sufficient
      obtain ⟨other, rfl⟩ := Nat.exists_eq_add_one_of_ne_zero (Nat.ne_zero_of_lt sufficient)
      rw [replaceFrom, replaceFrom]
      split
      · next behind found =>
        have shorter := advances _ _ found
        rw [List.length_cons] at shorter
        exact congrArg _ (ih (by omega) (by omega))
      · exact congrArg _ (ih (by omega) (by omega))

theorem replaceAll_of_some (advances : Advances after?) {character : Char}
    {rest behind : List Char} (found : after? (character :: rest) = some behind) :
    replaceAll after? replacement (character :: rest) =
      replacement ++ replaceAll after? replacement behind := by
  have shorter := advances _ _ found
  rw [List.length_cons] at shorter
  rw [replaceAll, List.length_cons, replaceFrom, found]
  exact congrArg _ (replaceFrom_congr advances (by omega) le_rfl)

theorem replaceAll_of_none {character : Char} {rest : List Char}
    (unmatched : after? (character :: rest) = none) :
    replaceAll after? replacement (character :: rest) =
      character :: replaceAll after? replacement rest := by
  rw [replaceAll, List.length_cons, replaceFrom, unmatched]
  rfl

/-- Where a rule matches nowhere, nothing changes. -/
theorem replaceAll_eq_self {text : List Char}
    (unmatched : ∀ suffix, suffix <:+ text → after? suffix = none) :
    replaceAll after? replacement text = text := by
  induction text with
  | nil => rfl
  | cons character rest ih =>
    rw [replaceAll_of_none (unmatched _ List.suffix_rfl),
      ih fun suffix isSuffix => unmatched suffix (isSuffix.trans (List.suffix_cons _ _))]

end Replace

/-- What is left of an annotation. -/
def kept (terminator : Char) : List Char :=
  if terminator = '=' then [' ', '='] else [terminator]

/-- What ends the annotations that are taken out. -/
def terminators : List Char := ['=', ';', ')']

theorem rules_eq : rules =
    (terminators.map fun terminator => (afterAnnotation? terminator, kept terminator)) ++
      [(afterInterface?, []), (afterAlias?, [])] := rfl

/-- A text that a rule takes out, and what it leaves in its place. -/
inductive Erasable : List Char → List Char → Prop
  | annotated {terminator : Char} {matched : List Char} (known : terminator ∈ terminators)
      (annotates : IsAnnotation terminator matched) : Erasable matched (kept terminator)
  | interface {matched : List Char} (isInterface : IsInterface matched) : Erasable matched []
  | typeAlias {matched : List Char} (isAlias : IsAlias matched) : Erasable matched []

/-- A text comes to another one if parts of it are taken out that do not overlap. -/
inductive Deletes : List Char → List Char → Prop
  | nil : Deletes [] []
  | keep {text result : List Char} (character : Char) (deletes : Deletes text result) :
      Deletes (character :: text) (character :: result)
  | erase {matched left behind result : List Char} (erasable : Erasable matched left)
      (deletes : Deletes behind result) : Deletes (matched ++ behind) (left ++ result)

variable {text result matched left behind : List Char}
  {rule : (List Char → Option (List Char)) × List Char}

theorem erasable_of_rule (isRule : rule ∈ rules) (found : rule.1 text = some behind) :
    ∃ matched, Erasable matched rule.2 ∧ text = matched ++ behind := by
  rw [rules_eq, List.mem_append, List.mem_map] at isRule
  rcases isRule with ⟨terminator, known, rfl⟩ | others
  · obtain ⟨matched, annotates, shown⟩ := afterAnnotation?_eq_some found
    exact ⟨matched, .annotated known annotates, shown⟩
  simp only [List.mem_cons, List.not_mem_nil, or_false] at others
  rcases others with rfl | rfl
  · obtain ⟨matched, isInterface, shown⟩ := afterInterface?_eq_some found
    exact ⟨matched, .interface isInterface, shown⟩
  · obtain ⟨matched, isAlias, shown⟩ := afterAlias?_eq_some found
    exact ⟨matched, .typeAlias isAlias, shown⟩

theorem Deletes.refl (text : List Char) : Deletes text text := by
  induction text with
  | nil => exact .nil
  | cons character rest ih => exact .keep character ih

theorem deletes_replaceFrom (isRule : rule ∈ rules) (limit : Nat) (text : List Char) :
    Deletes text (replaceFrom rule.1 rule.2 limit text) := by
  induction limit generalizing text with
  | zero => exact .refl text
  | succ limit ih =>
    cases text with
    | nil => exact .nil
    | cons character rest =>
      rw [replaceFrom]
      split
      · next behind found =>
        obtain ⟨matched, erasable, shown⟩ := erasable_of_rule isRule found
        rw [shown]
        exact .erase erasable (ih behind)
      · exact .keep character (ih rest)

theorem deletes_replaceAll (isRule : rule ∈ rules) (text : List Char) :
    Deletes text (replaceAll rule.1 rule.2 text) :=
  deletes_replaceFrom isRule text.length text

/-- What holds between a text and what a rule leaves of it holds of all rules together if it
carries over from pass to pass. -/
theorem eraseChars_of_passes (related : List Char → List Char → Prop)
    (refl : ∀ text, related text text)
    (trans : ∀ {first second third}, related first second → related second third →
      related first third)
    (pass : ∀ rule ∈ rules, ∀ text, related text (replaceAll rule.1 rule.2 text))
    (text : List Char) : related text (eraseChars text) := by
  have passes : ∀ applied ⊆ rules, ∀ text,
      related text (applied.foldl (fun text rule => replaceAll rule.1 rule.2 text) text) := by
    intro applied known
    induction applied with
    | nil => exact refl
    | cons rule others ih =>
      obtain ⟨isRule, known⟩ := List.cons_subset.mp known
      exact fun text => trans (pass rule isRule text) (ih known _)
  exact passes rules (List.Subset.refl rules) text

section Less

theorem Erasable.mark_mem (erasable : Erasable matched left) :
    ':' ∈ matched ∨ "interface".toList <:+: matched ∨ "type".toList <:+: matched := by
  cases erasable with
  | annotated known annotates =>
    cases annotates
    exact .inl List.mem_cons_self
  | interface isInterface =>
    cases isInterface
    exact .inr (.inl (List.prefix_append _ _).isInfix)
  | typeAlias isAlias =>
    cases isAlias
    exact .inr (.inr (List.prefix_append _ _).isInfix)

theorem utf8Len_kept_le (terminator : Char) :
    String.utf8Len (kept terminator) ≤ String.utf8Len [terminator] + 1 := by
  rw [kept]
  split
  · next isEqual =>
    subst isEqual
    decide
  · exact Nat.le_succ _

theorem filter_kept (terminator : Char) :
    ((kept terminator).filter (· ≠ ' ')).Sublist [terminator] := by
  rw [kept]
  split
  · next isEqual => simp [isEqual]
  · exact List.filter_sublist

/-- What is left has fewer bytes. -/
theorem Erasable.utf8Len_lt (erasable : Erasable matched left) :
    String.utf8Len left < String.utf8Len matched := by
  cases erasable with
  | annotated _ annotates =>
    obtain ⟨before, type, behind⟩ := annotates
    have colon : ':'.utf8Size = 1 := by decide
    have name : 0 < String.utf8Len type.text := by
      have first := type.first.name.first.utf8Size_pos
      simp only [SimpleType.text, Member.text, Name.text, List.cons_append, String.utf8Len_cons]
      omega
    apply (utf8Len_kept_le _).trans_lt
    simp only [String.utf8Len_cons, String.utf8Len_append, colon]
    omega
  | interface isInterface =>
    cases isInterface
    have word : 0 < String.utf8Len "interface".toList := by decide
    rw [String.utf8Len_append]
    exact Nat.lt_add_right _ word
  | typeAlias isAlias =>
    cases isAlias
    have word : 0 < String.utf8Len "type".toList := by decide
    rw [String.utf8Len_append]
    exact Nat.lt_add_right _ word

/-- Nothing but a space is left that has not been there. -/
theorem Erasable.sublist (erasable : Erasable matched left) :
    (left.filter (· ≠ ' ')).Sublist matched := by
  cases erasable with
  | annotated _ annotates =>
    obtain ⟨before, type, behind⟩ := annotates
    refine (filter_kept _).trans (List.singleton_sublist.mpr ?_)
    simp
  | interface isInterface => exact List.nil_sublist _
  | typeAlias isAlias => exact List.nil_sublist _

theorem Deletes.utf8Len_le (deletes : Deletes text result) :
    String.utf8Len result ≤ String.utf8Len text := by
  induction deletes with
  | nil => exact le_rfl
  | keep character _ ih =>
    rw [String.utf8Len_cons, String.utf8Len_cons]
    exact Nat.add_le_add_right ih _
  | erase erasable _ ih =>
    rw [String.utf8Len_append, String.utf8Len_append]
    exact Nat.add_le_add erasable.utf8Len_lt.le ih

theorem Deletes.sublist (deletes : Deletes text result) :
    (result.filter (· ≠ ' ')).Sublist (text.filter (· ≠ ' ')) := by
  induction deletes with
  | nil => exact .slnil
  | keep character _ ih =>
    rw [List.filter_cons, List.filter_cons]
    split
    · exact ih.cons_cons character
    · exact ih
  | erase erasable _ ih =>
    rw [List.filter_append, List.filter_append]
    refine List.Sublist.append ?_ ih
    simpa only [List.filter_filter, Bool.and_self] using erasable.sublist.filter (· ≠ ' ')

theorem utf8Len_eraseChars_le (text : List Char) :
    String.utf8Len (eraseChars text) ≤ String.utf8Len text := by
  apply eraseChars_of_passes fun first second => String.utf8Len second ≤ String.utf8Len first
  · exact fun _ => le_rfl
  · exact fun one other => other.trans one
  · exact fun rule isRule text => (deletes_replaceAll isRule text).utf8Len_le

theorem eraseChars_sublist (text : List Char) :
    ((eraseChars text).filter (· ≠ ' ')).Sublist (text.filter (· ≠ ' ')) := by
  apply eraseChars_of_passes fun first second =>
    (second.filter (· ≠ ' ')).Sublist (first.filter (· ≠ ' '))
  · exact fun _ => List.Sublist.refl _
  · exact fun one other => other.trans one
  · exact fun rule isRule text => (deletes_replaceAll isRule text).sublist

end Less

/-- A text has nothing of what the parts that are taken out start with. -/
structure Unmarked (text : List Char) : Prop where
  colonless : ':' ∉ text
  interfaceless : ¬ "interface".toList <:+: text
  typeless : ¬ "type".toList <:+: text

/-- A rule leaves a text without such marks alone. -/
theorem Unmarked.replaceAll_eq (unmarked : Unmarked text) (isRule : rule ∈ rules) :
    replaceAll rule.1 rule.2 text = text := by
  apply replaceAll_eq_self
  intro suffix isSuffix
  cases found : rule.1 suffix with
  | none => rfl
  | some behind =>
    obtain ⟨matched, erasable, rfl⟩ := erasable_of_rule isRule found
    have within : matched <:+: text := (List.prefix_append _ _).isInfix.trans isSuffix.isInfix
    rcases erasable.mark_mem with colon | isInterface | isType
    · exact absurd (within.subset colon) unmarked.colonless
    · exact absurd (isInterface.trans within) unmarked.interfaceless
    · exact absurd (isType.trans within) unmarked.typeless

theorem Unmarked.eraseChars_eq (unmarked : Unmarked text) : eraseChars text = text := by
  have same := eraseChars_of_passes (fun first second => Unmarked first → second = first)
  apply same (fun _ _ => rfl) _ _ text unmarked
  · intro first second third one other isFirst
    obtain rfl := one isFirst
    exact other isFirst
  · exact fun rule isRule text unmarked => unmarked.replaceAll_eq isRule

theorem toList_erase (source : String) : (erase source).toList = eraseChars source.toList :=
  String.toList_ofList

theorem utf8Len_toList (source : String) : String.utf8Len source.toList = source.utf8ByteSize := by
  rw [← String.utf8ByteSize_ofList, String.ofList_toList]

/-- Each rule takes out the parts that it matches and leaves no more of one than its last character
and a space. So no text grows, and without white space it has no character that was not there. A
text without a colon and the words of the rules stays as it is. -/
theorem erasure_only_removes (source : String) :
    (∀ rule ∈ rules, ∀ text, Deletes text (replaceAll rule.1 rule.2 text)) ∧
    (erase source).utf8ByteSize ≤ source.utf8ByteSize ∧
    ((erase source).toList.filter fun character => !isBlank character).Sublist source.toList ∧
    (Unmarked source.toList → erase source = source) := by
  refine ⟨fun rule isRule => deletes_replaceAll isRule, ?_, ?_, fun unmarked => ?_⟩
  · rw [← utf8Len_toList, ← utf8Len_toList, toList_erase]
    exact utf8Len_eraseChars_le source.toList
  · have spaceless : ((erase source).toList.filter (· ≠ ' ')).Sublist source.toList := by
      rw [toList_erase]
      exact (eraseChars_sublist source.toList).trans List.filter_sublist
    have solid : ((erase source).toList.filter fun character => !isBlank character).Sublist
        ((erase source).toList.filter (· ≠ ' ')) := by
      apply List.monotone_filter_right
      intro character notBlank
      rw [decide_eq_true_eq]
      rintro rfl
      exact absurd notBlank (by decide)
    exact solid.trans spaceless
  · rw [erase, unmarked.eraseChars_eq, String.ofList_toList]

/-- A text without types is not touched, neither as a whole nor by a single rule. -/
theorem erasure_only_removes_of_untyped :
    Unmarked "let a = b | c;".toList ∧ erase "let a = b | c;" = "let a = b | c;" ∧
    (afterAlias?, []) ∈ rules ∧
      Deletes "let a = b | c;".toList (replaceAll afterAlias? [] "let a = b | c;".toList) := by
  obtain ⟨deletes, _, _, same⟩ := erasure_only_removes "let a = b | c;"
  have unmarked : Unmarked "let a = b | c;".toList :=
    ⟨by decide +kernel, by decide +kernel, by decide +kernel⟩
  have isRule : (afterAlias?, []) ∈ rules := by simp [rules]
  exact ⟨unmarked, same unmarked, isRule, deletes _ isRule _⟩

/-- What one rule leaves may be what a later one takes out. -/
example : erase "tyinterface A \x7b\x7dpe B = c;" = "" := by decide +kernel

end ExportIndex.JavaScript.Erasure
