import ExportIndex.Proofs.Arena.Layout
import ExportIndex.Proofs.Json.Printed
import ExportIndex.Proofs.TypeScript.Decoding
import ExportIndex.TypeScript.TypeText

/-
This file shows that decoding a string literal undoes the escapes of JSON, so that the text of a
string type is a literal of the same type and tells its string.
-/

namespace ExportIndex.TypeScript

section Escapes

theorem decodeEscape_mark {mark character : Char} (stands : (mark, character) ∈ Json.marks)
    (rest : List Char) : decodeEscape (mark :: rest) = ([character], rest) := by
  simp only [Json.marks, List.mem_cons, Prod.mk.injEq, List.not_mem_nil, or_false] at stands
  obtain ⟨rfl, rfl⟩ | ⟨rfl, rfl⟩ | ⟨rfl, rfl⟩ | ⟨rfl, rfl⟩ | ⟨rfl, rfl⟩ | ⟨rfl, rfl⟩ |
    ⟨rfl, rfl⟩ | ⟨rfl, rfl⟩ := stands <;> rfl

theorem decodeEscape_control {code : Nat} (control : code < 0x20) (rest : List Char) :
    decodeEscape ('u' :: '0' :: '0' :: Json.hexDigit (code / 16) :: Json.hexDigit code :: rest) =
      ([Char.ofNat code], rest) := by
  have whole : codePoint? code = some (Char.ofNat code) := by
    rw [codePoint?_eq, if_pos (Or.inl (by omega))]
  have number : hexCharacter? ['0', '0', Json.hexDigit (code / 16), Json.hexDigit code] =
      some (Char.ofNat code) := by
    simp [hexCharacter?, Json.hexNumber?_control code control, whole]
  simp [decodeEscape, decodedOr, number]

/-- An escape of JSON is decoded to its character, whatever follows. -/
theorem decodeBody_escape (character : Char) (rest : List Char) :
    decodeBody (Json.escape character ++ rest) = character :: decodeBody rest := by
  obtain ⟨mark, stands, escaped⟩ | ⟨control, escaped⟩ | ⟨-, backslash, -, escaped⟩ :=
    Json.escape_cases character
  · rw [escaped, List.cons_append, decodeBody_backslash, List.cons_append, List.nil_append,
      decodeEscape_mark stands, List.singleton_append]
  · rw [escaped, List.cons_append, decodeBody_backslash]
    simp only [List.cons_append, List.nil_append]
    rw [decodeEscape_control control, Char.ofNat_toNat, List.singleton_append]
  · rw [escaped, List.singleton_append, decodeBody_plain backslash]

theorem decodeBody_escaped (characters : List Char) :
    decodeBody (characters.flatMap Json.escape) = characters := by
  induction characters with
  | nil => rfl
  | cons character rest ih => rw [List.flatMap_cons, decodeBody_escape, ih]

end Escapes

section Literals

/-- A body between two quotes of one kind. -/
def quotedBy (quote : Char) (body : String) : String :=
  String.ofList (quote :: (body.toList ++ [quote]))

theorem literalBody?_quoted {quote : Char} (known : quote = '"' ∨ quote = '\x27')
    (body : List Char) : literalBody? (quote :: (body ++ [quote])) = some body := by
  simp [literalBody?, known]

variable {arena other : Arena} {id literal twin twinLiteral : Nat} {value text : String}

theorem stringValue?_quote (quoted : arena.text literal = Json.quote value) :
    stringValue? arena literal = some value := by
  rw [stringValue?, quoted, Json.toList_quote, Json.quoteChars, literalBody?_quoted (.inl rfl),
    Option.map_some, decodeBody_escaped, String.ofList_toList]

theorem stringValue?_quotedBy {quote : Char} (known : quote = '"' ∨ quote = '\x27')
    (unescaped : '\\' ∉ text.toList) (spelled : arena.text literal = quotedBy quote text) :
    stringValue? arena literal = some text := by
  rw [stringValue?, spelled, quotedBy, String.toList_ofList, literalBody?_quoted known,
    Option.map_some, decodeBody_eq_self unescaped, String.ofList_toList]

/-- A type is a literal one, and the literal is a string. -/
structure IsStringType (arena : Arena) (id literal : Nat) : Prop where
  isLiteral : arena.kind id = "literal_type"
  first : firstNamed? arena id = some literal
  isString : arena.kind literal = "string"

theorem IsStringType.resolve_eq (type : IsStringType arena id literal) :
    resolve arena id = ((stringValue? arena literal).map Json.quote).getD (arena.text literal) := by
  rw [resolve, resolveAt]
  simp only [type.isLiteral, type.first, Option.map_some, Option.getD_some, literalText,
    type.isString, if_true]

theorem IsStringType.resolve_of_value (type : IsStringType arena id literal)
    (decodes : stringValue? arena literal = some value) : resolve arena id = Json.quote value := by
  rw [type.resolve_eq, decodes, Option.map_some, Option.getD_some]

theorem quote_injective : Function.Injective Json.quote := by
  intro first second same
  have texts : Json.quoteChars first.toList = Json.quoteChars second.toList := by
    rw [← Json.toList_quote, ← Json.toList_quote, same]
  have bodies : first.toList.flatMap Json.escape = second.toList.flatMap Json.escape := by
    simpa [Json.quoteChars] using texts
  rw [← String.toList_inj, ← decodeBody_escaped first.toList, bodies, decodeBody_escaped]

/-- To resolve the text of a string type once more changes nothing, also if the literal is none
that can be decoded. -/
theorem IsStringType.resolve_again (type : IsStringType arena id literal)
    (again : IsStringType other twin twinLiteral)
    (canonical : other.text twinLiteral = resolve arena id) :
    resolve other twin = resolve arena id := by
  cases decodes : stringValue? arena literal with
  | some value =>
    have quoted := type.resolve_of_value decodes
    rw [quoted, again.resolve_of_value (stringValue?_quote (canonical.trans quoted))]
  | none =>
    have kept : resolve arena id = arena.text literal := by rw [type.resolve_eq, decodes]; rfl
    have undecodable : stringValue? other twinLiteral = none := by
      rw [stringValue?, canonical, kept, ← stringValue?, decodes]
    rw [again.resolve_eq, undecodable, canonical, Option.map_none, Option.getD_none]

end Literals

/-- A node whose text is a string in JSON stands for this string. So the text of a string type is
one that resolves to itself, it is different for different strings, and it does not depend on the
quotes around a body without escapes. -/
theorem string_types_resolve_to_values :
    (∀ (arena : Arena) (literal : Nat) (value : String),
      arena.text literal = Json.quote value → stringValue? arena literal = some value) ∧
    ∀ {arena : Arena} {id literal : Nat}, IsStringType arena id literal →
      (∀ value, stringValue? arena literal = some value → resolve arena id = Json.quote value) ∧
      ∀ {other : Arena} {twin twinLiteral : Nat}, IsStringType other twin twinLiteral →
        (other.text twinLiteral = resolve arena id → resolve other twin = resolve arena id) ∧
        (∀ value otherValue, stringValue? arena literal = some value →
          stringValue? other twinLiteral = some otherValue → value ≠ otherValue →
            resolve arena id ≠ resolve other twin) ∧
        ∀ body : String, '\\' ∉ body.toList → arena.text literal = quotedBy '\x27' body →
          other.text twinLiteral = quotedBy '"' body → resolve arena id = resolve other twin := by
  refine ⟨fun arena literal value => stringValue?_quote, fun type =>
    ⟨fun value => type.resolve_of_value, fun again => ⟨type.resolve_again again, ?_, ?_⟩⟩⟩
  · intro value otherValue decodes decodesOther apart same
    rw [type.resolve_of_value decodes, again.resolve_of_value decodesOther] at same
    exact apart (quote_injective same)
  · intro body unescaped single double
    rw [type.resolve_of_value (stringValue?_quotedBy (.inr rfl) unescaped single),
      again.resolve_of_value (stringValue?_quotedBy (.inl rfl) unescaped double)]

/-- A literal type that is a string and covers the whole source. -/
def stringType (source : String) : Arena :=
  .ofTree source (.notion "literal_type" 0 source.utf8ByteSize [
    (none, .notion "string" 0 source.utf8ByteSize [])])

/-- An escape is written anew, and what is written resolves to itself. -/
theorem string_types_resolve_to_values_of_control :
    IsStringType (stringType "'\\x01b'") 0 1 ∧
      IsStringType (stringType "\"\\u0001b\"") 0 1 ∧
      resolve (stringType "'\\x01b'") 0 = "\"\\u0001b\"" ∧
      resolve (stringType "\"\\u0001b\"") 0 = "\"\\u0001b\"" := by
  have type : IsStringType (stringType "'\\x01b'") 0 1 :=
    ⟨by decide +kernel, by decide +kernel, by decide +kernel⟩
  have again : IsStringType (stringType "\"\\u0001b\"") 0 1 :=
    ⟨by decide +kernel, by decide +kernel, by decide +kernel⟩
  have decodes : stringValue? (stringType "'\\x01b'") 1 = some "\x01b" := by decide +kernel
  have written : Json.quote "\x01b" = "\"\\u0001b\"" := by decide +kernel
  have covers : (stringType "\"\\u0001b\"").text 1 = "\"\\u0001b\"" := by decide +kernel
  obtain ⟨canonical, same⟩ := string_types_resolve_to_values.2 type
  have first := (canonical _ decodes).trans written
  exact ⟨type, again, first, ((same again).1 (covers.trans first.symm)).trans first⟩

end ExportIndex.TypeScript
