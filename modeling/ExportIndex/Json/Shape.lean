import ExportIndex.Json

/-
This file reads structures and enumerations out of JSON values. A structure is an
object or the list of its fields, and a member of an enumeration is its name or an
object with the name as its only key.
-/

namespace ExportIndex.Json

/-- The fields of a structure with the given names. A list holds them in order, at
least the first `least` of them. -/
def fields? (names : List String) (least : Nat) : Json → Option (String → Option Json)
  | object members => some fun name => (object members).member? name
  | list items =>
    if least ≤ items.length && items.length ≤ names.length then
      some fun name => ((names.zip items).find? fun field => field.1 = name).map Prod.snd
    else none
  | _ => none

/-- A field that must be there. -/
def required? {A : Type} (decode : Json → Option A) (field : Option Json) : Option A :=
  field.bind decode

/-- A field that may be missing or null. -/
def optional? {A : Type} (decode : Json → Option A) : Option Json → Option (Option A)
  | none => some none
  | some null => some none
  | some value => (decode value).map some

/-- The only key of an object and its value. -/
def onlyMember? : Json → Option (String × Json)
  | object ((key, value) :: rest) =>
    if rest.all fun member => member.1 == key then
      ((object ((key, value) :: rest)).member? key).map fun value => (key, value)
    else none
  | _ => none

/-- The name of a member of an enumeration. -/
def enumerated? : Json → Option String
  | text name => some name
  | value => match value.onlyMember? with
    | some (name, null) => some name
    | _ => none

/-- The item that has the name that a value gives. -/
def oneOf? {A : Type} (name : A → String) (items : List A) (json : Json) : Option A :=
  json.enumerated?.bind fun expected => items.find? fun item => name item == expected

end ExportIndex.Json
