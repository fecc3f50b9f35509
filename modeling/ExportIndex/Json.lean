/-
This file defines JSON values. Members of objects keep their order and may
repeat, and integers are told apart from other numbers.
-/

namespace ExportIndex

inductive Json where
  | null
  | bool (value : Bool)
  | integer (value : Int)
  /-- A number written with a fraction or an exponent, or `-0`. -/
  | real (literal : String)
  | text (value : String)
  | list (items : List Json)
  | object (members : List (String × Json))
deriving Repr, Inhabited

namespace Json

/-- The member that was written last under a key. -/
def member? (key : String) : Json → Option Json
  | object members => (members.reverse.find? fun entry => entry.1 = key).map Prod.snd
  | _ => none

def toText? : Json → Option String
  | text value => some value
  | _ => none

def toBool? : Json → Option Bool
  | bool value => some value
  | _ => none

def toList? : Json → Option (List Json)
  | list items => some items
  | _ => none

/-- An integer of 64 bits without a sign. -/
def toUInt64? : Json → Option UInt64
  | integer value =>
    if 0 ≤ value && value < UInt64.size then some (UInt64.ofNat value.toNat) else none
  | _ => none

/-- Decodes every item, or none of them. -/
def toListOf? {A : Type} (decode : Json → Option A) (json : Json) : Option (List A) :=
  json.toList?.bind (List.mapM decode)

end Json

end ExportIndex
