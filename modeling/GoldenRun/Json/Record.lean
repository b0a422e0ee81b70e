import GoldenRun.Json.Value

/-!
# Records in JSON

A record is written as an object of its fields, in any order and with any of them missing, or as an
array of its fields in their fixed order, with any of the last ones missing. An object may have
other members too, which count for nothing; a field must not be written twice.
-/

namespace GoldenRun.Json

/-- The members of an object whose keys are texts, all of them. -/
def keyed? (members : List (Option String × Json)) : Option (List (String × Json)) :=
  members.mapM fun (key, value) => key.map (·, value)

def occurrences (name : String) (members : List (String × Json)) : Nat :=
  members.countP (·.1 == name)

/-- The values of the fields of a record, in the order of their names. -/
def fields? (names : List String) : Json → Option (List (Option Json))
  | .object members => do
    let members ← keyed? members
    if names.all fun name => occurrences name members ≤ 1 then
      some (names.map fun name => members.lookup name)
    else none
  | .array items =>
    if items.length ≤ names.length then
      some (items.map some ++ List.replicate (names.length - items.length) none)
    else none
  | _ => none

def fieldOr {α : Type} (default : α) (decode : Json → Option α) : Option Json → Option α
  | none => some default
  | some value => decode value

def asText : Json → Option String
  | .text value => value
  | _ => none

def asBool : Json → Option Bool
  | .bool value => some value
  | _ => none

def asNumber (bound : Nat) : Json → Option Nat
  | .number (some n) => if n < bound then some n else none
  | _ => none

def asOptional {α : Type} (decode : Json → Option α) : Json → Option (Option α)
  | .null => some none
  | value => (decode value).map some

/-- A choice that is written as its name alone, or as an object of its name and a content. -/
def asChoice : Json → Option (String × Option Json)
  | .text (some name) => some (name, none)
  | .object [(some name, content)] => some (name, some content)
  | _ => none

/-- Whether the content of a choice says nothing: it is missing or null. -/
def isBare : Option Json → Bool
  | none => true
  | some .null => true
  | some _ => false

end GoldenRun.Json
