import RefPolicy.Digits
import RefPolicy.Json
import RefPolicy.Naming

/-!
# RefPolicy.Json.Fields

Reading a JSON value as a value of a known shape, strictly.

A record is an object — a known field at most once, other members ignored —
or an array of its fields in order, later ones left out.  A name is a string,
or an object whose only member has that key and the value `null`.
-/

namespace RefPolicy.Json

/-- The fields of a record, by name. -/
def record? (names : List String) : Json → Option (String → Option Json)
  | object members =>
    let timesGiven (key : String) := members.countP fun member => member.1 == some key
    if members.all (fun member => member.1.isSome) && names.all (fun key => timesGiven key ≤ 1) then
      some fun key => (members.find? fun member => member.1 == some key).map Prod.snd
    else none
  | array items =>
    if items.length ≤ names.length then some fun key => items[names.idxOf key]? else none
  | _ => none

/-- A field that has to be there. -/
def required {α : Type} (read : Json → Option α) (field : Option Json) : Option α :=
  field.bind read

/-- A field that may be left out. -/
def orDefault {α : Type} (default : α) (read : Json → Option α) (field : Option Json) : Option α :=
  match field with
  | some value => read value
  | none => some default

/-- A value or `null`. -/
def nullable {α : Type} (read : Json → Option α) : Json → Option (Option α)
  | null => some none
  | value => (read value).map some

/-- A list of values. -/
def listOf {α : Type} (read : Json → Option α) : Json → Option (List α)
  | array items => items.mapM read
  | _ => none

def asBool : Json → Option Bool
  | bool value => some value
  | _ => none

def asText : Json → Option String
  | string text => text
  | _ => none

/-- A number of 64 bits. -/
def asId : Json → Option Id
  | natural n => Digits.toWord64? n
  | _ => none

/-- The only member of an object. -/
def onlyMember : Json → Option (String × Json)
  | object [(some key, value)] => some (key, value)
  | _ => none

/-- A value of a vocabulary. -/
def asName {α : Type} [Named α] : Json → Option α
  | string (some text) => Named.ofName? text
  | object [(some key, null)] => Named.ofName? key
  | _ => none

end RefPolicy.Json
