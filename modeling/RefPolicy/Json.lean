import RefPolicy.Grant

/-!
# RefPolicy.Json

JSON values and their compact text.  Arrays and objects keep the order of
their items; an object may repeat a key until a reader of the object objects
to it.

A string literal may use escapes to write half of a surrogate pair.  Such a
literal is well-formed and denotes no text, so the text of a literal is
optional.

* `perm_putMembers` — members put into an object replace none unless a key is
  given twice.
-/

namespace RefPolicy

/-- The text of a string literal; `none` if its escapes write no text. -/
abbrev Json.Literal := Option String

/-- A JSON value.  Whole numbers without sign, fraction and exponent are
numbers; every other number is kept as written. -/
inductive Json where
  | null
  | bool (value : Bool)
  | natural (value : Nat)
  | number (source : String)
  | string (text : Json.Literal)
  | array (items : List Json)
  | object (members : List (Json.Literal × Json))

namespace Json

/-- A string literal that writes `text`. -/
def ofText (text : String) : Json := string (some text)

/-- A number. -/
def ofId (id : Id) : Json := natural id.toNat

/-- A string, or `null` for none. -/
def ofOptionalText (text : Option String) : Json := text.elim null ofText

/-- An object with the given keys. -/
def ofMembers (members : List (String × Json)) : Json :=
  object (members.map fun member => (some member.1, member.2))

/-! ## Members by key -/

/-- Put a member at the place of its key, instead of a member that has it. -/
def putMember (member : String × Json) : List (String × Json) → List (String × Json)
  | [] => [member]
  | other :: rest =>
    if member.1 < other.1 then member :: other :: rest
    else if member.1 = other.1 then member :: rest
    else other :: putMember member rest

/-- Put the members `others`, one after the other, into members in order of
their keys. -/
def putMembers (members others : List (String × Json)) : List (String × Json) :=
  others.foldl (fun members member => putMember member members) members

theorem putMembers_cons (members : List (String × Json)) (member : String × Json)
    (others : List (String × Json)) :
    putMembers members (member :: others) = putMembers (putMember member members) others := rfl

/-- A key that is there already loses its value. -/
example :
    putMember ("kind", bool true) [("action", null), ("kind", null), ("ref", null)] =
      [("action", null), ("kind", bool true), ("ref", null)] := by
  rfl

/-- A new key replaces nothing. -/
theorem perm_putMember {member : String × Json} {members : List (String × Json)}
    (h : member.1 ∉ members.map Prod.fst) :
    (putMember member members).Perm (member :: members) := by
  induction members with
  | nil => exact .refl _
  | cons other rest ih =>
      rw [List.map_cons, List.mem_cons, not_or] at h
      unfold putMember
      split
      · exact .refl _
      · rw [if_neg h.1]
        exact ((ih h.2).cons other).trans (.swap member other rest)

/-- Where no key is given twice, nothing is replaced. -/
theorem perm_putMembers {members others : List (String × Json)}
    (h : ((members ++ others).map Prod.fst).Nodup) :
    (putMembers members others).Perm (members ++ others) := by
  induction others generalizing members with
  | nil =>
      rw [List.append_nil]
      exact .refl _
  | cons member others ih =>
      have hmoved : (members ++ member :: others).Perm (member :: (members ++ others)) :=
        List.perm_middle
      have hkeys := (hmoved.map Prod.fst).nodup_iff.mp h
      rw [List.map_cons, List.nodup_cons, List.map_append, List.mem_append, not_or] at hkeys
      have hput : (putMember member members ++ others).Perm (member :: (members ++ others)) :=
        (perm_putMember hkeys.1.1).append_right others
      rw [putMembers_cons]
      exact (ih ((hput.trans hmoved.symm).map Prod.fst |>.nodup_iff.mpr h)).trans
        (hput.trans hmoved.symm)

/-! ## Writing -/

/-- One character of a string.  Only quotes, backslashes and controls are
escaped, and the common controls have short forms. -/
def escapedChar (c : Char) : List Char :=
  match c with
  | '"' => ['\\', '"']
  | '\\' => ['\\', '\\']
  | '\x08' => ['\\', 'b']
  | '\x0c' => ['\\', 'f']
  | '\n' => ['\\', 'n']
  | '\r' => ['\\', 'r']
  | '\t' => ['\\', 't']
  | c =>
    if c.toNat < 0x20 then
      ['\\', 'u', '0', '0', Nat.digitChar (c.toNat / 16), Nat.digitChar (c.toNat % 16)]
    else [c]

/-- A string literal.  Half of a surrogate pair stands for a literal without text. -/
def literalChars : Literal → List Char
  | some text => '"' :: (text.toList.flatMap escapedChar ++ ['"'])
  | none => "\"\\ud800\"".toList

mutual

/-- The compact text of a value, as characters. -/
def chars : Json → List Char
  | null => ['n', 'u', 'l', 'l']
  | bool true => ['t', 'r', 'u', 'e']
  | bool false => ['f', 'a', 'l', 's', 'e']
  | natural n => Nat.toDigits 10 n
  | number source => source.toList
  | string text => literalChars text
  | array items => '[' :: (itemsChars items ++ [']'])
  | object members => '\x7b' :: (membersChars members ++ ['\x7d'])

/-- Items with commas between them. -/
def itemsChars : List Json → List Char
  | [] => []
  | [item] => item.chars
  | item :: rest => item.chars ++ ',' :: itemsChars rest

/-- Members with commas between them. -/
def membersChars : List (Literal × Json) → List Char
  | [] => []
  | [(key, value)] => literalChars key ++ ':' :: value.chars
  | (key, value) :: rest => literalChars key ++ ':' :: (value.chars ++ ',' :: membersChars rest)

end

/-- The compact text of a value. -/
def text (value : Json) : String := String.ofList value.chars

end Json

end RefPolicy
