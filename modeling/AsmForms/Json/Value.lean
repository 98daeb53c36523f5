/-!
# Json/Value — JSON values, and what a decoder asks of them

A record is written as an object, but it may also be read from the array of its fields in order;
`Value.members?` turns both into the same list of named values.  An enumeration is written as the
name of its value, but it may also be read from an object with that name as its only key and null
beside it; `Value.variant?` reads both.
-/

namespace AsmForms

namespace Json

/-- A JSON value.  The number is `mantissa` divided by ten to the `exponent`; the keys of an object
are distinct. -/
inductive Value where
  | null
  | bool (value : Bool)
  | number (mantissa : Int) (exponent : Nat)
  | string (value : String)
  | array (items : List Value)
  | object (members : List (String × Value))
  deriving Inhabited

namespace Value

/-- The name that stands for a value of an enumeration. -/
def variant? : Value → Option String
  | .string name => some name
  | .object [(name, .null)] => some name
  | _ => none

/-- **The named values of a record** with the given fields.  An array gives its items the names of
the fields in order; it may be too short, but not too long. -/
def members? (fields : List String) : Value → Option (List (String × Value))
  | .object members => some members
  | .array items => if items.length ≤ fields.length then some (fields.zip items) else none
  | _ => none

end Value

/-- How a type is written as JSON, and read from it. -/
class Codec (α : Type) where
  encode : α → Value
  decode? : Value → Option α

export Codec (encode decode?)

/-- The value of a field that must be there. -/
def required {α : Type} [Codec α] (members : List (String × Value)) (field : String) : Option α :=
  (members.lookup field).bind decode?

/-- The value of a field that may be missing, and is `missing` then.  A field that is there must be
valid: null does not count as missing. -/
def optional {α : Type} [Codec α] (members : List (String × Value)) (field : String)
    (missing : α) : Option α :=
  match members.lookup field with
  | none => some missing
  | some value => decode? value

instance : Codec String where
  encode := .string
  decode?
    | .string value => some value
    | _ => none

instance {α : Type} [Codec α] : Codec (List α) where
  encode items := .array (items.map encode)
  decode?
    | .array items => items.mapM decode?
    | _ => none

end Json

end AsmForms
