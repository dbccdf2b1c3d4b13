import Ritual.Number.Shortest

namespace Ritual
namespace Yaml

/-!
# Values of a document

A value is what a node means once its aliases are followed and its scalars are
resolved.  Only tags that a document brings along are kept.
-/

/-- A value of a document. -/
inductive Value where
  | null
  | bool (value : Bool)
  | integer (value : Int)
  | float (value : Number.Binary64)
  | text (value : String)
  | list (items : List Value)
  | mapping (entries : List (Value × Value))
  | tagged (tag : String) (content : Value)
deriving Repr

namespace Value

mutual

/-- Whether two values are one key of a mapping.  The order of entries does not
count. -/
def sameKey : Value → Value → Bool
  | null, null => true
  | bool left, bool right => left == right
  | integer left, integer right => left == right
  | float left, float right => left.sameKey right
  | text left, text right => left == right
  | list left, list right => sameItems left right
  | mapping left, mapping right => left.length == right.length && entriesAmong left right
  | tagged tag left, tagged other right => tag == other && sameKey left right
  | _, _ => false

/-- Whether two lists agree item by item. -/
def sameItems : List Value → List Value → Bool
  | [], [] => true
  | left :: leftRest, right :: rightRest => sameKey left right && sameItems leftRest rightRest
  | _, _ => false

/-- Whether all entries of one mapping are entries of another. -/
def entriesAmong : List (Value × Value) → List (Value × Value) → Bool
  | [], _ => true
  | (key, value) :: rest, entries =>
    (entries.any fun entry => sameKey key entry.1 && sameKey value entry.2) &&
      entriesAmong rest entries

end

/-- The value without its tags. -/
def untagged : Value → Value
  | tagged _ content => untagged content
  | other => other

/-- Whether the value is null, with or without tags. -/
def isNull (value : Value) : Bool :=
  match value.untagged with
  | null => true
  | _ => false

/-- The text that names a value as a key.  Collections, null and tagged values
have none. -/
def keyText : Value → String
  | bool value => if value then "true" else "false"
  | integer value => toString value
  | float value => value.text
  | text value => value
  | _ => ""

end Value
end Yaml
end Ritual
