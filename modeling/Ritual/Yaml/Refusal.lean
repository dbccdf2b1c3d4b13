namespace Ritual
namespace Yaml

/-!
# Why a document is refused

A refusal names its cause.  The words are for the reader of a message; nothing
in this library depends on them.
-/

/-- The causes for which a document is refused.  Lines count from one. -/
inductive Refusal where
  /-- A character that no document may hold. -/
  | forbiddenCharacter
  /-- Text that is no token where it stands. -/
  | unexpectedText (line : Nat)
  /-- A token that the structure does not allow where it stands. -/
  | unexpectedToken
  /-- A directive that is unknown, repeated or for another version. -/
  | badDirective
  /-- A tag with a handle that no directive declares. -/
  | unknownTagHandle (handle : String)
  /-- An alias without an anchor before it. -/
  | unknownAnchor (name : String)
  /-- More than one document. -/
  | severalDocuments
  /-- Collections within collections beyond the limit. -/
  | tooDeep
  /-- Aliases followed beyond the limit. -/
  | tooManyAliases
  /-- A key that a mapping has already. -/
  | repeatedKey
  /-- An integer of more than 64 bits. -/
  | integerTooLarge
  /-- A tag that its scalar does not fit. -/
  | tagMismatch
  /-- Another kind of value than the one described. -/
  | wrongShape (expected : String)
deriving DecidableEq, Repr

namespace Refusal

/-- The cause in words. -/
def message : Refusal → String
  | forbiddenCharacter => "control characters are not allowed"
  | unexpectedText line => "unexpected text on line " ++ toString line
  | unexpectedToken => "unexpected structure"
  | badDirective => "a directive cannot be followed"
  | unknownTagHandle handle => "unknown tag handle " ++ handle
  | unknownAnchor name => "unknown anchor " ++ name
  | severalDocuments => "more than one document"
  | tooDeep => "collections are nested too deeply"
  | tooManyAliases => "too many aliases are followed"
  | repeatedKey => "a key is repeated"
  | integerTooLarge => "an integer has more than 64 bits"
  | tagMismatch => "a scalar does not fit its tag"
  | wrongShape expected => "expected " ++ expected

end Refusal
end Yaml
end Ritual
