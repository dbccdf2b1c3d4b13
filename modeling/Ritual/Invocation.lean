import Ritual.Token

namespace Ritual

/-!
# Invocations

An invocation is the view of a token as a call of a school's operation.  Only a
token of that kind has the view, and only if its text is two colons, a school,
a colon and an operation.
-/

/-- A call `::school:operation`. -/
structure Invocation where
  school : String
  operation : String
  location : Source.Location
deriving DecidableEq, Repr

namespace Invocation

/-- The school and the operation of a text: what stands before and behind the
first colon after the two leading ones. -/
def names? : List Char → Option (String × String)
  | ':' :: ':' :: rest =>
    match rest.dropWhile (· != ':') with
    | _ :: operation =>
      some (String.ofList (rest.takeWhile (· != ':')), String.ofList operation)
    | [] => none
  | _ => none

/-- The invocation that a token is. -/
def ofToken? (token : Token) : Option Invocation :=
  if token.kind = .schoolInvocation then
    (names? token.text.toList).map fun (school, operation) =>
      ⟨school, operation, token.location⟩
  else none

/-- The invocations among tokens, in their order. -/
def ofTokens (tokens : List Token) : List Invocation :=
  tokens.filterMap ofToken?

end Invocation
end Ritual
