import Ritual.Canon.Rules
import Ritual.Invocation
import Ritual.RitualError
import Ritual.Tree

namespace Ritual
namespace Analysis

/-!
# Checking a ritual against the canon

Every invocation and every block is checked by itself, and every violation is
reported, the invocations' first.  Invocations are taken from the token list
and not from the blocks, so one that stands outside every block counts too.
Without rules nothing is checked.
-/

/-- The violation of an invocation, if there is one.  The school is checked
first, then the operation by itself, then the school's own list. -/
def checkInvocation (rules : CanonRules) (invocation : Invocation) : Option Violation :=
  let report (kind : ViolationKind) (detail : String) : Option Violation :=
    some (Violation.ofDetail kind (some invocation.location) detail)
  if !rules.hasSchool invocation.school then
    report .unknownSchool ("School '" ++ invocation.school ++ "' not found in canon (" ++
      toString rules.schools.size ++ " valid schools)")
  else if !rules.hasOperation invocation.operation then
    report .unknownOperation ("Operation '" ++ invocation.operation ++ "' not found in canon")
  else
    match rules.operationsFor invocation.school with
    | some listed =>
      if Text.lowercase invocation.operation ∈ listed then none
      else
        report .operationNotInSchool ("School '" ++ invocation.school ++
          "' does not support operation '" ++ invocation.operation ++ "' (valid: " ++
          listed.listing ++ ")")
    | none => none

/-- The text without an ending `_block`, and the text itself if it has none. -/
def withoutBlockEnding (kind : String) : String :=
  let ending := ['k', 'c', 'o', 'l', 'b', '_']
  let backwards := kind.toList.reverse
  if ending.isPrefixOf backwards then String.ofList (backwards.drop ending.length).reverse
  else kind

/-- The block type of a block's kind: the kind in upper case, without one ending
`_block`. -/
def blockTypeOf (kind : String) : String :=
  Text.uppercase (withoutBlockEnding kind)

/-- The violation of a block, if there is one. -/
def checkBlock (rules : CanonRules) (block : Block) : Option Violation :=
  let blockType := blockTypeOf block.kind
  if rules.acceptsBlockType blockType then none
  else
    some (Violation.ofDetail .unknownBlockType (some block.location) ("Block type '" ++ blockType ++
      "' not recognized by runtime (valid: " ++ rules.blockTypes.listing ++ ")"))

/-- Every violation of a ritual: those of its invocations, then those of its
blocks, each in order. -/
def violations (rules : CanonRules) (blocks : List Block) (tokens : List Token) : List Violation :=
  (Invocation.ofTokens tokens).filterMap (checkInvocation rules) ++
    blocks.filterMap (checkBlock rules)

/-- Pass a tree on if it violates nothing.  Without rules every tree passes. -/
def analyze (canon : Option CanonRules) (tree : Tree) (tokens : List Token) :
    Except RitualError Tree :=
  match canon with
  | none => .ok tree
  | some rules =>
    match violations rules tree.blocks tokens with
    | [] => .ok tree
    | found => .error (.constitutional found)

end Analysis
end Ritual
