import Ritual.Segment

namespace Ritual

/-!
# The tree of a ritual

The tree lists the blocks and the deferred tags, each in the order of the token
list.  Parsing cannot fail: whether a block's type is accepted is for the
analysis to say.
-/

/-- What a ritual consists of. -/
structure Tree where
  ritualId : String
  blocks : List Block
  deferred : List DeferredTag
deriving DecidableEq, Repr

namespace Tree

/-- Rituals carry no id of their own. -/
def unknownRitual : String := "unknown"

/-- The tokens before the first end of stream. -/
def live (tokens : List Token) : List Token :=
  tokens.takeWhile fun token => token.kind != .eof

/-- The tree of a token list, whose blocks are written out in the given way.
The tokens need not come from the source. -/
def parse (mode : Line.Reconstruction) (source : String) (tokens : List Token) : Tree :=
  let segments := Segment.ofTokens (live tokens)
  { ritualId := unknownRitual
    blocks := segments.filterMap (Segment.block? mode source.toList)
    deferred := segments.filterMap Segment.deferred? }

end Tree
end Ritual
