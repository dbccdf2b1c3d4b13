import Ritual.Yaml.Token

namespace Ritual
namespace Yaml

/-!
# The nodes of a document

The tokens of a document are read into one node by recursive descent.  An anchor
gives a node a mark, and an alias refers to a mark.  Whether an alias closes a
cycle is not decided here: it is followed only when a value is asked for.
-/

/-- What may stand before a node's content: an anchor, kept as its mark, and a
tag. -/
structure Properties where
  mark : Option Nat
  tag : Option Tag
deriving DecidableEq, Repr

/-- Neither an anchor nor a tag. -/
def Properties.none : Properties := ⟨.none, .none⟩

/-- A node of a document. -/
inductive Node where
  | alias (mark : Nat)
  | scalar (properties : Properties) (plain : Bool) (text : String)
  | list (properties : Properties) (items : List Node)
  | mapping (properties : Properties) (entries : List (Node × Node))
deriving Repr

/-- The node where nothing is written. -/
def Node.absent : Node :=
  .scalar Properties.none true ""

/-- The tokens that remain, and the names declared before them. -/
structure NodeReader where
  tokens : List Token
  /-- The tag handles with what they stand for. -/
  handles : List (String × List UInt8)
  /-- The anchors with their marks, one for each name. -/
  marks : List (String × Nat)

/-- A step of reading nodes. -/
abbrev Reading := StateT NodeReader (Except Refusal)

namespace NodeReader

/-- The next token. -/
def next? : Reading (Option Token) := do
  return (← get).tokens.head?

/-- Pass the next token. -/
def advance : Reading Unit :=
  modify fun reader => { reader with tokens := reader.tokens.tail }

/-- Whether the next token is one of some tokens. -/
def nextIsIn (tokens : List Token) : Reading Bool := do
  return (← next?).any tokens.contains

/-- Pass the next token if it is the given one, and say whether it was. -/
def accept (token : Token) : Reading Bool := do
  if ← nextIsIn [token] then
    advance
    return true
  else return false

/-- Refuse the next token. -/
def refuse {Result : Type} : Reading Result :=
  throw .unexpectedToken

/-! ## Anchors and tags -/

/-- Give an anchor its mark: the number of different names before it.  A name
that is given again takes a new mark. -/
def declare (name : String) : Reading Nat := do
  let marks := (← get).marks
  let mark := marks.length
  let marks :=
    if (marks.lookup name).isSome then
      marks.map fun entry => if entry.1 = name then (name, mark) else entry
    else (name, mark) :: marks
  modify fun reader => { reader with marks := marks }
  return mark

/-- The node of an alias, whose anchor must stand before it. -/
def aliasNamed (name : String) : Reading Node := do
  match (← get).marks.lookup name with
  | some mark => return .alias mark
  | none => throw (.unknownAnchor name)

/-- The tag of a handle and an ending.  A tag without a handle is written out
already. -/
def written (handle : String) (ending : List UInt8) : Reading Tag := do
  if handle.isEmpty then return Tag.ofBytes ending
  else
    match (← get).handles.lookup handle with
    | some lead => return Tag.ofBytes (lead ++ ending)
    | none => throw (.unknownTagHandle handle)

/-- The anchor that is next, if one is. -/
def anchor? : Reading (Option String) := do
  match ← next? with
  | some (.anchor name) =>
    advance
    return some name
  | _ => return none

/-- The tag that is next, if one is. -/
def tag? : Reading (Option Tag) := do
  match ← next? with
  | some (.tag handle ending) =>
    advance
    return some (← written handle ending)
  | _ => return none

/-- The anchor and the tag that are next, in either order. -/
def properties : Reading (Option String × Option Tag) := do
  match ← anchor? with
  | some name => return (some name, ← tag?)
  | none =>
    let tag ← tag?
    return (← anchor?, tag)

/-- The properties of a node with an anchor and a tag. -/
def declared (anchor : Option String) (tag : Option Tag) : Reading Properties := do
  match anchor with
  | some name => return ⟨some (← declare name), tag⟩
  | none => return ⟨none, tag⟩

/-! ## Nodes

Each reader takes a bound on its steps.  Of three nested readers at least one
passes a token, so a few times the number of tokens is always enough. -/

mutual

/-- Read a node.  Block collections are read only outside of brackets and
braces, and a sequence that is not indented only inside a block mapping.  Every
node keeps its tag.  A mere exclamation mark is a tag of a scalar too, as runs of
the program show: they refuse `schools: ! ~`, where null would be accepted, and
give the school of `schools: {! fire: {}}` the empty name, as `! fire` is a
tagged key. -/
def node : Nat → Bool → Bool → Reading Node
  | 0, _, _ => refuse
  | steps + 1, inBlock, inMapping => do
    match ← next? with
    | some (.alias name) =>
      advance
      aliasNamed name
    | _ =>
      let (anchor, tag) ← properties
      match ← next? with
      | some (.scalar plain text) =>
        advance
        return .scalar (← declared anchor tag) plain text
      | some .flowSequenceStart =>
        advance
        let properties ← declared anchor tag
        return .list properties (← flowItems steps true)
      | some .flowMappingStart =>
        advance
        let properties ← declared anchor tag
        return .mapping properties (← flowEntries steps true)
      | some token =>
        if token = .blockEntry ∧ inMapping then
          let properties ← declared anchor tag
          return .list properties (← unindentedItems steps)
        else if token = .blockSequenceStart ∧ inBlock then
          advance
          let properties ← declared anchor tag
          return .list properties (← blockItems steps)
        else if token = .blockMappingStart ∧ inBlock then
          advance
          let properties ← declared anchor tag
          return .mapping properties (← blockEntries steps)
        else bare anchor tag
      | none => bare anchor tag

/-- A node of which only properties are written. -/
def bare (anchor : Option String) (tag : Option Tag) : Reading Node := do
  if anchor.isSome || tag.isSome then
    return .scalar (← declared anchor tag) true ""
  else refuse

/-- Read a node, or nothing before one of the given tokens. -/
def nodeUnless : Nat → List Token → Bool → Bool → Reading Node
  | 0, _, _, _ => refuse
  | steps + 1, endings, inBlock, inMapping => do
    match ← next? with
    | none => refuse
    | some token =>
      if endings.contains token then return Node.absent else node steps inBlock inMapping

/-- Read the items of a block sequence. -/
def blockItems : Nat → Reading (List Node)
  | 0 => refuse
  | steps + 1 => do
    if ← accept .blockEntry then
      let item ← nodeUnless steps [.blockEntry, .blockEnd] true false
      return item :: (← blockItems steps)
    else if ← accept .blockEnd then return []
    else refuse

/-- Read the items of a sequence that stands no deeper than its key. -/
def unindentedItems : Nat → Reading (List Node)
  | 0 => refuse
  | steps + 1 => do
    if ← accept .blockEntry then
      let item ← nodeUnless steps [.blockEntry, .key, .value, .blockEnd] true false
      return item :: (← unindentedItems steps)
    else return []

/-- Read the entries of a block mapping. -/
def blockEntries : Nat → Reading (List (Node × Node))
  | 0 => refuse
  | steps + 1 => do
    let endings := [Token.key, .value, .blockEnd]
    if ← accept .key then
      let key ← nodeUnless steps endings true true
      let value ←
        if ← accept .value then nodeUnless steps endings true true else pure Node.absent
      return (key, value) :: (← blockEntries steps)
    else if ← accept .blockEnd then return []
    else refuse

/-- Read the items between brackets.  A comma stands before each but the first,
and may stand before the closing bracket. -/
def flowItems : Nat → Bool → Reading (List Node)
  | 0, _ => refuse
  | steps + 1, first => do
    if ← accept .flowSequenceEnd then return []
    else
      if !first then
        if !(← accept .flowEntry) then refuse
      if ← accept .key then
        let pair ← flowPair steps
        return .mapping Properties.none [pair] :: (← flowItems steps false)
      else if ← accept .flowSequenceEnd then return []
      else
        let item ← node steps false false
        return item :: (← flowItems steps false)

/-- Read a pair between brackets, behind the mark of its key.  A token that
leaves the key empty is passed with it. -/
def flowPair : Nat → Reading (Node × Node)
  | 0 => refuse
  | steps + 1 => do
    let key ←
      if ← nextIsIn [.value, .flowEntry, .flowSequenceEnd] then
        advance
        pure Node.absent
      else node steps false false
    let value ←
      if ← accept .value then nodeUnless steps [.flowEntry, .flowSequenceEnd] false false
      else pure Node.absent
    return (key, value)

/-- Read the entries between braces.  A comma stands before each but the first,
and may stand before the closing brace. -/
def flowEntries : Nat → Bool → Reading (List (Node × Node))
  | 0, _ => refuse
  | steps + 1, first => do
    if ← accept .flowMappingEnd then return []
    else
      if !first then
        if !(← accept .flowEntry) then refuse
      if ← accept .key then
        let key ← nodeUnless steps [.value, .flowEntry, .flowMappingEnd] false false
        let value ←
          if ← accept .value then nodeUnless steps [.flowEntry, .flowMappingEnd] false false
          else pure Node.absent
        return (key, value) :: (← flowEntries steps false)
      else if ← accept .flowMappingEnd then return []
      else
        let key ← node steps false false
        return (key, Node.absent) :: (← flowEntries steps false)

end

/-! ## The document -/

/-- The tag handles that need no declaration. -/
def defaultHandles : List (String × List UInt8) :=
  [("!", [0x21]), ("!!", Tag.core "")]

/-- Read directives, given whether a version was declared already.  Each may
stand once. -/
def directives : List Token → Bool → List (String × List UInt8) → Reading Unit
  | .versionDirective major minor :: rest, versionSeen, handles => do
    if versionSeen || major != 1 || (minor != 1 && minor != 2) then throw .badDirective
    directives rest true handles
  | .tagDirective handle lead :: rest, versionSeen, handles => do
    if (handles.lookup handle).isSome then throw .badDirective
    directives rest versionSeen ((handle, lead) :: handles)
  | rest, _, handles =>
    set (⟨rest, handles ++ defaultHandles, []⟩ : NodeReader)

/-- Whether the token can stand only before or behind a document's content. -/
def isOutside : Token → Bool
  | .versionDirective _ _ | .tagDirective _ _ | .documentStart | .documentEnd => true
  | _ => false

/-- Whether the token begins a document that says so. -/
def opensDocument : Token → Bool
  | .versionDirective _ _ | .tagDirective _ _ | .documentStart => true
  | _ => false

/-- Read the one document. -/
def document : Reading Node := do
  let tokens := (← get).tokens
  let steps := 4 * tokens.length + 8
  if tokens.isEmpty then return Node.absent
  directives tokens false []
  let explicit := tokens.head?.any opensDocument
  if explicit then
    if !(← accept .documentStart) then refuse
  let empty := explicit && ((← next?).map isOutside).getD true
  let root ← if empty then pure Node.absent else node steps true false
  let behind := (← get).tokens.dropWhile (· == Token.documentEnd)
  if behind.isEmpty then return root
  else if behind.head?.any opensDocument then throw .severalDocuments
  else refuse

end NodeReader

/-- The node of a document.  A document without tokens has the absent node. -/
def Node.ofTokens (tokens : List Token) : Except Refusal Node := do
  let (root, _) ← NodeReader.document.run ⟨tokens, [], []⟩
  return root

end Yaml
end Ritual
