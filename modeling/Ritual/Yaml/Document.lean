import Ritual.Yaml.Node
import Ritual.Yaml.Resolution

namespace Ritual
namespace Yaml

/-!
# Documents and the values in them

Values are taken from a document's nodes on demand.  Two limits keep this
finite: collections are nested at most 128 deep, counted along the aliases that
are followed, and at most one hundred aliases are followed for each event of the
document.  A node that nobody asks for is not examined.
-/

namespace Node

mutual

/-- The last node with a mark, in the order in which nodes begin. -/
def lastMarked? (mark : Nat) : Node → Option Node
  | .alias _ => none
  | .scalar properties plain text =>
    if properties.mark = some mark then some (.scalar properties plain text) else none
  | .list properties items =>
    (lastMarkedInItems? mark items).or
      (if properties.mark = some mark then some (.list properties items) else none)
  | .mapping properties entries =>
    (lastMarkedInEntries? mark entries).or
      (if properties.mark = some mark then some (.mapping properties entries) else none)

/-- The last node with a mark in a list. -/
def lastMarkedInItems? (mark : Nat) : List Node → Option Node
  | [] => none
  | item :: rest => (lastMarkedInItems? mark rest).or (lastMarked? mark item)

/-- The last node with a mark in a mapping. -/
def lastMarkedInEntries? (mark : Nat) : List (Node × Node) → Option Node
  | [] => none
  | (key, value) :: rest =>
    (lastMarkedInEntries? mark rest).or ((lastMarked? mark value).or (lastMarked? mark key))

end

mutual

/-- The number of events of a node: one for a scalar or an alias, and two for a
collection besides those of its parts. -/
def eventCount : Node → Nat
  | .alias _ => 1
  | .scalar _ _ _ => 1
  | .list _ items => 2 + itemEvents items
  | .mapping _ entries => 2 + entryEvents entries

/-- The number of events of the nodes in a list. -/
def itemEvents : List Node → Nat
  | [] => 0
  | item :: rest => eventCount item + itemEvents rest

/-- The number of events of the nodes in a mapping. -/
def entryEvents : List (Node × Node) → Nat
  | [] => 0
  | (key, value) :: rest => eventCount key + eventCount value + entryEvents rest

end

end Node

/-- Taking values from a document, with the number of aliases followed so
far. -/
abbrev Taking := StateT Nat (Except Refusal)

/-- The number of collections that may be nested. -/
def depthLimit : Nat := 128

/-- Follow an alias to the node that it stands for. -/
def follow (root : Node) : Node → Taking Node
  | .alias mark => do
    let followed := (← get) + 1
    if root.eventCount * 100 < followed then throw .tooManyAliases
    set followed
    match root.lastMarked? mark with
    | some target => return target
    | none => throw .unexpectedToken
  | node => return node

/-- Keep a tag of the document's own beside a collection. -/
def withOwnTag (tag : Option Tag) (value : Value) : Value :=
  match tag with
  | some (.own name) => .tagged name value
  | _ => value

/-- Add an entry to those of a mapping, which must not have the key. -/
def addEntry (entries : List (Value × Value)) (key value : Value) :
    Except Refusal (List (Value × Value)) :=
  if entries.any fun entry => key.sameKey entry.1 then .error .repeatedKey
  else .ok (entries ++ [(key, value)])

/-- The value of a node in which collections may be nested to the given depth. -/
def valueOf (root : Node) : Nat → Node → Taking Value
  | 0, node => do
    match ← follow root node with
    | .scalar properties plain text => scalarValue properties.tag plain text
    | _ => throw .tooDeep
  | depth + 1, node => do
    match ← follow root node with
    | .scalar properties plain text => scalarValue properties.tag plain text
    | .list properties items =>
      let values ← items.mapM (valueOf root depth)
      return withOwnTag properties.tag (.list values)
    | .mapping properties entries =>
      let values ← entries.foldlM (fun taken entry => do
        let key ← valueOf root depth entry.1
        let value ← valueOf root depth entry.2
        addEntry taken key value) []
      return withOwnTag properties.tag (.mapping values)
    | .alias _ => throw .unexpectedToken

end Yaml
end Ritual
