import Ritual.Canon.Rules
import Ritual.Text.WhiteSpace
import Ritual.Yaml.Document

namespace Ritual

/-!
# Canon documents

A canon document lists schools under `schools`, each with the operations that
its law allows, and may list block types under `block_types`.  Any other key at
the top is ignored, whatever stands under it.  Within a school unknown keys are
ignored too, but their values are still values.
-/

/-- A school as a canon document describes it. -/
structure SchoolEntry where
  /-- The text of its key. -/
  key : String
  name : Option String
  /-- The names of its operations as they are written. -/
  operationNames : List String
deriving DecidableEq, Repr

namespace SchoolEntry

/-- The name of the school: the given one unless it is blank, and else its
key. -/
def title (entry : SchoolEntry) : String :=
  match entry.name with
  | some name => if Text.isBlank name then entry.key else name
  | none => entry.key

/-- What follows the first colon of a name. -/
def afterColon? (name : String) : Option String :=
  match name.toList.dropWhile (· != ':') with
  | _ :: rest => some (String.ofList rest)
  | [] => none

/-- The operations of the school.  A name without a colon names none. -/
def operations (entry : SchoolEntry) : List String :=
  entry.operationNames.filterMap afterColon?

end SchoolEntry

/-- What a canon document says. -/
structure CanonDocument where
  schools : List SchoolEntry
  blockTypes : Option (List String)
deriving DecidableEq, Repr

namespace CanonDocument

/-- The rules that the document lays down, school by school. -/
def rules (document : CanonDocument) : CanonRules :=
  let withSchools := document.schools.foldl
    (fun rules entry => rules.withSchool entry.title entry.operations) CanonRules.empty
  match document.blockTypes with
  | some blockTypes => withSchools.withBlockTypes blockTypes
  | none => withSchools

/-! ## Reading the values of a school -/

/-- The value under a known key among entries whose keys must be texts.  A known
key may stand once; tags do not tell keys apart. -/
def field? (known : List String) (entries : List (Yaml.Value × Yaml.Value)) :
    Except Yaml.Refusal (String → Option Yaml.Value) := do
  let fields ← entries.foldlM (fun (fields : List (String × Yaml.Value)) entry => do
    match entry.1.untagged with
    | .text key =>
      if known.contains key && (fields.lookup key).isSome then throw .repeatedKey
      else return (key, entry.2) :: fields
    | _ => throw (.wrongShape "a text as key")) []
  return fun key => fields.lookup key

/-- The entries of a mapping or of null, whatever its tags. -/
def entriesOf (value : Yaml.Value) : Except Yaml.Refusal (List (Yaml.Value × Yaml.Value)) :=
  match value.untagged with
  | .mapping entries => .ok entries
  | .null => .ok []
  | _ => .error (.wrongShape "a mapping")

/-- The items of a list or of null, whatever its tags. -/
def itemsOf (value : Yaml.Value) : Except Yaml.Refusal (List Yaml.Value) :=
  match value.untagged with
  | .list items => .ok items
  | .null => .ok []
  | _ => .error (.wrongShape "a list")

/-- The text of a value, whatever its tags. -/
def textOf (value : Yaml.Value) : Except Yaml.Refusal String :=
  match value.untagged with
  | .text text => .ok text
  | _ => .error (.wrongShape "a text")

/-- The name of an operation, empty if it has none. -/
def operationName (value : Yaml.Value) : Except Yaml.Refusal String := do
  let field ← field? ["name"] (← entriesOf value)
  match field "name" with
  | some name => textOf name
  | none => return ""

/-- The names of the operations that a law lists. -/
def operationNames (law : Yaml.Value) : Except Yaml.Refusal (List String) := do
  let field ← field? ["operations"] (← entriesOf law)
  match field "operations" with
  | some operations => (← itemsOf operations).mapM operationName
  | none => return []

/-- A school from its key and its value. -/
def schoolEntry (key value : Yaml.Value) : Except Yaml.Refusal SchoolEntry := do
  if value.isNull then return ⟨key.keyText, none, []⟩
  let field ← field? ["name", "law"] (← entriesOf value)
  let name ←
    match field "name" with
    | some .null => pure none
    | some name => some <$> textOf name
    | none => pure none
  let operations ←
    match field "law" with
    | some law => operationNames law
    | none => pure []
  return ⟨key.keyText, name, operations⟩

/-! ## Reading the top of a document -/

/-- Whether a node stands for null where a value is optional: an untagged plain
scalar that is empty or spells null, or a spelling of null with its tag. -/
def isAbsent (tag : Option Yaml.Tag) (plain : Bool) (text : String) :
    Except Yaml.Refusal Bool :=
  if !plain then .ok false
  else
    match tag with
    | none => .ok (text.isEmpty || Yaml.spellsNull text)
    | some .null => if Yaml.spellsNull text then .ok true else .error .tagMismatch
    | some _ => .ok false

/-- The entries under a node that lists schools.  Collections under it may be
nested as deep as the top of the document leaves over. -/
def schoolValues (root node : Yaml.Node) : Yaml.Taking (List (Yaml.Value × Yaml.Value)) := do
  match ← Yaml.follow root node with
  | .scalar properties plain text =>
    if (← isAbsent properties.tag plain text) || (plain && text.isEmpty) then return []
    else throw (.wrongShape "a mapping of schools")
  | .mapping _ entries =>
    let depth := Yaml.depthLimit - 2
    entries.foldlM (fun taken entry => do
      let key ← Yaml.valueOf root depth entry.1
      let value ← Yaml.valueOf root depth entry.2
      Yaml.addEntry taken key value) []
  | _ => throw (.wrongShape "a mapping of schools")

/-- A block type under a node: the text of any scalar as it is written. -/
def blockTypeOf (root node : Yaml.Node) : Yaml.Taking String := do
  match ← Yaml.follow root node with
  | .scalar _ _ text => return text
  | _ => throw (.wrongShape "a scalar as block type")

/-- The block types under a node, if it lists any. -/
def blockTypesOf (root node : Yaml.Node) : Yaml.Taking (Option (List String)) := do
  match ← Yaml.follow root node with
  | .scalar properties plain text =>
    if ← isAbsent properties.tag plain text then return none
    else if plain && text.isEmpty then return some []
    else throw (.wrongShape "a list of block types")
  | .list _ items => return some (← items.mapM (blockTypeOf root))
  | _ => throw (.wrongShape "a list of block types")

/-- What has been read of the top of a document. -/
structure Top where
  schools : Option (List (Yaml.Value × Yaml.Value))
  blockTypes : Option (Option (List String))

/-- Read one entry of the top. -/
def addTop (root : Yaml.Node) (top : Top) (entry : Yaml.Node × Yaml.Node) : Yaml.Taking Top := do
  match ← Yaml.follow root entry.1 with
  | .scalar _ _ "schools" =>
    if top.schools.isSome then throw .repeatedKey
    return { top with schools := some (← schoolValues root entry.2) }
  | .scalar _ _ "block_types" =>
    if top.blockTypes.isSome then throw .repeatedKey
    return { top with blockTypes := some (← blockTypesOf root entry.2) }
  | .scalar _ _ _ => return top
  | _ => throw (.wrongShape "a text as key")

/-- Read the top of a document, a mapping or nothing. -/
def topOf (root : Yaml.Node) : Yaml.Taking Top := do
  match root with
  | .mapping _ entries => entries.foldlM (addTop root) ⟨none, none⟩
  | .scalar _ plain text =>
    if plain && text.isEmpty then return ⟨none, none⟩
    else throw (.wrongShape "a mapping at the top")
  | _ => throw (.wrongShape "a mapping at the top")

/-- The top of the document that a text holds. -/
def topOfYaml (text : String) : Except Yaml.Refusal Top := do
  let tokens ← Yaml.Token.ofChars text.toList
  let root ← Yaml.Node.ofTokens tokens
  let (top, _) ← (topOf root).run 0
  return top

/-- The document with some top. -/
def ofTop (top : Top) : Except Yaml.Refusal CanonDocument := do
  let schools ← (top.schools.getD []).mapM fun entry => schoolEntry entry.1 entry.2
  return ⟨schools, top.blockTypes.getD none⟩

/-- The document that a text holds. -/
def ofYaml (text : String) : Except Yaml.Refusal CanonDocument :=
  topOfYaml text >>= ofTop

/-- The schools of a text that can be read before the first that cannot.  They
are all its schools if the text holds a document. -/
def leadingSchools (text : String) : List SchoolEntry :=
  match topOfYaml text with
  | .ok top =>
    ((top.schools.getD []).map fun entry => (schoolEntry entry.1 entry.2).toOption).takeWhile
      Option.isSome |>.filterMap id
  | .error _ => []

end CanonDocument

/-- The rules of the canon document that a text holds. -/
def CanonRules.ofYaml (text : String) : Except Yaml.Refusal CanonRules :=
  (CanonDocument.ofYaml text).map CanonDocument.rules

end Ritual
