import Ritual.Json
import Ritual.Text.LowerCase
import Ritual.Tree

namespace Ritual

/-!
# The schema document

The result of a compilation lists the blocks with their numbers, the block
types of the runtime and the code.  A block's type here depends on its language
alone; the analysis has its own rule for the types that it accepts.
-/

/-- The block types of the runtime. -/
inductive BlockType where
  | python
  | js
  | web
  | quantum
  | native
  | blueprint
  /-- Any other language. -/
  | language
deriving DecidableEq, Repr

namespace BlockType

/-- The type of a block in a language, which may be written in any case. -/
def ofLanguage (name : String) : BlockType :=
  match Text.lowercase name with
  | "python" => python
  | "javascript" => js
  | "js" => js
  | "web" => web
  | "quantum" => quantum
  | "native" => native
  | "blueprint" => blueprint
  | _ => language

/-- The name of a type in the document. -/
def name : BlockType → String
  | python => "PYTHON"
  | js => "JS"
  | web => "WEB"
  | quantum => "QUANTUM"
  | native => "NATIVE"
  | blueprint => "BLUEPRINT"
  | language => "LANGUAGE"

end BlockType

/-- A block of the document. -/
structure SchemaBlock where
  index : Nat
  type : BlockType
  code : String
  /-- Settings of the block, which no ritual can give yet. -/
  parameters : List (String × Json)
deriving DecidableEq

/-- The document of a compiled ritual. -/
structure Schema where
  version : String
  blocks : List SchemaBlock
deriving DecidableEq

namespace Schema

/-- The version of the document's format. -/
def currentVersion : String := "1.0"

/-- Number blocks from the given index on. -/
def numbered : Nat → List Block → List SchemaBlock
  | _, [] => []
  | index, block :: rest =>
    ⟨index, BlockType.ofLanguage block.language, block.body, []⟩ ::
      numbered (index + 1) rest

/-- The document of a tree. -/
def ofTree (tree : Tree) : Schema :=
  ⟨currentVersion, numbered 0 tree.blocks⟩

/-- A block as JSON. -/
def blockToJson (block : SchemaBlock) : Json :=
  .object [("idx", .number block.index), ("type", .text block.type.name),
    ("code", .text block.code), ("parameters", .object block.parameters)]

/-- The document as JSON. -/
def toJson (schema : Schema) : Json :=
  .object [("version", .text schema.version), ("blocks", .list (schema.blocks.map blockToJson))]

end Schema
end Ritual
