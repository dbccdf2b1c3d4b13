import Ritual.Compilation
import Ritual.Proofs.Collections

namespace Ritual

/-!
# The printed document

A document is printed line by line: its version, and its blocks in order, each with its
number, its type, its code as a JSON string and no settings.  This is the layout without
the JSON value in between, and what is printed of every document that a compilation gives.
-/

/-- The lines of a block that has no settings. -/
def SchemaBlock.printed (block : SchemaBlock) : String :=
  "    \x7b\n" ++
  "      \"idx\": " ++ toString block.index ++ ",\n" ++
  "      \"type\": \"" ++ block.type.name ++ "\",\n" ++
  "      \"code\": " ++ Json.quoted block.code ++ ",\n" ++
  "      \"parameters\": \x7b\x7d\n" ++
  "    \x7d"

namespace Schema

/-- Blocks between brackets, which stand together if there are none. -/
def printedBlocks : List SchemaBlock → String
  | [] => "[]"
  | blocks => "[\n" ++ ",\n".intercalate (blocks.map SchemaBlock.printed) ++ "\n  ]"

/-- The lines of a document that lists blocks without settings. -/
def printed (schema : Schema) : String :=
  "\x7b\n" ++
  "  \"version\": \"1.0\",\n" ++
  "  \"blocks\": " ++ printedBlocks schema.blocks ++ "\n" ++
  "\x7d\n"

/-! ## The layout of the value -/

theorem quoted_name (type : BlockType) :
    Json.quoted type.name = "\"" ++ type.name ++ "\"" := by
  cases type <;> rfl

theorem prettyItems_eq_map (depth : Nat) (items : List Json) :
    Json.prettyItems depth items = items.map (Json.pretty depth) := by
  induction items with
  | nil => rfl
  | cons item rest inductionHypothesis =>
    rw [Json.prettyItems, inductionHypothesis, List.map_cons]

/-- The text of a block at the depth of the list. -/
theorem pretty_blockToJson {block : SchemaBlock} (unset : block.parameters = []) :
    Json.indentation 2 ++ Json.pretty 2 (blockToJson block) = block.printed := by
  have index : Json.quoted "idx" = "\"idx\"" := rfl
  have type : Json.quoted "type" = "\"type\"" := rfl
  have code : Json.quoted "code" = "\"code\"" := rfl
  have parameters : Json.quoted "parameters" = "\"parameters\"" := rfl
  have outer : Json.indentation 2 = "    " := rfl
  have inner : Json.indentation 3 = "      " := rfl
  simp only [blockToJson, unset, Json.pretty, Json.prettyFields, Json.bracketed, List.map_cons,
    List.map_nil, index, type, code, parameters, Nat.reduceAdd, outer, inner, quoted_name]
  unfold SchemaBlock.printed
  -- the two sides differ in how their literals are cut, so they are compared as characters
  apply String.toList_inj.mp
  simp [String.toList_append]

theorem pretty_blocks {blocks : List SchemaBlock}
    (unset : ∀ block ∈ blocks, block.parameters = []) :
    Json.pretty 1 (.list (blocks.map blockToJson)) = printedBlocks blocks := by
  have lines : (Json.prettyItems 2 (blocks.map blockToJson)).map (Json.indentation 2 ++ ·) =
      blocks.map SchemaBlock.printed := by
    rw [prettyItems_eq_map, List.map_map, List.map_map]
    exact List.map_congr_left fun block listed => pretty_blockToJson (unset block listed)
  cases blocks with
  | nil => rfl
  | cons block rest =>
    have outer : Json.indentation 1 = "  " := rfl
    simp only [Json.pretty, Nat.reduceAdd, List.map_cons, Json.prettyItems, Json.bracketed,
      printedBlocks, outer] at lines ⊢
    rw [lines]
    apply String.toList_inj.mp
    simp [String.toList_append]

/-- The text of a document of the current version whose blocks have no settings. -/
theorem document_toJson {schema : Schema} (current : schema.version = currentVersion)
    (unset : ∀ block ∈ schema.blocks, block.parameters = []) :
    schema.toJson.document = schema.printed := by
  have version : Json.quoted "version" = "\"version\"" := rfl
  have blocks : Json.quoted "blocks" = "\"blocks\"" := rfl
  have none : Json.indentation 0 = "" := rfl
  have outer : Json.indentation 1 = "  " := rfl
  have text : Json.pretty 1 (.text schema.version) = "\"1.0\"" := by
    rw [current]
    rfl
  have listed := pretty_blocks unset
  rw [Json.document, toJson, Json.pretty]
  simp only [Json.prettyFields, Json.bracketed, List.map_cons, List.map_nil, Nat.reduceAdd, none,
    outer, version, blocks, text, listed]
  unfold printed
  apply String.toList_inj.mp
  simp [String.toList_append]

/-! ## Documents of trees -/

theorem parameters_of_mem_numbered {start : Nat} {blocks : List Block} {block : SchemaBlock}
    (listed : block ∈ numbered start blocks) : block.parameters = [] := by
  induction blocks generalizing start with
  | nil => cases listed
  | cons first rest inductionHypothesis =>
    rcases List.mem_cons.mp listed with rfl | later
    · rfl
    · exact inductionHypothesis later

theorem document_ofTree (tree : Tree) : (ofTree tree).toJson.document = (ofTree tree).printed :=
  document_toJson rfl fun _ listed => parameters_of_mem_numbered listed

end Schema

namespace Compilation

/-- What a compilation gives is the document of a tree. -/
theorem exists_tree_of_compile {reader : Reader} {location : CanonLocation}
    {mode : Line.Reconstruction} {path : String} {schema : Schema}
    (compiles : compile reader location mode path = .ok schema) :
    ∃ tree, schema = Schema.ofTree tree := by
  rcases bind_eq_ok.mp compiles with ⟨source, _, loads⟩
  rcases bind_eq_ok.mp loads with ⟨canon, _, checks⟩
  rcases bind_eq_ok.mp checks with ⟨tree, _, made⟩
  exact ⟨tree, (Except.ok.inj made).symm⟩

/-- What a compilation gives is printed line by line. -/
theorem document_of_compile {reader : Reader} {location : CanonLocation}
    {mode : Line.Reconstruction} {path : String} {schema : Schema}
    (compiles : compile reader location mode path = .ok schema) :
    schema.toJson.document = schema.printed := by
  rcases exists_tree_of_compile compiles with ⟨tree, rfl⟩
  exact Schema.document_ofTree tree

end Compilation
end Ritual
