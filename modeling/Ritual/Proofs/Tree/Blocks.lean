import Ritual.Proofs.Collections
import Ritual.Proofs.Lexeme.Kind
import Ritual.Proofs.Token.Tiling
import Ritual.Schema

namespace Ritual

/-!
# Blocks and their tags

Every language tag makes one block, and the blocks stand in the order of the tags.
A block is therefore identified by how many language tags stand before its own, and
the document numbers the blocks by it.
-/

namespace Segment

/-- The segment that a tag opens, before the given tokens. -/
def ofTag (tag : Token) (after : List Token) : Segment :=
  ⟨tag, after.takeWhile fun next => !next.kind.opensBlock && next.kind != .eof⟩

/-- Whether a token is a language tag. -/
def opensLanguage (token : Token) : Bool :=
  token.kind == .languageParam

theorem kind_of_opensLanguage {token : Token} (language : opensLanguage token = true) :
    token.kind = .languageParam := by
  simpa [opensLanguage] using language

theorem opensBlock_of_language {token : Token} (language : opensLanguage token = true) :
    token.kind.opensBlock = true := by
  rw [kind_of_opensLanguage language]
  rfl

/-- The language tags of a token list, each with the tokens behind it. -/
def languageTags : List Token → List (Token × List Token)
  | [] => []
  | token :: rest =>
    if opensLanguage token then (token, rest) :: languageTags rest else languageTags rest

theorem languageTags_of_language {token : Token} (language : opensLanguage token = true)
    (rest : List Token) : languageTags (token :: rest) = (token, rest) :: languageTags rest := by
  rw [languageTags, if_pos language]

theorem languageTags_of_other {token : Token} (other : opensLanguage token = false)
    (rest : List Token) : languageTags (token :: rest) = languageTags rest := by
  rw [languageTags, if_neg (by simp [other])]

theorem map_languageTags (tokens : List Token) :
    (languageTags tokens).map Prod.fst = tokens.filter opensLanguage := by
  induction tokens with
  | nil => rfl
  | cons token rest inductionHypothesis =>
    cases language : opensLanguage token with
    | false =>
      rw [languageTags_of_other language, inductionHypothesis,
        List.filter_cons_of_neg (by simp [language])]
    | true =>
      rw [languageTags_of_language language, List.map_cons, inductionHypothesis,
        List.filter_cons_of_pos language]

/-- Which language tag a tag is, is the number of language tags before it. -/
theorem exists_of_languageTags {tokens : List Token} {index : Nat} {tag : Token}
    {after : List Token} (found : (languageTags tokens)[index]? = some (tag, after)) :
    ∃ before, tokens = before ++ tag :: after ∧ opensLanguage tag = true ∧
      before.countP opensLanguage = index := by
  induction tokens generalizing index with
  | nil => cases found
  | cons token rest inductionHypothesis =>
    cases language : opensLanguage token with
    | false =>
      rw [languageTags_of_other language] at found
      rcases inductionHypothesis found with ⟨before, rfl, isTag, count⟩
      refine ⟨token :: before, rfl, isTag, ?_⟩
      rw [List.countP_cons_of_neg (by simp [language]), count]
    | true =>
      rw [languageTags_of_language language] at found
      cases index with
      | zero =>
        rcases Prod.mk.inj (Option.some.inj found) with ⟨rfl, rfl⟩
        exact ⟨[], rfl, language, rfl⟩
      | succ index =>
        rcases inductionHypothesis found with ⟨before, rfl, isTag, count⟩
        refine ⟨token :: before, rfl, isTag, ?_⟩
        rw [List.countP_cons_of_pos language, count]

variable {mode : Line.Reconstruction} {source : List Char}

theorem block?_of_other {segment : Segment} (other : opensLanguage segment.tag = false) :
    segment.block? mode source = none :=
  if_neg (by simpa [opensLanguage] using other)

/-- What a segment's block is made of. -/
structure Makes (mode : Line.Reconstruction) (source : List Char) (segment : Segment)
    (block : Block) : Prop where
  location : block.location = segment.tag.location
  language : block.language = (Language.ofTag? segment.tag.text).getD unknownLanguage
  kind : block.kind = block.language ++ "_block"
  body : block.body = segment.body mode source

theorem block?_of_language (mode : Line.Reconstruction) (source : List Char) {segment : Segment}
    (language : opensLanguage segment.tag = true) :
    ∃ block, segment.block? mode source = some block ∧ Makes mode source segment block :=
  ⟨_, if_pos (kind_of_opensLanguage language), rfl, rfl, rfl, rfl⟩

theorem ofTag_append_ending (tag : Token) {ending : Token} (ends : ending.kind = .eof)
    {after : List Token} (endless : ∀ token ∈ after, token.kind ≠ .eof) :
    ofTag tag (after ++ [ending]) =
      ⟨tag, after.takeWhile fun next => !next.kind.opensBlock⟩ := by
  apply congrArg (Segment.mk tag)
  induction after with
  | nil => simp [ends]
  | cons token rest inductionHypothesis =>
    have later := inductionHypothesis fun other listed =>
      endless other (List.mem_cons_of_mem _ listed)
    have here : (token.kind != .eof) = true := by
      simpa using endless token List.mem_cons_self
    rw [List.cons_append, List.takeWhile_cons, List.takeWhile_cons, later, here, Bool.and_true]

theorem blocks_languageTags (mode : Line.Reconstruction) (source : List Char) {ending : Token}
    (ends : ending.kind = .eof) {tokens : List Token}
    (endless : ∀ token ∈ tokens, token.kind ≠ .eof) :
    List.Forall₂ (fun block found => Makes mode source (ofTag found.1 found.2) block)
      ((ofTokens tokens).filterMap (block? mode source)) (languageTags (tokens ++ [ending])) := by
  induction tokens with
  | nil =>
    have noTag : opensLanguage ending = false := by simp [opensLanguage, ends]
    rw [List.nil_append, languageTags_of_other noTag]
    exact .nil
  | cons token rest inductionHypothesis =>
    have restEndless : ∀ other ∈ rest, other.kind ≠ .eof := fun other listed =>
      endless other (List.mem_cons_of_mem _ listed)
    have later := inductionHypothesis restEndless
    rw [ofTokens, ← ofTag_append_ending token ends restEndless, List.cons_append]
    cases language : opensLanguage token with
    | false =>
      rw [languageTags_of_other language]
      split
      · rw [List.filterMap_cons_none (block?_of_other language)]
        exact later
      · exact later
    | true =>
      have opens := opensBlock_of_language language
      have tagged : opensLanguage (ofTag token (rest ++ [ending])).tag = true := language
      rcases block?_of_language mode source tagged with ⟨block, made, makes⟩
      rw [languageTags_of_language language, if_pos opens, List.filterMap_cons_some made]
      exact .cons makes later

end Segment

namespace Tree

theorem endless_tokens {tiles : List Tile} {after : List Char} (tiling : Tile.Tiling tiles after)
    (position : Source.Position) : ∀ token ∈ Tile.tokens position tiles, token.kind ≠ .eof := by
  intro token listed
  rcases Tile.exists_tile_of_mem listed with ⟨before, tile, rest, rfl, rfl⟩
  exact (Tile.tiling_append.mp tiling).2.2.1.kind_ne_eof

/-- Only the end of a source is no live token of it. -/
theorem live_tokenize {source : String} (reading : Tile.Reading source.toList) :
    live (Token.tokenize source) = Tile.tokens Source.Position.start reading.tiles := by
  rw [reading.tokenize_eq]
  apply Lexeme.takeWhile_of_stops _ (Lexeme.stops_cons.mpr rfl)
  intro token listed
  simpa using endless_tokens reading.tiling Source.Position.start token listed

/-- The blocks of a source are made by its language tags, in order. -/
theorem blocks_parse (mode : Line.Reconstruction) (source : String) :
    List.Forall₂ (fun block found => Segment.Makes mode source.toList
        (Segment.ofTag found.1 found.2) block)
      (parse mode source (Token.tokenize source)).blocks
      (Segment.languageTags (Token.tokenize source)) := by
  rcases Tile.exists_reading source.toList with ⟨reading⟩
  have endless := endless_tokens reading.tiling Source.Position.start
  have ends : (Token.endOfSource (Source.Position.start.after source.toList)).kind = .eof := rfl
  have blocks := Segment.blocks_languageTags mode source.toList ends endless
  rw [← reading.tokenize_eq, ← live_tokenize reading] at blocks
  exact blocks

/-- The language tags of a source. -/
def tags (source : String) : List Token :=
  (Token.tokenize source).filter Segment.opensLanguage

/-- Every block of a source is made by the tag at its index. -/
theorem blocks_tags (mode : Line.Reconstruction) (source : String) :
    List.Forall₂ (fun block tag =>
        ∃ after, Segment.Makes mode source.toList (Segment.ofTag tag after) block)
      (parse mode source (Token.tokenize source)).blocks (tags source) := by
  rw [tags, ← Segment.map_languageTags]
  apply List.forall₂_map_right_iff.mpr
  exact (blocks_parse mode source).imp fun block found makes => ⟨found.2, makes⟩

/-- The blocks of a source, each with its tag. -/
def tagged (mode : Line.Reconstruction) (source : String) : List (Block × Token) :=
  (parse mode source (Token.tokenize source)).blocks.zip (tags source)

theorem map_fst_tagged (mode : Line.Reconstruction) (source : String) :
    (tagged mode source).map Prod.fst = (parse mode source (Token.tokenize source)).blocks :=
  List.map_fst_zip (Nat.le_of_eq (blocks_tags mode source).length_eq)

theorem map_snd_tagged (mode : Line.Reconstruction) (source : String) :
    (tagged mode source).map Prod.snd = tags source :=
  List.map_snd_zip (Nat.le_of_eq (blocks_tags mode source).length_eq.symm)

/-- A block stands beside the tag that makes it. -/
theorem exists_segment_of_mem_tagged {mode : Line.Reconstruction} {source : String}
    {made : Block × Token} (listed : made ∈ tagged mode source) :
    ∃ before after, Token.tokenize source = before ++ made.2 :: after ∧
      Segment.opensLanguage made.2 = true ∧
      Segment.Makes mode source.toList (Segment.ofTag made.2 after) made.1 := by
  rw [tagged, tags, ← Segment.map_languageTags, List.zip_map_right] at listed
  rcases List.mem_map.mp listed with ⟨⟨block, found⟩, paired, rfl⟩
  rcases List.getElem?_of_mem (List.of_mem_zip paired).2 with ⟨index, indexed⟩
  rcases Segment.exists_of_languageTags indexed with ⟨before, parts, language, _⟩
  exact ⟨before, found.2, parts, language, List.forall₂_zip (blocks_parse mode source) paired⟩

end Tree

/-- What a block says, wherever its tag stands: its kind, its language and its body. -/
def Block.content (block : Block) : String × String × String :=
  (block.kind, block.language, block.body)

namespace Schema

/-! ## The document -/

/-- The document numbers what the blocks say. -/
theorem numbered_eq_mapIdx (start : Nat) (blocks : List Block) :
    numbered start blocks = (blocks.map Block.content).mapIdx fun index content =>
      ⟨start + index, BlockType.ofLanguage content.2.1, content.2.2, []⟩ := by
  induction blocks generalizing start with
  | nil => rfl
  | cons block rest inductionHypothesis =>
    rw [numbered, inductionHypothesis, List.map_cons, List.mapIdx_cons]
    simp only [Block.content, Nat.add_zero, Nat.add_assoc, Nat.add_comm 1]

theorem numbered_getElem? (start : Nat) (blocks : List Block) (index : Nat) :
    (numbered start blocks)[index]? = blocks[index]?.map fun block =>
      ⟨start + index, BlockType.ofLanguage block.language, block.body, []⟩ := by
  rw [numbered_eq_mapIdx, List.getElem?_mapIdx, List.getElem?_map, Option.map_map]
  rfl

/-- A change of the bodies is a change of the code. -/
theorem numbered_map_body (change : String → String) (start : Nat) (blocks : List Block) :
    numbered start (blocks.map fun block => { block with body := change block.body }) =
      (numbered start blocks).map fun block => { block with code := change block.code } := by
  induction blocks generalizing start with
  | nil => rfl
  | cons block rest inductionHypothesis =>
    rw [List.map_cons, numbered, inductionHypothesis, numbered, List.map_cons]

/-- A document depends on what the blocks say, and not on where they stand. -/
theorem ofTree_congr {first second : Tree}
    (same : first.blocks.map Block.content = second.blocks.map Block.content) :
    ofTree first = ofTree second := by
  rw [ofTree, ofTree, numbered_eq_mapIdx, numbered_eq_mapIdx, same]

end Schema
end Ritual
