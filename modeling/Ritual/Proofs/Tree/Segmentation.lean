import Mathlib.Data.List.TakeWhile
import Ritual.Proofs.Tree.Blocks
import Ritual.Proofs.Tree.OnePass

namespace Ritual

/-!
# A tree segments its tokens

Whatever tokens are parsed, those of a source or others, each tag before the first end
of stream is read once: a language tag makes one block, any other tag one note.  What a
block says is said by its tag and the tokens up to the next tag, so a token list that is
parted in front of a tag is parsed part by part.
-/

/-- A block without its body. -/
def Block.frame (block : Block) : Block :=
  { block with body := "" }

namespace Segment

/-- Whether a token is a tag that makes no block. -/
def opensNote (token : Token) : Bool :=
  token.kind == .webParam || token.kind == .quantumParam

/-- The note of a tag that makes no block. -/
def note (tag : Token) : DeferredTag where
  language := if tag.kind = .webParam then "web" else "quantum"
  tag := tag.text
  location := tag.location

theorem deferred?_of_note {segment : Segment} (notes : opensNote segment.tag = true) :
    segment.deferred? = some (note segment.tag) := by
  rw [opensNote, Bool.or_eq_true, beq_iff_eq, beq_iff_eq] at notes
  rcases notes with web | quantum
  · simp [deferred?, note, web]
  · simp [deferred?, note, quantum]

theorem deferred?_of_not_note {segment : Segment} (other : opensNote segment.tag = false) :
    segment.deferred? = none := by
  simp only [opensNote, Bool.or_eq_false_iff, beq_eq_false_iff_ne] at other
  unfold deferred?
  split
  · rename_i web
    exact absurd web other.1
  · rename_i quantum
    exact absurd quantum other.2
  · rfl

theorem opensBlock_of_note {token : Token} (notes : opensNote token = true) :
    token.kind.opensBlock = true := by
  rw [opensNote, Bool.or_eq_true, beq_iff_eq, beq_iff_eq] at notes
  rcases notes with web | quantum
  · rw [web]
    rfl
  · rw [quantum]
    rfl

/-- The notes of the segments are those of the tags that make no block. -/
theorem filterMap_deferred? (tokens : List Token) :
    (ofTokens tokens).filterMap deferred? = (tokens.filter opensNote).map note := by
  induction tokens with
  | nil => rfl
  | cons token rest inductionHypothesis =>
    rw [ofTokens]
    cases notes : opensNote token with
    | true =>
      rw [if_pos (opensBlock_of_note notes), List.filterMap_cons_some (deferred?_of_note notes),
        List.filter_cons_of_pos notes, List.map_cons, inductionHypothesis]
    | false =>
      rw [List.filter_cons_of_neg (by simp [notes])]
      split
      · rw [List.filterMap_cons_none (deferred?_of_not_note notes), inductionHypothesis]
      · exact inductionHypothesis

theorem frame_of_makes {mode : Line.Reconstruction} {source : List Char} {segment : Segment}
    {block : Block} (makes : Makes mode source segment block) :
    block.frame = Tree.blockOf segment.tag "" := by
  rw [Block.frame, Tree.blockOf, makes.kind, makes.language, makes.location]

/-- The blocks of the segments are those of the language tags, up to their bodies. -/
theorem map_frame_block? (mode : Line.Reconstruction) (source : List Char)
    (tokens : List Token) :
    ((ofTokens tokens).filterMap (block? mode source)).map Block.frame =
      (tokens.filter opensLanguage).map fun tag => Tree.blockOf tag "" := by
  induction tokens with
  | nil => rfl
  | cons token rest inductionHypothesis =>
    rw [ofTokens]
    cases language : opensLanguage token with
    | true =>
      have tagged : opensLanguage (Segment.mk token
          (rest.takeWhile fun next => !next.kind.opensBlock)).tag = true := language
      rcases block?_of_language mode source tagged with ⟨block, made, makes⟩
      rw [if_pos (opensBlock_of_language language), List.filterMap_cons_some made,
        List.filter_cons_of_pos language, List.map_cons, List.map_cons, inductionHypothesis,
        frame_of_makes makes]
    | false =>
      rw [List.filter_cons_of_neg (by simp [language])]
      split
      · rw [List.filterMap_cons_none (block?_of_other language), inductionHypothesis]
      · exact inductionHypothesis

/-- The blocks of the segments stand where the language tags stand. -/
theorem map_location_block? (mode : Line.Reconstruction) (source : List Char)
    (tokens : List Token) :
    ((ofTokens tokens).filterMap (block? mode source)).map Block.location =
      (tokens.filter opensLanguage).map Token.location := by
  have locations := congrArg (List.map Block.location) (map_frame_block? mode source tokens)
  rw [List.map_map, List.map_map] at locations
  exact locations

theorem length_filterMap_block? (mode : Line.Reconstruction) (source : List Char)
    (tokens : List Token) :
    ((ofTokens tokens).filterMap (block? mode source)).length = tokens.countP opensLanguage := by
  have locations := congrArg List.length (map_location_block? mode source tokens)
  rw [List.length_map, List.length_map] at locations
  rw [locations, List.countP_eq_length_filter]

/-- A tag in the middle of a token list is the tag of one segment. -/
theorem ofTokens_around {tag : Token} (opens : tag.kind.opensBlock = true)
    (before rest : List Token) :
    ofTokens (before ++ tag :: rest) =
      ofTokens before ++ ⟨tag, rest.takeWhile fun next => !next.kind.opensBlock⟩ ::
        ofTokens rest := by
  rw [ofTokens_append before, ofTokens, if_pos opens]
  intro first found
  obtain rfl := Option.some.inj found
  simp [opens]

/-- The block of a tag in the middle of a token list. -/
theorem getElem?_block?_around {mode : Line.Reconstruction} {source : List Char} {tag : Token}
    (opens : tag.kind.opensBlock = true) {before rest : List Token} {block : Block}
    (made : block? mode source ⟨tag, rest.takeWhile fun next => !next.kind.opensBlock⟩ =
      some block) :
    ((ofTokens (before ++ tag :: rest)).filterMap (block? mode source))[
      before.countP opensLanguage]? = some block := by
  rw [ofTokens_around opens, List.filterMap_append, List.filterMap_cons_some made,
    ← length_filterMap_block? mode source before, List.getElem?_append_right (Nat.le_refl _),
    Nat.sub_self]
  rfl

theorem body_of_newlines (mode : Line.Reconstruction) (source : List Char) {segment : Segment}
    (newlines : ∀ token ∈ segment.content, token.kind = .newline) :
    segment.body mode source = "" := by
  have none : (segment.content.dropWhile fun token => token.kind == .newline) = [] := by
    rw [List.dropWhile_eq_nil_iff]
    intro token listed
    exact beq_iff_eq.mpr (newlines token listed)
  rw [body, lines, none]
  rfl

end Segment

namespace Tree

theorem live_append {first : List Token} (endless : ∀ token ∈ first, token.kind ≠ .eof)
    (second : List Token) : live (first ++ second) = first ++ live second := by
  induction first with
  | nil => rfl
  | cons token rest inductionHypothesis =>
    rw [List.cons_append, live_cons (endless token List.mem_cons_self),
      inductionHypothesis fun other listed => endless other (List.mem_cons_of_mem _ listed)]
    rfl

theorem live_of_endless {tokens : List Token} (endless : ∀ token ∈ tokens, token.kind ≠ .eof) :
    live tokens = tokens := by
  have whole := live_append endless []
  rw [List.append_nil] at whole
  exact whole.trans (List.append_nil tokens)

theorem kind_of_mem_live {tokens : List Token} {token : Token} (listed : token ∈ live tokens) :
    token.kind ≠ .eof := by
  simpa using List.mem_takeWhile_imp listed

/-- Tokens that are parted in front of a tag have the segments of both parts. -/
theorem ofTokens_live_append {first second : List Token}
    (endless : ∀ token ∈ first, token.kind ≠ .eof)
    (opens : ∃ tag ∈ second.head?, tag.kind.opensBlock = true) :
    Segment.ofTokens (live (first ++ second)) =
      Segment.ofTokens (live first) ++ Segment.ofTokens (live second) := by
  rw [live_append endless, live_of_endless endless, Segment.ofTokens_append]
  rcases opens with ⟨tag, head, isTag⟩
  intro token found
  rw [live, List.head?_takeWhile, head] at found
  obtain rfl := Option.some.inj (Option.filter_eq_some_iff.mp found).1
  simp [isTag]

/-- A tag and tokens that open nothing make the one block of their segment. -/
theorem blocks_of_one_tag {mode : Line.Reconstruction} {source : String} {tag : Token}
    (opens : tag.kind.opensBlock = true) {between : List Token}
    (unopened : ∀ token ∈ between, token.kind.opensBlock = false)
    (endless : ∀ token ∈ tag :: between, token.kind ≠ .eof) {block : Block}
    (made : Segment.block? mode source.toList ⟨tag, between⟩ = some block) :
    (parse mode source (tag :: between)).blocks = [block] := by
  rw [parse, live_of_endless endless, Segment.ofTokens_tag opens unopened,
    List.filterMap_cons_some made]
  rfl

/-- A parse segments any token list, and so does one pass over it. -/
theorem parse_segmentation (mode : Line.Reconstruction) (source : String) (tokens : List Token) :
    read mode source tokens = parse mode source tokens ∧
      (parse mode source tokens).blocks.map Block.location =
        ((live tokens).filter Segment.opensLanguage).map Token.location ∧
      (parse mode source tokens).deferred =
        ((live tokens).filter Segment.opensNote).map Segment.note ∧
      (∀ before tag rest, live tokens = before ++ tag :: rest →
        Segment.opensLanguage tag = true → ∃ block,
          (parse mode source tokens).blocks[before.countP Segment.opensLanguage]? = some block ∧
          (parse mode source
            (tag :: rest.takeWhile fun next => !next.kind.opensBlock)).blocks = [block] ∧
          ((∀ token ∈ rest.takeWhile fun next => !next.kind.opensBlock, token.kind = .newline) →
            block.body = "")) ∧
      ∀ first second, tokens = first ++ second → (∀ token ∈ first, token.kind ≠ .eof) →
        (∃ tag ∈ second.head?, tag.kind.opensBlock = true) →
        (parse mode source tokens).blocks =
            (parse mode source first).blocks ++ (parse mode source second).blocks ∧
          (parse mode source tokens).deferred =
            (parse mode source first).deferred ++ (parse mode source second).deferred := by
  refine ⟨read_eq_parse mode source tokens, Segment.map_location_block? mode _ _,
    Segment.filterMap_deferred? _, ?_, ?_⟩
  · intro before tag rest parts language
    have opens := Segment.opensBlock_of_language language
    have tagged : Segment.opensLanguage (Segment.mk tag
        (rest.takeWhile fun next => !next.kind.opensBlock)).tag = true := language
    rcases Segment.block?_of_language mode source.toList tagged with ⟨block, made, makes⟩
    refine ⟨block, ?_, ?_, ?_⟩
    · rw [parse, parts]
      exact Segment.getElem?_block?_around opens made
    · apply blocks_of_one_tag opens _ _ made
      · intro token listed
        simpa using List.mem_takeWhile_imp listed
      · intro token listed
        have alive : token ∈ live tokens := by
          rw [parts]
          apply List.mem_append_right
          rcases List.mem_cons.mp listed with rfl | later
          · exact List.mem_cons_self
          · exact List.mem_cons_of_mem _ ((List.takeWhile_sublist _).subset later)
        exact kind_of_mem_live alive
    · intro newlines
      rw [makes.body]
      exact Segment.body_of_newlines mode _ newlines
  · rintro first second rfl endless opens
    simp only [parse, ofTokens_live_append endless opens, List.filterMap_append, and_self]

/-- Tokens that come from no source: a tag directly before another one, which has only a
line end behind it, and a tag behind the end of a stream. -/
theorem parse_segmentation_interrupted :
    let first : List Token :=
      [⟨.webParam, "WEB::", ⟨1, 1⟩, ⟨0, 5⟩⟩, ⟨.languageParam, "PYTHON::", ⟨1, 6⟩, ⟨5, 13⟩⟩]
    let second : List Token :=
      [⟨.languageParam, "JS::", ⟨7, 7⟩, ⟨9, 3⟩⟩, ⟨.newline, "", ⟨1, 1⟩, ⟨0, 0⟩⟩,
        ⟨.eof, "", ⟨1, 1⟩, ⟨0, 0⟩⟩, ⟨.languageParam, "PYTHON::", ⟨1, 1⟩, ⟨0, 0⟩⟩]
    (∃ block, (parse .source "" (first ++ second)).blocks[1]? = some block ∧ block.body = "") ∧
      (parse .source "" (first ++ second)).blocks =
        (parse .source "" first).blocks ++ (parse .source "" second).blocks := by
  intro first second
  rcases parse_segmentation .source "" (first ++ second) with ⟨_, _, _, bodies, parted⟩
  constructor
  · rcases bodies first ⟨.languageParam, "JS::", ⟨7, 7⟩, ⟨9, 3⟩⟩
      [⟨.newline, "", ⟨1, 1⟩, ⟨0, 0⟩⟩] rfl rfl with ⟨block, found, _, empty⟩
    exact ⟨block, found, empty (by decide)⟩
  · have endless : ∀ token ∈ first, token.kind ≠ .eof := by decide
    exact (parted first second rfl endless ⟨_, rfl, rfl⟩).1

end Tree
end Ritual
