import Ritual.Proofs.Language.Attribute
import Ritual.Proofs.Lexeme.Agreement
import Ritual.Proofs.Schema.BlockTypes
import Ritual.Proofs.Token.Coverage

namespace Ritual

/-!
# The languages of tags and blocks

The scanner reads a tag by its whole word, and the language is told by how the tag begins.
On the tags of a source the two agree: no tag begins with the word of another one.  A tag
`LANGUAGE` has the language of its leftmost attribute, and every block has the language of
its tag, in its kind as well.
-/

namespace Language

variable {tag : String} {word attributes : List Char}

/-- The language of a tag that is a word and two colons depends on the word alone. -/
theorem ofTag?_of_word {capitals : String} (parts : tag.toList = word ++ [':', ':'])
    (spelled : Lexeme.SpelledAs word capitals)
    (listed : capitals ∈ ["PYTHON", "JAVASCRIPT", "JS"]) :
    ofTag? tag = if capitals = "PYTHON" then some "python" else some "javascript" := by
  have upper : tag.toList.map Char.toUpper = capitals.toList ++ [':', ':'] := by
    rw [parts, List.map_append, spelledAs_iff.mp spelled]
    rfl
  simp only [ofTag?, beginsWith_eq_isPrefixOf, upper]
  simp only [List.mem_cons, List.not_mem_nil, or_false] at listed
  rcases listed with rfl | rfl | rfl
  · rfl
  · rfl
  · rfl

/-- The language of a tag `LANGUAGE` is that of its leftmost attribute, in lower case. -/
theorem ofTag?_of_attributes (parts : tag.toList = word ++ '[' :: attributes)
    (spelled : Lexeme.SpelledAs word "LANGUAGE") :
    ofTag? tag = (attribute? tag.toList).map fun value => Text.lowercase (String.ofList value) := by
  have upper : tag.toList.map Char.toUpper =
      "LANGUAGE".toList ++ '[' :: attributes.map Char.toUpper := by
    rw [parts, List.map_append, spelledAs_iff.mp spelled]
    rfl
  simp only [ofTag?, beginsWith_eq_isPrefixOf, upper]
  rfl

/-- What the language of a tag is, by the tag's two forms.  Each form has its own rule, so
that only a word must be `PYTHON` to name python: `LANGUAGE[lang="python"]` names python too,
and an attribute may name javascript in the same way. -/
inductive TagNames (tag : String) : Prop where
  /-- A word and two colons: the word tells the language. -/
  | byWord {word : List Char} (parts : tag.toList = word ++ [':', ':'])
      (spelled : Lexeme.SpelledAs word "PYTHON" ∨ Lexeme.SpelledAs word "JAVASCRIPT" ∨
        Lexeme.SpelledAs word "JS")
      (python : ofTag? tag = some "python" ↔ Lexeme.SpelledAs word "PYTHON")
      (javascript : ofTag? tag = some "javascript" ↔
        Lexeme.SpelledAs word "JAVASCRIPT" ∨ Lexeme.SpelledAs word "JS")
  /-- The word `LANGUAGE` and a bracket: the leftmost attribute tells the language. -/
  | byAttribute {word attributes : List Char} (parts : tag.toList = word ++ '[' :: attributes)
      (spelled : Lexeme.SpelledAs word "LANGUAGE")
      (language : ∀ language, ofTag? tag = some language ↔
        ∃ value, HasLeftmost tag.toList value ∧ Text.lowercase (String.ofList value) = language)
      (none : ofTag? tag = none ↔ ∀ front value, ¬HasAttribute tag.toList front value)

theorem tagNames_of_word {capitals : String} (parts : tag.toList = word ++ [':', ':'])
    (spelled : Lexeme.SpelledAs word capitals)
    (listed : capitals ∈ ["PYTHON", "JAVASCRIPT", "JS"]) : TagNames tag := by
  have language := ofTag?_of_word parts spelled listed
  have same : ∀ {other : String}, Lexeme.SpelledAs word other ↔ capitals = other :=
    ⟨fun again => spelled.symm.trans again, fun equal => equal ▸ spelled⟩
  simp only [List.mem_cons, List.not_mem_nil, or_false] at listed
  refine .byWord parts ?_ ?_ ?_
  · simp only [same]
    exact listed
  · rw [language, same]
    rcases listed with rfl | rfl | rfl <;> decide
  · rw [language, same, same]
    rcases listed with rfl | rfl | rfl <;> decide

theorem tagNames_of_attributes (parts : tag.toList = word ++ '[' :: attributes)
    (spelled : Lexeme.SpelledAs word "LANGUAGE") : TagNames tag := by
  have language := ofTag?_of_attributes parts spelled
  refine .byAttribute parts spelled ?_ ?_
  · intro named
    simp only [language, Option.map_eq_some_iff, attribute?_eq_some_iff]
  · rw [language, Option.map_eq_none_iff, attribute?_eq_none_iff]

theorem tagNames_of_isLanguageTag {after : List Char}
    (isTag : Lexeme.IsLanguageTag tag.toList after) : TagNames tag := by
  rcases isTag with ⟨word, attributes, spelled, parts, _⟩ | ⟨word, spelled, parts⟩
  · exact tagNames_of_attributes parts spelled
  · rcases spelled with python | javascript | js
    · exact tagNames_of_word parts python (by simp)
    · exact tagNames_of_word parts javascript (by simp)
    · exact tagNames_of_word parts js (by simp)

end Language

namespace Token

theorem tagNames_of_tokenize {source : String} {token : Token} (listed : token ∈ tokenize source)
    (kind : token.kind = .languageParam) : Language.TagNames token.text := by
  rcases Tile.exists_reading source.toList with ⟨reading⟩
  rcases (mem_tokenize reading).mp listed with inTiles | rfl
  · rcases reading.exists_stands inTiles with ⟨front, lexeme, rest, _, stands, rfl⟩
    rcases stands.form_or_single with ⟨shape, _⟩ | ⟨char, rfl, _⟩
    · have isTag : Lexeme.Shape lexeme.kind lexeme.raw lexeme.text rest := shape
      have noString : lexeme.kind ≠ .string := by
        rw [show lexeme.kind = .languageParam from kind]
        exact TokenKind.noConfusion
      rw [show lexeme.kind = .languageParam from kind, ← stands.text_eq_raw noString] at isTag
      apply Language.tagNames_of_isLanguageTag
      rw [ofLexeme, String.toList_ofList]
      exact isTag
    · cases kind
  · cases kind

end Token

namespace Tree

/-- Every language tag of a source names the language that its form tells.  Every block has
the language of its tag, or `unknown`, and is accepted by the upper case of it, whatever the
language ends in. -/
theorem languages_of_tags (source : String) :
    (∀ token ∈ Token.tokenize source, token.kind = .languageParam →
        Language.TagNames token.text) ∧
      (∀ mode, List.Forall₂ (fun block tag =>
          block.language = (Language.ofTag? tag.text).getD "unknown" ∧
            block.kind = block.language ++ "_block")
        (parse mode source (Token.tokenize source)).blocks (tags source)) ∧
      ∀ language, Analysis.blockTypeOf (language ++ "_block") = Text.uppercase language := by
  refine ⟨fun token listed kind => Token.tagNames_of_tokenize listed kind, ?_, ?_⟩
  · intro mode
    apply (blocks_tags mode source).imp
    rintro block tag ⟨after, makes⟩
    exact ⟨makes.language, makes.kind⟩
  · intro language
    rw [Analysis.blockTypeOf, Analysis.withoutBlockEnding_append]

/-- A tag without its bracket, whose attribute has two kinds of quotes and stands behind a
name without a value. -/
theorem languages_of_tags_unclosed :
    ⟨.languageParam, "Language[lang = no LANG=\"Rust' y", ⟨1, 1⟩, ⟨0, 32⟩⟩ ∈
        Token.tokenize "Language[lang = no LANG=\"Rust' y" ∧
      (∃ value, Language.HasLeftmost "Language[lang = no LANG=\"Rust' y".toList value ∧
        Text.lowercase (String.ofList value) = "rust") ∧
      (parse .source "Language[lang = no LANG=\"Rust' y"
        (Token.tokenize "Language[lang = no LANG=\"Rust' y")).blocks.map Block.kind =
          ["rust_block"] := by
  have listed : ⟨.languageParam, "Language[lang = no LANG=\"Rust' y", ⟨1, 1⟩, ⟨0, 32⟩⟩ ∈
      Token.tokenize "Language[lang = no LANG=\"Rust' y" := by
    decide +kernel
  refine ⟨listed, ?_, by decide +kernel⟩
  cases (languages_of_tags "Language[lang = no LANG=\"Rust' y").1 _ listed rfl with
  | byWord parts _ _ _ =>
    have last := congrArg List.getLast? parts
    simp at last
  | byAttribute _ _ language _ => exact (language "rust").mp (by decide +kernel)

end Tree
end Ritual
