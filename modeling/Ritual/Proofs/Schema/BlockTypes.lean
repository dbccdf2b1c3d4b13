import Ritual.Proofs.Analysis.Gate
import Ritual.Proofs.Text.Capitals

namespace Ritual

/-!
# The two types of a block

The analysis accepts a block by the upper case of its language, and the document
names its type by the lower case.  For the block types that are accepted by default
the two agree, except on a language that is spelled with a letter whose capital is an
`I` or an `S` of ASCII while its small form is not: such a block is accepted as one of
the runtime's types and written as the type of any other language.
-/

namespace Analysis

theorem withoutBlockEnding_append (language : String) :
    withoutBlockEnding (language ++ "_block") = language := by
  have backwards : (language ++ "_block").toList.reverse =
      ['k', 'c', 'o', 'l', 'b', '_'] ++ language.toList.reverse := by
    simp
  unfold withoutBlockEnding
  rw [backwards]
  simp

theorem accepts_of_checkBlock {rules : CanonRules} {block : Block}
    (checked : checkBlock rules block = none) :
    rules.acceptsBlockType (blockTypeOf block.kind) = true := by
  unfold checkBlock at checked
  simp only at checked
  split at checked
  · assumption
  · cases checked

end Analysis

namespace BlockType

/-- The name in the document of a block type that the analysis accepts. -/
def runtimeName (blockType : String) : String :=
  if blockType = "JAVASCRIPT" then "JS" else blockType

theorem plain_of_default : ∀ blockType ∈ CanonRules.defaultBlockTypes,
    Text.PlainWord blockType.toList := by
  have capital : ∀ blockType ∈ CanonRules.defaultBlockTypes,
      ∀ char ∈ blockType.toList, char ∈ Text.capitals :=
    Text.forall₂_of_all (by decide)
  have apart : ∀ blockType ∈ CanonRules.defaultBlockTypes,
      ∀ pair ∈ Text.ligatures, ¬pair <:+: blockType.toList := by
    decide
  exact fun blockType listed => .of_no_ligature (capital blockType listed) (apart blockType listed)

/-- A type that is accepted by default names itself, in lower case as well. -/
theorem ofLanguage_default : ∀ blockType ∈ CanonRules.defaultBlockTypes,
    (Text.lowercase blockType).toList = blockType.toList.map Char.toLower ∧
      (ofLanguage blockType).name = runtimeName blockType ∧
      (ofLanguage blockType = .language ↔ blockType = "LANGUAGE") := by
  decide

theorem eq_language_of_runtimeName {blockType : String}
    (same : runtimeName blockType = "LANGUAGE") : blockType = "LANGUAGE" := by
  unfold runtimeName at same
  split at same
  · simp at same
  · exact same

theorem ofLanguage_congr {first second : String}
    (same : Text.lowercase first = Text.lowercase second) :
    ofLanguage first = ofLanguage second := by
  rw [ofLanguage, ofLanguage, same]

/-- A language whose lower case has a stray is none of the runtime's. -/
theorem ofLanguage_of_stray {language : String} {char : Char} (stray : char ∈ Text.strays)
    (listed : char ∈ (Text.lowercase language).toList) : ofLanguage language = .language := by
  have none : ∀ name ∈ ["python", "javascript", "js", "web", "quantum", "native", "blueprint"],
      ∀ char ∈ Text.strays, char ∉ name.toList :=
    Text.forall₂_of_all (by decide)
  unfold ofLanguage
  split
  case h_8 => rfl
  all_goals
    rename_i name
    rw [name] at listed
    exact absurd listed (none _ (by simp) char stray)

/-- A language that the analysis accepts by default, with the type that it is
accepted as. -/
theorem spells_of_accepted {language : String}
    (accepted : Text.uppercase (Text.uppercase language) ∈ CanonRules.defaultBlockTypes) :
    Text.uppercase language ∈ CanonRules.defaultBlockTypes ∧
      Text.Spells (Text.uppercase language).toList language := by
  have plain := plain_of_default _ accepted
  have once := plain.uppercase_eq rfl
  rw [← String.toList_injective once] at accepted
  exact ⟨accepted, (plain_of_default _ accepted).spells rfl⟩

theorem ofLanguage_of_no_strays {language : String}
    (accepted : Text.uppercase language ∈ CanonRules.defaultBlockTypes)
    (spells : Text.Spells (Text.uppercase language).toList language)
    (noStrays : ∀ char ∈ Text.strays, char ∉ language.toList) :
    (ofLanguage language).name = runtimeName (Text.uppercase language) ∧
      (ofLanguage language = .language ↔ Text.uppercase language = "LANGUAGE") := by
  rcases ofLanguage_default _ accepted with ⟨lower, names, other⟩
  have same : Text.lowercase language = Text.lowercase (Text.uppercase language) := by
    apply String.toList_injective
    rw [spells.lowercase_of_no_strays noStrays, lower]
  rw [ofLanguage_congr same]
  exact ⟨names, other⟩

theorem no_strays_of_language {language : String}
    (spells : Text.Spells "LANGUAGE".toList language) :
    ∀ char ∈ Text.strays, char ∉ language.toList := by
  have none : ∀ capital ∈ "LANGUAGE".toList, ∀ char ∈ Text.strays,
      char ∉ Text.upperMap.sources capital :=
    Text.forall₂_of_all (by decide)
  intro char stray listed
  rcases spells.exists_capital listed with ⟨capital, member, source⟩
  exact none capital member char stray source

/-- The two types of an accepted language agree exactly if it has no strays. -/
theorem name_eq_runtimeName_iff {language : String}
    (accepted : Text.uppercase language ∈ CanonRules.defaultBlockTypes)
    (spells : Text.Spells (Text.uppercase language).toList language) :
    (ofLanguage language).name = runtimeName (Text.uppercase language) ↔
      ∀ char ∈ Text.strays, char ∉ language.toList := by
  constructor
  · intro agree char stray listed
    rw [ofLanguage_of_stray stray (spells.stray_mem_lowercase stray listed)] at agree
    have isLanguage := eq_language_of_runtimeName agree.symm
    rw [isLanguage] at spells
    exact no_strays_of_language spells char stray listed
  · intro noStrays
    exact (ofLanguage_of_no_strays accepted spells noStrays).1

/-- An accepted language in lower case has the type of other languages if it is
`language`, or if it has strays. -/
theorem ofLanguage_eq_language_iff {language : String}
    (accepted : Text.uppercase language ∈ CanonRules.defaultBlockTypes)
    (spells : Text.Spells (Text.uppercase language).toList language)
    (small : ∀ char ∈ language.toList, char ∉ Text.capitals) :
    ofLanguage language = .language ↔
      language = "language" ∨ ∃ char ∈ Text.strays, char ∈ language.toList := by
  constructor
  · intro other
    by_cases noStrays : ∀ char ∈ Text.strays, char ∉ language.toList
    · have isLanguage := (ofLanguage_of_no_strays accepted spells noStrays).2.mp other
      have capital := (plain_of_default _ accepted).capital
      have lower := spells.lowercase_of_no_strays noStrays
      rw [spells.lowercase_eq_self capital small, isLanguage] at lower
      apply Or.inl
      apply String.toList_injective
      exact lower.trans (by decide)
    · push Not at noStrays
      exact Or.inr noStrays
  · rintro (rfl | ⟨char, stray, listed⟩)
    · decide
    · exact ofLanguage_of_stray stray (spells.stray_mem_lowercase stray listed)

end BlockType

namespace Language

theorem not_capital_of_ofTag? {tag language : String} (found : ofTag? tag = some language) :
    ∀ char ∈ language.toList, char ∉ Text.capitals := by
  have fixed : ∀ name ∈ ["python", "javascript"], ∀ char ∈ name.toList, char ∉ Text.capitals :=
    Text.forall₂_of_all (by decide)
  unfold ofTag? at found
  simp only at found
  split at found
  · obtain rfl := Option.some.inj found
    exact fixed _ (by simp)
  · split at found
    · obtain rfl := Option.some.inj found
      exact fixed _ (by simp)
    · split at found
      · rcases Option.map_eq_some_iff.mp found with ⟨word, _, rfl⟩
        intro char listed
        rw [Text.toList_lowercase] at listed
        exact Text.not_capital_of_mem_lowerAfter listed
      · cases found

end Language

theorem Segment.Makes.not_capital {mode : Line.Reconstruction} {source : List Char}
    {segment : Segment} {block : Block} (makes : Makes mode source segment block) :
    ∀ char ∈ block.language.toList, char ∉ Text.capitals := by
  rw [makes.language]
  cases found : Language.ofTag? segment.tag.text with
  | none =>
    have fixed : ∀ char ∈ unknownLanguage.toList, char ∉ Text.capitals :=
      Text.forall_of_all (by decide)
    exact fixed
  | some language => exact Language.not_capital_of_ofTag? found

namespace Compilation

theorem of_compileSource_ok {rules : CanonRules} {mode : Line.Reconstruction} {source : String}
    {schema : Schema} (compiled : compileSource (some rules) mode source = .ok schema) :
    Analysis.violations rules (Tree.parse mode source (Token.tokenize source)).blocks
        (Token.tokenize source) = [] ∧
      schema = Schema.ofTree (Tree.parse mode source (Token.tokenize source)) := by
  rw [compileSource_some] at compiled
  split at compiled
  · rename_i none
    exact ⟨none, (Except.ok.inj compiled).symm⟩
  · cases compiled

/-- In a compiled ritual the name of a block's type is the type that was accepted
exactly if the language has no dotless `ı` and no long `ſ`. -/
theorem block_types_agree_iff {rules : CanonRules}
    (defaults : rules.blockTypes = NameSet.ofList CanonRules.defaultBlockTypes)
    {mode : Line.Reconstruction} {source : String} {schema : Schema}
    (compiled : compileSource (some rules) mode source = .ok schema) {index : Nat}
    {written : SchemaBlock} (found : schema.blocks[index]? = some written) :
    ∃ block, (Tree.parse mode source (Token.tokenize source)).blocks[index]? = some block ∧
      (written.type.name = BlockType.runtimeName (Analysis.blockTypeOf block.kind) ↔
        'ı' ∉ block.language.toList ∧ 'ſ' ∉ block.language.toList) ∧
      (written.type = .language ↔ block.language = "language" ∨
        'ı' ∈ block.language.toList ∨ 'ſ' ∈ block.language.toList) := by
  rcases of_compileSource_ok compiled with ⟨none, rfl⟩
  rw [Schema.ofTree, Schema.numbered_getElem?] at found
  rcases Option.map_eq_some_iff.mp found with ⟨block, parsed, rfl⟩
  refine ⟨block, parsed, ?_⟩
  rcases exists_related (Tree.blocks_parse mode source) parsed with ⟨made, _, makes⟩
  have blockType : Analysis.blockTypeOf block.kind = Text.uppercase block.language := by
    rw [Analysis.blockTypeOf, makes.kind, Analysis.withoutBlockEnding_append]
  have checked : Analysis.checkBlock rules block = Option.none :=
    List.filterMap_eq_nil_iff.mp (List.append_eq_nil_iff.mp none).2 block
      (List.mem_of_getElem? parsed)
  have passes := Analysis.accepts_of_checkBlock checked
  rw [blockType] at passes
  -- the rules put the accepted type into upper case once more
  have accepted : Text.uppercase (Text.uppercase block.language) ∈
      CanonRules.defaultBlockTypes := by
    rw [CanonRules.acceptsBlockType, decide_eq_true_iff, defaults, NameSet.mem_ofList] at passes
    exact passes
  rcases BlockType.spells_of_accepted accepted with ⟨listed, spells⟩
  have agree := BlockType.name_eq_runtimeName_iff listed spells
  have other := BlockType.ofLanguage_eq_language_iff listed spells makes.not_capital
  simp only [Text.strays, List.mem_cons, List.not_mem_nil, or_false, forall_eq_or_imp, forall_eq,
    exists_eq_or_imp, exists_eq_left] at agree other
  rw [blockType]
  exact ⟨agree, other⟩

/-- A block in the language `natıve` compiles, and its type is not the accepted one. -/
theorem block_types_agree_iff_dotless :
    compileSource (some CanonRules.empty) .source "LANGUAGE[lang=\"natıve\"]\nx" =
        .ok ⟨"1.0", [⟨0, .language, "x", []⟩]⟩ ∧
      ∃ block, (Tree.parse .source "LANGUAGE[lang=\"natıve\"]\nx"
          (Token.tokenize "LANGUAGE[lang=\"natıve\"]\nx")).blocks[0]? = some block ∧
        (BlockType.language.name = BlockType.runtimeName (Analysis.blockTypeOf block.kind) ↔
          'ı' ∉ block.language.toList ∧ 'ſ' ∉ block.language.toList) ∧
        (BlockType.language = .language ↔ block.language = "language" ∨
          'ı' ∈ block.language.toList ∨ 'ſ' ∈ block.language.toList) := by
  have compiled : compileSource (some CanonRules.empty) .source
      "LANGUAGE[lang=\"natıve\"]\nx" = .ok ⟨"1.0", [⟨0, .language, "x", []⟩]⟩ := by
    decide +kernel
  have written : ([⟨0, .language, "x", []⟩] : List SchemaBlock)[0]? =
      some ⟨0, .language, "x", []⟩ := rfl
  exact ⟨compiled, block_types_agree_iff rfl compiled written⟩

/-- The types of a block do not always agree: `natıve` is accepted as `NATIVE`, and
written as `LANGUAGE`. -/
theorem block_types_differ :
    compileSource (some CanonRules.empty) .source "LANGUAGE[lang=\"natıve\"]\nx" =
        .ok ⟨"1.0", [⟨0, .language, "x", []⟩]⟩ ∧
      (Tree.parse .source "LANGUAGE[lang=\"natıve\"]\nx"
          (Token.tokenize "LANGUAGE[lang=\"natıve\"]\nx")).blocks.map Block.kind =
        ["natıve_block"] ∧
      Analysis.blockTypeOf "natıve_block" = "NATIVE" ∧
      BlockType.language.name ≠ BlockType.runtimeName "NATIVE" := by
  decide +kernel

end Compilation
end Ritual
