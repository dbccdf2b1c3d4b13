import Ritual.Proofs.Collections
import Ritual.Proofs.Token.Coverage
import Ritual.Proofs.Token.Located

namespace Ritual

/-!
# Blanks between tokens

A space, a tab and a carriage return part tokens equally well, with one exception: the
selector of a web tag is ended by a space alone, and takes any other blank that is put in
the place of that space.  Otherwise no token tells one blank from another, so the kinds and
the texts of a source do not depend on which blanks stand between its tokens.
-/

namespace Lexeme

/-- A property that none of the three blanks has. -/
theorem outside_of_isBlank {property : Char → Bool} {char : Char}
    (noBlank : [' ', '\t', '\r'].all (fun blank => !property blank) = true)
    (blank : isBlank char = true) : property char = false := by
  cases has : property char with
  | false => rfl
  | true =>
    rw [visible_of_property noBlank has] at blank
    cases blank

theorem ne_of_isBlank {char mark : Char} (visible : isBlank mark = false)
    (blank : isBlank char = true) : char ≠ mark := by
  rintro rfl
  rw [visible] at blank
  cases blank

variable {lexeme : Lexeme} {blank other : Char} {rest : List Char}

theorem head?_blank_ne {mark : Char} (visible : isBlank mark = false)
    (isBlank : isBlank other = true) : (other :: rest).head? ≠ some mark :=
  fun same => ne_of_isBlank visible isBlank (Option.some.inj same)

/-- Every property that a blank can end is ended by the others, if it is one that no blank
has. -/
theorem stops_blank {property : Char → Bool}
    (noBlank : [' ', '\t', '\r'].all (fun blank => !property blank) = true)
    (isBlank : isBlank other = true) : Stops property (other :: rest) :=
  stops_cons.mpr (outside_of_isBlank noBlank isBlank)

/-- A blank does not make a tag of the word before it. -/
theorem not_marker_blank (tag : TagWord) (otherIs : isBlank other = true) :
    ¬tag.marker <+: other :: rest := by
  rintro ⟨tail, marked⟩
  have visible : ∀ mark ∈ tag.marker.head?, isBlank mark = false := by
    cases tag <;> simp [TagWord.marker] <;> decide
  have same : tag.marker.head? = some other := by
    cases tag <;> exact congrArg some (List.cons.inj marked).1
  exact ne_of_isBlank (visible other same) otherIs rfl

/-- What is read to the end of its line has no blank behind it. -/
theorem not_stops_lineFeed (isBlank : isBlank blank = true) :
    ¬Stops (· != '\n') (blank :: rest) := by
  intro stops
  have lineFeed : blank = '\n' := by simpa using stops_cons.mp stops
  exact ne_of_isBlank (by decide) isBlank lineFeed

/-- Only a web tag tells the blank behind it from other blanks. -/
theorem Stands.replace_blank (stands : Stands lexeme (blank :: rest))
    (blankIs : isBlank blank = true) (otherIs : isBlank other = true)
    (noWeb : lexeme.kind ≠ .webParam) : Stands lexeme (other :: rest) := by
  cases stands with
  | newline => exact .newline
  | outputBinding => exact .outputBinding
  | dataBlockStart => exact .dataBlockStart
  | dataBlockEnd => exact .dataBlockEnd
  | tripleQuote => exact .tripleQuote
  | schoolInvocation schoolNamed operationNamed _ =>
    exact .schoolInvocation schoolNamed operationNamed (stops_blank (by decide) otherIs)
  | loneSchool schoolNamed _ _ =>
    exact .loneSchool schoolNamed (stops_blank (by decide) otherIs)
      (head?_blank_ne (by decide) otherIs)
  | closedString quoted body _ =>
    exact .closedString quoted body fun _ _ => head?_blank_ne (by decide) otherIs
  | comment _ stops => exact absurd stops (not_stops_lineFeed blankIs)
  | wholeNumber nonempty numeric _ _ =>
    exact .wholeNumber nonempty numeric (stops_blank (by decide) otherIs)
      (head?_blank_ne (by decide) otherIs)
  | pointNumber nonempty numeric fractionNumeric _ =>
    exact .pointNumber nonempty numeric fractionNumeric (stops_blank (by decide) otherIs)
  | closedLanguage isWord tag inside => exact .closedLanguage isWord tag inside
  | openLanguage _ _ _ stops => exact absurd stops (not_stops_lineFeed blankIs)
  | web _ _ _ _ => exact absurd rfl noWeb
  | quantum _ _ _ stops => exact absurd stops (not_stops_lineFeed blankIs)
  | code isWord tag => exact .code isWord tag
  | identifier isWord _ _ =>
    exact .identifier isWord (stops_blank (by decide) otherIs) fun tag _ =>
      not_marker_blank tag otherIs
  | unknown visible noSign noNumber noWord _ _ _ =>
    exact .unknown visible noSign noNumber noWord (fun _ => head?_blank_ne (by decide) otherIs)
      (fun _ => head?_blank_ne (by decide) otherIs) (fun _ => head?_blank_ne (by decide) otherIs)

/-- Behind some other character, one blank may take another's place. -/
theorem continues_blank {run : List Char} (nonempty : run ≠ []) (otherIs : isBlank other = true) :
    Continues (run ++ blank :: rest) (run ++ other :: rest) := by
  rcases List.exists_cons_of_ne_nil nonempty with ⟨first, more, rfl⟩
  constructor
  case head => exact fun _ found => Or.inr found
  case colons =>
    rintro ⟨tail, marked⟩
    rcases List.cons.inj marked with ⟨rfl, behind⟩
    cases more with
    | nil => exact absurd (List.cons.inj behind).1.symm (ne_of_isBlank (by decide) otherIs)
    | cons second others =>
      rcases List.cons.inj behind with ⟨rfl, _⟩
      exact ⟨others ++ blank :: rest, rfl⟩

/-- The one blank that ends the selector of a web tag is the space. -/
theorem Stands.space_of_web (stands : Stands lexeme (blank :: rest))
    (blankIs : isBlank blank = true) (web : lexeme.kind = .webParam) : blank = ' ' := by
  cases stands with
  | web _ _ _ stops =>
    rcases Source.isBlank_iff_isGap.mp blankIs with rfl | rfl | rfl
    · rfl
    · cases stops_cons.mp stops
    · cases stops_cons.mp stops
  | comment _ _ => exact absurd web (commentKind_ne rfl _)
  | _ => cases web

/-- In front of another blank the selector of a web tag goes on, and takes it. -/
theorem Stands.web_takes_blank (stands : Stands lexeme (blank :: rest))
    (web : lexeme.kind = .webParam) (otherIs : isBlank other = true) (noSpace : other ≠ ' ') :
    ∃ more after, rest = more ++ after ∧
      Stands (verbatim .webParam (lexeme.raw ++ other :: more)) after := by
  cases stands with
  | @web word selector _ isWord tag selects _ =>
    rcases exists_run isSelectorChar rest with ⟨more, after, rfl, run, ends⟩
    have taken : isSelectorChar other = true := by
      rcases Source.isBlank_iff_isGap.mp otherIs with rfl | rfl | rfl
      · exact absurd rfl noSpace
      · rfl
      · rfl
    have longer : ∀ char ∈ selector ++ other :: more, isSelectorChar char = true := by
      intro char listed
      rcases List.mem_append.mp listed with old | new
      · exact selects char old
      · rcases List.mem_cons.mp new with rfl | later
        · exact taken
        · exact run char later
    refine ⟨more, after, rfl, ?_⟩
    rw [verbatim_raw, List.append_assoc, List.cons_append, List.cons_append]
    exact .web isWord tag longer ends
  | comment _ _ => exact absurd web (commentKind_ne rfl _)
  | _ => cases web

end Lexeme

namespace Tile

variable {blank other : Char} {tiles : List Tile} {left right front after : List Char}

/-! ## Tiles in front of a blank -/

theorem spelling_ne_nil {tile : Tile} {rest : List Tile} (tiling : Tiling (tile :: rest) after) :
    spelling (tile :: rest) ≠ [] := by
  have nonempty := tiling.2.1.raw_ne_nil
  simp [nonempty]

/-- Tiles stay where they are in front of another blank, unless a web tag ends at it. -/
theorem tiling_replace_blank (tiling : Tiling tiles (front ++ blank :: right))
    (blankIs : Lexeme.isBlank blank = true) (otherIs : Lexeme.isBlank other = true)
    (noWeb : front = [] → ∀ last ∈ tiles.getLast?, last.lexeme.kind ≠ .webParam) :
    Tiling tiles (front ++ other :: right) := by
  induction tiles with
  | nil => trivial
  | cons tile rest inductionHypothesis =>
    rcases tiling with ⟨gapBlank, stands, later⟩
    cases rest with
    | cons next others =>
      have between : spelling (next :: others) ++ front ≠ [] := by
        simp only [ne_eq, List.append_eq_nil_iff, spelling_ne_nil later, false_and,
          not_false_eq_true]
      have continues : Lexeme.Continues (spelling (next :: others) ++ front ++ blank :: right)
          (spelling (next :: others) ++ front ++ other :: right) :=
        Lexeme.continues_blank between otherIs
      rw [List.append_assoc, List.append_assoc] at continues
      refine ⟨gapBlank, stands.replace_of continues ?_, inductionHypothesis later noWeb⟩
      simp
    | nil =>
      refine ⟨gapBlank, ?_, trivial⟩
      by_cases touching : front = []
      · subst touching
        exact stands.replace_blank blankIs otherIs (noWeb rfl tile rfl)
      · exact stands.replace_of (Lexeme.continues_blank touching otherIs) (by simp)

/-- A blank that belongs to no token stands behind whole tiles and blanks. -/
theorem exists_before_blank (base : List Char) (tiling : Tiling tiles after)
    (blankAfter : Blank after) (parts : spelling tiles ++ after = left ++ blank :: right)
    (uncovered : ∀ token ∈ tokens (Source.Position.start.after base) tiles,
      ¬token.span.Has (Source.byteLength (base ++ left))) :
    ∃ before behind front, tiles = before ++ behind ∧ left = spelling before ++ front ∧
      Blank front ∧ Tiling before (front ++ blank :: right) := by
  induction tiles generalizing base left with
  | nil =>
    rw [spelling_nil, List.nil_append] at parts
    refine ⟨[], [], left, rfl, rfl, ?_, trivial⟩
    exact fun char listed => blankAfter char (parts ▸ List.mem_append_left _ listed)
  | cons tile rest inductionHypothesis =>
    rcases tiling with ⟨gapBlank, stands, later⟩
    rw [spelling_cons, List.append_assoc, List.append_assoc] at parts
    rw [tokens_cons, ← Source.Position.after_append, ← Source.Position.after_append] at uncovered
    rcases List.forall_mem_cons.mp uncovered with ⟨here, uncoveredLater⟩
    rcases append_eq_append_cons parts.symm with
      ⟨behindGap, rfl, behind⟩ | ⟨more, inGap, _⟩
    · rcases append_eq_append_cons behind.symm with
        ⟨behindTile, rfl, following⟩ | ⟨more, raw, _⟩
      · have moved : base ++ (tile.gap ++ (tile.lexeme.raw ++ behindTile)) =
            base ++ tile.gap ++ tile.lexeme.raw ++ behindTile := by simp
        rw [moved] at uncoveredLater
        rcases inductionHypothesis _ later following uncoveredLater with
          ⟨before, others, front, rfl, rfl, frontBlank, tilingBefore⟩
        refine ⟨tile :: before, others, front, rfl, by simp, frontBlank, gapBlank, ?_,
          tilingBefore⟩
        rw [following, List.append_assoc] at stands
        exact stands
      · -- the token of the tile covers the blank
        refine absurd ?_ here
        have size := Char.utf8Size_pos blank
        rw [span_ofLexeme, raw]
        simp only [Source.Span.Has, Source.byteLength_append, Source.byteLength]
        omega
    · refine ⟨[], tile :: rest, left, rfl, rfl, ?_, trivial⟩
      exact fun char listed => gapBlank char (inGap ▸ List.mem_append_left _ listed)

end Tile

namespace Token

/-! ## Kinds and texts -/

/-- The kinds and the texts of characters do not depend on where they stand. -/
theorem map_content_streamFrom (first second : Source.Position) (chars : List Char) :
    (streamFrom first chars).map content = (streamFrom second chars).map content := by
  rcases Tile.exists_reading chars with ⟨reading⟩
  rw [reading.streamFrom_eq, reading.streamFrom_eq, List.map_append, List.map_append,
    Tile.map_content_tokens, Tile.map_content_tokens]
  rfl

/-- The kinds and the texts of tiles, blanks, and the characters behind them. -/
theorem map_content_tiling (position : Source.Position) {tiles : List Tile}
    {gap rest : List Char} (tiling : Tile.Tiling tiles (gap ++ rest)) (blank : Tile.Blank gap) :
    (streamFrom position (Tile.spelling tiles ++ (gap ++ rest))).map content =
      tiles.map (fun tile => tile.lexeme.content) ++ (streamFrom position rest).map content := by
  rw [streamFrom_tiling _ tiling, List.map_append, Tile.map_content_tokens,
    streamFrom_gap _ blank, map_content_streamFrom _ position]

/-- Whether no token of a source covers the byte at an offset. -/
def Uncovered (source : String) (offset : Nat) : Prop :=
  ∀ token ∈ tokenize source, ¬token.span.Has offset

/-- Whether a web tag of a source ends at an offset. -/
def WebTagEnds (source : String) (offset : Nat) : Prop :=
  ∃ token ∈ tokenize source, token.kind = .webParam ∧ token.span.stop = offset

instance (source : String) (offset : Nat) : Decidable (Uncovered source offset) :=
  inferInstanceAs (Decidable (∀ token ∈ tokenize source, _))

instance (source : String) (offset : Nat) : Decidable (WebTagEnds source offset) :=
  inferInstanceAs (Decidable (∃ token ∈ tokenize source, _))

variable {source : String} {left right : List Char} {blank other : Char}

/-- Where no web tag ends, a blank may be another one. -/
theorem content_of_other_blank (spelled : source.toList = left ++ blank :: right)
    (blankIs : Lexeme.isBlank blank = true) (otherIs : Lexeme.isBlank other = true)
    (uncovered : Uncovered source (Source.byteLength left))
    (noWeb : ¬WebTagEnds source (Source.byteLength left)) :
    (tokenize (String.ofList (left ++ other :: right))).map content =
      (tokenize source).map content := by
  rcases Tile.exists_reading source.toList with ⟨reading⟩
  have inTiles : ∀ token ∈ Tile.tokens Source.Position.start reading.tiles,
      ¬token.span.Has (Source.byteLength left) := by
    intro token listed
    exact uncovered token ((mem_tokenize reading).mpr (Or.inl listed))
  rcases Tile.exists_before_blank [] reading.tiling reading.blank
    (reading.spelled.symm.trans spelled) inTiles with
    ⟨before, behind, front, split, rfl, frontBlank, tiling⟩
  have noTag : front = [] → ∀ last ∈ before.getLast?, last.lexeme.kind ≠ .webParam := by
    rintro rfl last isLast web
    rcases List.getLast?_eq_some_iff.mp isLast with ⟨others, rfl⟩
    rw [List.append_assoc, List.singleton_append] at split
    refine noWeb ⟨_, ofLexeme_mem_tokenize reading split, web, ?_⟩
    rw [Tile.span_ofLexeme, ← Source.byteLength_append]
    simp
  have tilingOther := Tile.tiling_replace_blank tiling blankIs otherIs noTag
  have gapOf : ∀ {char : Char}, Lexeme.isBlank char = true → Tile.Blank (front ++ [char]) := by
    intro char isBlank other listed
    rcases List.mem_append.mp listed with old | new
    · exact frontBlank other old
    · rw [List.mem_singleton.mp new, isBlank]
  have parted : ∀ char, front ++ char :: right = front ++ [char] ++ right := by simp
  rw [parted] at tiling tilingOther
  rw [tokenize, tokenize, spelled, String.toList_ofList, List.append_assoc, List.append_assoc,
    parted, parted, map_content_tiling _ tilingOther (gapOf otherIs),
    map_content_tiling _ tiling (gapOf blankIs)]

/-- A web tag in front of a blank, with what stands before it. -/
theorem exists_web_tile (spelled : source.toList = left ++ blank :: right)
    (web : WebTagEnds source (Source.byteLength left)) :
    ∃ before tile, left = Tile.spelling (before ++ [tile]) ∧ tile.lexeme.kind = .webParam ∧
      Tile.Tiling (before ++ [tile]) (blank :: right) := by
  rcases web with ⟨token, listed, kind, stop⟩
  rcases Tile.exists_reading source.toList with ⟨reading⟩
  have endless : token.kind ≠ .eof := by
    rw [kind]
    exact TokenKind.noConfusion
  rcases exists_tile_of_tokenize reading listed endless with ⟨before, tile, after, split, rfl⟩
  have tiling := reading.tiling
  have whole := reading.spelled
  rw [← List.singleton_append, ← List.append_assoc] at split
  rw [split] at tiling whole
  rw [Tile.spelling_append, List.append_assoc] at whole
  rw [Tile.span_ofLexeme, ← Source.byteLength_append] at stop
  have front : Tile.spelling before ++ tile.gap ++ tile.lexeme.raw =
      Tile.spelling (before ++ [tile]) := by simp
  rw [front] at stop
  rcases Source.append_inj_of_byteLength (spelled.symm.trans whole) stop.symm with
    ⟨same, behind⟩
  refine ⟨before, tile, same, kind, ?_⟩
  rw [behind]
  exact (Tile.tiling_append.mp tiling).1

/-- A web tag takes another blank than the space that ends it. -/
theorem content_ne_of_web (spelled : source.toList = left ++ ' ' :: right)
    (otherIs : Lexeme.isBlank other = true) (noSpace : other ≠ ' ')
    (web : WebTagEnds source (Source.byteLength left)) :
    (tokenize (String.ofList (left ++ other :: right))).map content ≠
      (tokenize source).map content := by
  rcases exists_web_tile spelled web with ⟨before, tile, rfl, kind, tiling⟩
  rcases Tile.tiling_append.mp tiling with ⟨tilingBefore, gapBlank, stands, _⟩
  rw [Tile.spelling_nil, List.nil_append] at stands
  rcases stands.web_takes_blank kind otherIs noSpace with ⟨more, after, rfl, longer⟩
  have nonempty : Tile.spelling [tile] ≠ [] := by simp [stands.raw_ne_nil]
  have tilingOther := Tile.tiling_replace_blank tilingBefore rfl otherIs
    fun empty => absurd empty nonempty
  have parted : ∀ char, Tile.spelling [tile] ++ char :: (more ++ after) =
      tile.gap ++ (tile.lexeme.raw ++ char :: (more ++ after)) := by simp
  have taken : tile.lexeme.raw ++ other :: (more ++ after) =
      (Lexeme.verbatim .webParam (tile.lexeme.raw ++ other :: more)).raw ++ after := by simp
  rw [parted] at tilingBefore tilingOther
  rw [taken] at tilingOther
  rw [tokenize, tokenize, spelled, String.toList_ofList, Tile.spelling_append, List.append_assoc,
    List.append_assoc, parted, parted, taken, map_content_tiling _ tilingOther gapBlank,
    map_content_tiling _ tilingBefore gapBlank, streamFrom_stands _ longer,
    streamFrom_stands _ stands]
  intro same
  -- the first tokens that differ are the two tags
  have texts := congrArg Prod.snd (List.cons.inj (List.append_cancel_left same)).1
  have noString : tile.lexeme.kind ≠ .string := by simp [kind]
  have lengths := congrArg String.toList texts
  simp [content, ofLexeme, stands.text_eq_raw noString] at lengths

/-- One blank between tokens is as good as another, except for the space that ends the
selector of a web tag, which no other blank ends. -/
theorem blanks_interchangeable {source : String} {left right : List Char} {blank other : Char}
    (spelled : source.toList = left ++ blank :: right) (blankIs : Source.IsGap blank)
    (otherIs : Source.IsGap other) (uncovered : Uncovered source (Source.byteLength left)) :
    (WebTagEnds source (Source.byteLength left) → blank = ' ') ∧
      ((tokenize (String.ofList (left ++ other :: right))).map content =
          (tokenize source).map content ↔
        (WebTagEnds source (Source.byteLength left) → other = ' ')) := by
  rw [← Source.isBlank_iff_isGap] at blankIs otherIs
  have space : WebTagEnds source (Source.byteLength left) → blank = ' ' := by
    intro web
    rcases exists_web_tile spelled web with ⟨before, tile, _, kind, tiling⟩
    exact (Tile.tiling_append.mp tiling).2.2.1.space_of_web blankIs kind
  refine ⟨space, ?_⟩
  by_cases web : WebTagEnds source (Source.byteLength left)
  · obtain rfl := space web
    constructor
    · intro same _
      by_contra noSpace
      exact content_ne_of_web spelled otherIs noSpace web same
    · intro isSpace
      rw [isSpace web, ← spelled, String.ofList_toList]
  · exact iff_of_true (content_of_other_blank spelled blankIs otherIs uncovered web)
      fun ends => absurd ends web

/-- A tab for a space that no web tag ends at, and a tab for one that ends a web tag. -/
theorem blanks_interchangeable_tab :
    Uncovered "WEB::a  b" 6 ∧ Uncovered "WEB::a  b" 7 ∧
      (tokenize (String.ofList ("WEB::a ".toList ++ '\t' :: ['b']))).map content =
        (tokenize "WEB::a  b").map content ∧
      (tokenize (String.ofList ("WEB::a".toList ++ '\t' :: [' ', 'b']))).map content ≠
        (tokenize "WEB::a  b").map content := by
  have first : Uncovered "WEB::a  b" 6 := by decide +kernel
  have second : Uncovered "WEB::a  b" 7 := by decide +kernel
  have noWeb : ¬WebTagEnds "WEB::a  b" 7 := by decide +kernel
  have web : WebTagEnds "WEB::a  b" 6 := by decide +kernel
  have space : Source.IsGap ' ' := Or.inl rfl
  have tab : Source.IsGap '\t' := Or.inr (Or.inl rfl)
  have apart : "WEB::a  b".toList = "WEB::a ".toList ++ ' ' :: ['b'] := rfl
  have ending : "WEB::a  b".toList = "WEB::a".toList ++ ' ' :: [' ', 'b'] := rfl
  refine ⟨first, second, ?_, ?_⟩
  · exact (blanks_interchangeable apart space tab second).2.mpr fun ends => absurd ends noWeb
  · intro same
    have isSpace := (blanks_interchangeable ending space tab first).2.mp same web
    exact absurd isSpace (by decide)

/-- A tab does not end a web tag as a space does. -/
theorem web_tag_takes_tab :
    ¬ ∀ (source : String) (left right : List Char) (blank other : Char),
      source.toList = left ++ blank :: right → Source.IsGap blank → Source.IsGap other →
      Uncovered source (Source.byteLength left) →
      (tokenize (String.ofList (left ++ other :: right))).map content =
        (tokenize source).map content := by
  intro same
  have uncovered : Uncovered "WEB::a b" 6 := by decide +kernel
  have equal := same "WEB::a b" "WEB::a".toList ['b'] ' ' '\t' rfl (Or.inl rfl)
    (Or.inr (Or.inl rfl)) uncovered
  revert equal
  decide +kernel

end Token
end Ritual
