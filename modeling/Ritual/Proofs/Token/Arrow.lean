import Ritual.Proofs.Collections
import Ritual.Proofs.Lexeme.Forms
import Ritual.Proofs.Token.Coverage

namespace Ritual

/-!
# Output arrows

An arrow is a token of its own wherever it is not part of a literal, a comment or a tag,
with one exception: a name may go on with a hyphen, so a name that stands directly in front
of an arrow takes the hyphen as its last character and leaves the other character alone.
A space in front of the arrow keeps it whole.
-/

namespace Lexeme

/-- Whether lexemes of the kind may hold an arrow: literals, comments and tags. -/
def HoldsArrow (kind : TokenKind) : Prop :=
  kind = .string ∨ kind.isComment = true ∨ kind.opensBlock = true

instance (kind : TokenKind) : Decidable (HoldsArrow kind) :=
  inferInstanceAs (Decidable (_ ∨ _ ∨ _))

/-- Whether a text of the kind is a name or ends in one: a word, an invocation or a school
behind two colons. -/
def EndsInName (kind : TokenKind) (text : List Char) : Prop :=
  kind = .identifier ∨ kind = .schoolInvocation ∨ kind = .unknown ∧ [':', ':'] <+: text

theorem EndsInName.kind_ne {kind other : TokenKind} {text : List Char}
    (named : EndsInName kind text)
    (outside : other ∉ [TokenKind.identifier, .schoolInvocation, .unknown]) : kind ≠ other := by
  rintro rfl
  rcases named with rfl | rfl | ⟨rfl, _⟩
  all_goals simp at outside

variable {lexeme : Lexeme} {after inner more rest : List Char}

/-! ## The lexeme that holds the hyphen -/

/-- A run that the next character would continue does not end in front of it. -/
theorem ne_nil_of_stops {property : Char → Bool} {next : Char} (continues : property next = true)
    (stops : Stops property after) (behind : more ++ after = next :: rest) : more ≠ [] := by
  rintro rfl
  rw [List.nil_append] at behind
  rw [behind, stops_cons, continues] at stops
  cases stops

/-- What ends in another character does not end in a hyphen. -/
theorem ne_nil_of_last (front : List Char) {last : Char} (different : last ≠ '-')
    (parts : front ++ [last] = inner ++ '-' :: more) : more ≠ [] := by
  rintro rfl
  rcases List.append_inj' parts rfl with ⟨_, same⟩
  exact different (List.cons.inj same).1

/-- A lexeme that holds the hyphen of an arrow is the arrow, or ends in a name that takes the
hyphen, or holds the whole arrow. -/
theorem Stands.of_hyphen (stands : Stands lexeme after)
    (parts : lexeme.raw = inner ++ '-' :: more) (behind : more ++ after = '>' :: rest) :
    (lexeme = verbatim .outputBinding ['-', '>'] ∧ inner = []) ∨
      (EndsInName lexeme.kind lexeme.raw ∧ more = []) ∨
      (HoldsArrow lexeme.kind ∧ more ≠ []) := by
  have inRaw : '-' ∈ lexeme.raw := by simp [parts]
  -- a lexeme that lacks the second character of the arrow ends in front of it
  have ends : '>' ∉ lexeme.raw → more = [] := by
    intro absent
    cases more with
    | nil => rfl
    | cons char others =>
      rw [(List.cons.inj behind).1] at parts
      exact absurd (by simp [parts]) absent
  have noName : isNameChar '>' = false := by decide
  have noDigit : Text.isNumeric '-' = false := by decide
  have tag : ∀ {kind : TokenKind}, kind.opensBlock = true → HoldsArrow kind :=
    fun opens => Or.inr (Or.inr opens)
  cases stands with
  | newline => simp at inRaw
  | outputBinding =>
    refine Or.inl ⟨rfl, ?_⟩
    cases inner with
    | nil => rfl
    | cons char others =>
      have later : '-' ∈ ['>'] := by
        rw [(List.cons.inj parts).2]
        simp
      simp at later
  | dataBlockStart => simp at inRaw
  | dataBlockEnd => simp at inRaw
  | tripleQuote => simp at inRaw
  | schoolInvocation schoolNamed operationNamed _ =>
    refine Or.inr (Or.inl ⟨Or.inr (Or.inl rfl), ends ?_⟩)
    simpa using And.intro (not_mem_of_outside noName schoolNamed)
      (not_mem_of_outside noName operationNamed)
  | loneSchool schoolNamed _ _ =>
    refine Or.inr (Or.inl ⟨Or.inr (Or.inr ⟨rfl, ⟨_, rfl⟩⟩), ends ?_⟩)
    simpa using not_mem_of_outside noName schoolNamed
  | @closedString quote body _ _ quoted _ _ =>
    have closing : quote ≠ '-' := by rcases quoted with rfl | rfl <;> decide
    exact Or.inr (Or.inr ⟨Or.inl rfl, ne_nil_of_last (quote :: body) closing parts⟩)
  | openString _ _ =>
    refine Or.inr (Or.inr ⟨Or.inl rfl, ?_⟩)
    rintro rfl
    cases behind
  | brokenString _ _ =>
    refine Or.inr (Or.inr ⟨Or.inl rfl, ?_⟩)
    rintro rfl
    cases behind
  | comment _ stops =>
    exact Or.inr (Or.inr ⟨Or.inr (Or.inl (commentKind_isComment _)),
      ne_nil_of_stops (by decide) stops behind⟩)
  | wholeNumber _ numeric _ _ => exact absurd inRaw (not_mem_of_outside noDigit numeric)
  | pointNumber _ numeric fractionNumeric _ =>
    refine absurd inRaw ?_
    simpa using And.intro (not_mem_of_outside noDigit numeric)
      (not_mem_of_outside noDigit fractionNumeric)
  | @closedLanguage word attributes _ _ _ _ =>
    have closed : word ++ '[' :: attributes ++ [']'] = inner ++ '-' :: more := by
      simpa using parts
    exact Or.inr (Or.inr ⟨tag rfl, ne_nil_of_last _ (by decide) closed⟩)
  | openLanguage _ _ _ stops =>
    exact Or.inr (Or.inr ⟨tag rfl, ne_nil_of_stops (by decide) stops behind⟩)
  | web _ _ _ stops =>
    exact Or.inr (Or.inr ⟨tag rfl, ne_nil_of_stops (by decide) stops behind⟩)
  | quantum _ _ _ stops =>
    exact Or.inr (Or.inr ⟨tag rfl, ne_nil_of_stops (by decide) stops behind⟩)
  | @code word _ _ _ =>
    have marked : word ++ [':'] ++ [':'] = inner ++ '-' :: more := by
      simpa using parts
    exact Or.inr (Or.inr ⟨tag rfl, ne_nil_of_last _ (by decide) marked⟩)
  | identifier isWord _ _ =>
    exact Or.inr (Or.inl ⟨Or.inl rfl, ends (not_mem_of_outside noName isWord.named)⟩)
  | unknown _ _ _ _ _ noArrow _ =>
    rcases List.append_eq_singleton_iff.mp parts.symm with ⟨_, single⟩ | ⟨_, impossible⟩
    · rcases List.cons.inj single with ⟨rfl, rfl⟩
      rw [List.nil_append] at behind
      rw [behind] at noArrow
      exact absurd rfl (noArrow rfl)
    · cases impossible

/-- The second character of an arrow is a lexeme of its own. -/
theorem stands_greater (after : List Char) : Stands (verbatim .unknown ['>']) after :=
  .unknown (by decide) (by decide) (by decide) (by decide) (by simp) (by simp) (by simp)

end Lexeme

namespace Tile

/-! ## The token that holds the hyphen -/

/-- A character that is no blank belongs to the lexeme of a tile. -/
theorem exists_tile_at {tiles : List Tile} {gap before after : List Char} {char : Char}
    (tiling : Tiling tiles gap) (gapBlank : Blank gap) (visible : Lexeme.isBlank char = false)
    (spelled : spelling tiles ++ gap = before ++ char :: after) :
    ∃ left tile right inner more, tiles = left ++ tile :: right ∧
      before = spelling left ++ tile.gap ++ inner ∧
      tile.lexeme.raw = inner ++ char :: more ∧
      more ++ (spelling right ++ gap) = after := by
  induction tiles generalizing before with
  | nil =>
    rw [spelling_nil, List.nil_append] at spelled
    rw [gapBlank char (by simp [spelled])] at visible
    cases visible
  | cons tile rest inductionHypothesis =>
    rcases tiling with ⟨blank, _, later⟩
    rw [spelling_cons, List.append_assoc, List.append_assoc] at spelled
    rcases append_eq_append_cons spelled.symm with
      ⟨behindGap, rfl, behind⟩ | ⟨more, inGap, _⟩
    · rcases append_eq_append_cons behind.symm with
        ⟨behindTile, rfl, following⟩ | ⟨more, raw, same⟩
      · rcases inductionHypothesis later following with
          ⟨left, found, right, inner, more, rfl, rfl, raw, same⟩
        exact ⟨tile :: left, found, right, inner, more, rfl, by simp, raw, same⟩
      · exact ⟨[], tile, rest, behindGap, more, rfl, rfl, raw, same.symm⟩
    · rw [blank char (by simp [inGap])] at visible
      cases visible

/-- Tiles that begin with the second character of an arrow begin with that lexeme. -/
theorem exists_greater {tiles : List Tile} {gap after : List Char} (tiling : Tiling tiles gap)
    (gapBlank : Blank gap) (spelled : spelling tiles ++ gap = '>' :: after) :
    ∃ others, tiles = ⟨[], Lexeme.verbatim .unknown ['>']⟩ :: others := by
  have noBlank : Lexeme.isBlank '>' = false := by decide
  cases tiles with
  | nil =>
    rw [spelling_nil, List.nil_append] at spelled
    rw [gapBlank '>' (by simp [spelled])] at noBlank
    cases noBlank
  | cons tile others =>
    rcases tile with ⟨front, lexeme⟩
    rcases tiling with ⟨blank, tileStands, _⟩
    rw [spelling_cons, List.append_assoc, List.append_assoc] at spelled
    cases front with
    | nil =>
      obtain rfl := tileStands.unique (Lexeme.stands_greater after) spelled
      exact ⟨others, rfl⟩
    | cons char rest =>
      rw [(List.cons.inj spelled).1] at blank
      rw [blank '>' List.mem_cons_self] at noBlank
      cases noBlank

end Tile

namespace Token

variable {source : String} {before after : List Char}

/-- Two tokens of a source that cover one byte are the same. -/
theorem eq_of_has {first second : Token} (firstListed : first ∈ tokenize source)
    (secondListed : second ∈ tokenize source) {offset : Nat} (firstHas : first.span.Has offset)
    (secondHas : second.span.Has offset) : first = second := by
  rcases List.append_of_mem firstListed with ⟨left, right, parts⟩
  have ordered := spans_of_tokenize_ordered source
  rw [parts] at ordered secondListed
  rcases List.pairwise_append.mp ordered with ⟨_, later, across⟩
  rcases List.mem_append.mp secondListed with inLeft | inRest
  · have before := across second inLeft first List.mem_cons_self
    exact absurd (secondHas.2.trans_le before) (Nat.not_lt_of_le firstHas.1)
  · rcases List.mem_cons.mp inRest with same | inRight
    · exact same.symm
    · have behind := (List.pairwise_cons.mp later).1 second inRight
      exact absurd (firstHas.2.trans_le behind) (Nat.not_lt_of_le secondHas.1)

/-- Whether a token is a name or ends in one: a word, an invocation, or a school behind two
colons. -/
def EndsInName (token : Token) : Prop :=
  Lexeme.EndsInName token.kind token.text.toList

/-- Whether no literal, comment or tag holds the two characters at an offset. -/
def Exposed (source : String) (offset : Nat) : Prop :=
  ∀ token ∈ tokenize source, Lexeme.HoldsArrow token.kind →
    ¬(token.span.start ≤ offset ∧ offset + 2 ≤ token.span.stop)

instance (source : String) (offset : Nat) : Decidable (Exposed source offset) :=
  inferInstanceAs (Decidable (∀ token ∈ tokenize source, _))

/-- Whether the two characters at an offset are one arrow. -/
def ArrowAt (source : String) (offset : Nat) : Prop :=
  ∃! token, token ∈ tokenize source ∧ token.kind = .outputBinding ∧
    token.span = ⟨offset, offset + 2⟩

/-- A name that takes the hyphen at an offset, and leaves the character behind it alone. -/
structure TakesHyphen (source : String) (offset : Nat) (token : Token) : Prop where
  listed : token ∈ tokenize source
  name : token.EndsInName
  last : token.text.toList.getLast? = some '-'
  stop : token.span.stop = offset + 1
  alone : ∃ other ∈ tokenize source, other.kind = .unknown ∧ other.text = ">" ∧
    other.span = ⟨offset + 1, offset + 2⟩

/-- A tile that ends in a name and in a hyphen takes the hyphen from the arrow. -/
theorem takesHyphen_of_tile (reading : Tile.Reading source.toList) {left right : List Tile}
    {tile : Tile} (split : reading.tiles = left ++ tile :: right) {inner : List Char}
    (raw : tile.lexeme.raw = inner ++ ['-'])
    (behind : Tile.spelling right ++ reading.gap = '>' :: after)
    (named : Lexeme.EndsInName tile.lexeme.kind tile.lexeme.raw) :
    TakesHyphen source (Source.byteLength (Tile.spelling left ++ tile.gap ++ inner))
      (ofLexeme (Source.Position.start.after (Tile.spelling left ++ tile.gap)) tile.lexeme) := by
  have tiling := reading.tiling
  rw [split] at tiling
  rcases Tile.tiling_append.mp tiling with ⟨_, _, stands, later⟩
  have noString : tile.lexeme.kind ≠ .string := named.kind_ne (by decide)
  have text : (ofLexeme (Source.Position.start.after (Tile.spelling left ++ tile.gap))
      tile.lexeme).text.toList = tile.lexeme.raw := by
    rw [ofLexeme, String.toList_ofList, stands.text_eq_raw noString]
  have stop : Source.byteLength (Tile.spelling left ++ tile.gap ++ tile.lexeme.raw) =
      Source.byteLength (Tile.spelling left ++ tile.gap ++ inner) + 1 := by
    rw [raw, ← List.append_assoc, Source.byteLength_append]
    rfl
  constructor
  case listed => exact ofLexeme_mem_tokenize reading split
  case name =>
    rw [EndsInName, text]
    exact named
  case last => rw [text, raw, List.getLast?_concat]
  case stop => rw [Tile.span_ofLexeme, ← Source.byteLength_append, stop]
  case alone =>
    rcases Tile.exists_greater later reading.blank behind with ⟨others, rfl⟩
    have parted : reading.tiles =
        (left ++ [tile]) ++ ⟨[], Lexeme.verbatim .unknown ['>']⟩ :: others := by
      rw [split, List.append_assoc, List.singleton_append]
    have front : Tile.spelling (left ++ [tile]) ++ [] =
        Tile.spelling left ++ tile.gap ++ tile.lexeme.raw := by simp
    refine ⟨_, ofLexeme_mem_tokenize reading parted, rfl, rfl, ?_⟩
    rw [Tile.span_ofLexeme, front, stop]
    rfl

/-- The hyphen of an arrow belongs to the arrow, or to a name, or to a token that holds the
whole arrow. -/
theorem exists_hyphen (parts : source.toList = before ++ '-' :: '>' :: after) :
    ∃ token ∈ tokenize source, token.span.Has (Source.byteLength before) ∧
      ((token.kind = .outputBinding ∧
          token.span = ⟨Source.byteLength before, Source.byteLength before + 2⟩) ∨
        TakesHyphen source (Source.byteLength before) token ∨
        (Lexeme.HoldsArrow token.kind ∧ token.span.start ≤ Source.byteLength before ∧
          Source.byteLength before + 2 ≤ token.span.stop)) := by
  rcases Tile.exists_reading source.toList with ⟨reading⟩
  rcases Tile.exists_tile_at reading.tiling reading.blank (by decide)
    (reading.spelled.symm.trans parts) with
    ⟨left, tile, right, inner, more, split, rfl, raw, behind⟩
  have tiling := reading.tiling
  rw [split] at tiling
  have stands := (Tile.tiling_append.mp tiling).2.2.1
  have hyphen : '-'.utf8Size = 1 := rfl
  refine ⟨_, ofLexeme_mem_tokenize reading split, ?_, ?_⟩
  · rw [Tile.span_ofLexeme, raw]
    simp only [Source.Span.Has, Source.byteLength_append, Source.byteLength, hyphen]
    omega
  rcases stands.of_hyphen raw behind with ⟨arrow, rfl⟩ | ⟨named, rfl⟩ | ⟨holds, nonempty⟩
  · refine Or.inl ⟨congrArg Lexeme.kind arrow, ?_⟩
    rw [Tile.span_ofLexeme, arrow, List.append_nil]
    rfl
  · exact Or.inr (Or.inl (takesHyphen_of_tile reading split raw behind named))
  · rcases List.exists_cons_of_ne_nil nonempty with ⟨char, others, rfl⟩
    have size := Char.utf8Size_pos char
    refine Or.inr (Or.inr ⟨holds, ?_, ?_⟩)
    · rw [Tile.span_ofLexeme, Source.byteLength_append _ inner]
      exact Nat.le_add_right _ _
    · rw [Tile.span_ofLexeme, raw]
      simp only [Source.byteLength_append, Source.byteLength, hyphen]
      omega

theorem TakesHyphen.has {offset : Nat} {token : Token} (taken : TakesHyphen source offset token) :
    token.span.Has offset := by
  have endless : token.kind ≠ .eof := taken.name.kind_ne (by decide)
  have order := start_lt_stop_of_tokenize taken.listed endless
  rw [taken.stop] at order
  refine ⟨Nat.le_of_lt_succ order, ?_⟩
  rw [taken.stop]
  exact Nat.lt_succ_self offset

/-- An arrow that is exposed is a token, unless a name takes its hyphen. -/
theorem arrowAt_iff (parts : source.toList = before ++ '-' :: '>' :: after)
    (exposed : Exposed source (Source.byteLength before)) :
    ArrowAt source (Source.byteLength before) ↔
      ¬∃ token, TakesHyphen source (Source.byteLength before) token := by
  have arrowHas : ∀ token : Token,
      token.span = ⟨Source.byteLength before, Source.byteLength before + 2⟩ →
        token.span.Has (Source.byteLength before) := by
    intro token span
    rw [span]
    exact ⟨Nat.le_refl _, Nat.lt_add_of_pos_right (by decide)⟩
  rcases exists_hyphen parts with ⟨token, listed, has, ⟨kind, span⟩ | taken | ⟨holds, start, stop⟩⟩
  · refine iff_of_true ⟨token, ⟨listed, kind, span⟩, ?_⟩ ?_
    · rintro other ⟨otherListed, _, otherSpan⟩
      exact eq_of_has otherListed listed (arrowHas other otherSpan) has
    · rintro ⟨name, taken⟩
      obtain rfl := eq_of_has listed taken.listed has taken.has
      exact taken.name.kind_ne (by decide) kind
  · refine iff_of_false ?_ (fun none => none ⟨token, taken⟩)
    rintro ⟨other, ⟨otherListed, kind, span⟩, _⟩
    obtain rfl := eq_of_has listed otherListed has (arrowHas other span)
    exact taken.name.kind_ne (by decide) kind
  · exact absurd ⟨start, stop⟩ (exposed token listed holds)

/-! ## An invocation with an output -/

theorem stands_name {name : List Char} (isWord : Lexeme.IsWord name) :
    Lexeme.Stands (Lexeme.verbatim .identifier name) [] := by
  refine .identifier isWord (Lexeme.stops_nil _) ?_
  intro tag _ marked
  rw [List.prefix_nil] at marked
  cases tag <;> cases marked

theorem content_invocation (school operation : String) :
    (Lexeme.verbatim .schoolInvocation
        (':' :: ':' :: (school.toList ++ ':' :: operation.toList))).content =
      (.schoolInvocation, "::" ++ school ++ ":" ++ operation) := by
  refine Prod.ext rfl (String.toList_inj.mp ?_)
  simp [Lexeme.content]

variable {school operation name : String}

/-- Between spaces an arrow is read between an invocation and a name. -/
theorem content_spaced (schoolNamed : Lexeme.IsName school.toList)
    (operationNamed : Lexeme.IsName operation.toList) (isWord : Lexeme.IsWord name.toList) :
    (tokenize ("::" ++ school ++ ":" ++ operation ++ " -> " ++ name)).map content =
      [(.schoolInvocation, "::" ++ school ++ ":" ++ operation), (.outputBinding, "->"),
        (.identifier, name), (.eof, "")] := by
  have blank : Tile.Blank [' '] := by simp [Tile.Blank, Lexeme.isBlank]
  have tiling : Tile.Tiling
      [⟨[], Lexeme.verbatim .schoolInvocation
          (':' :: ':' :: (school.toList ++ ':' :: operation.toList))⟩,
        ⟨[' '], Lexeme.verbatim .outputBinding ['-', '>']⟩,
        ⟨[' '], Lexeme.verbatim .identifier name.toList⟩] [] :=
    ⟨Tile.blank_nil, .schoolInvocation schoolNamed operationNamed
      (Lexeme.stops_cons.mpr (by decide)), blank, .outputBinding, blank, stands_name isWord, trivial⟩
  rw [Tile.content_of_tiling (by simp) tiling, List.map_cons, content_invocation]
  simp [Lexeme.content]

/-- Without a space the operation takes the hyphen. -/
theorem content_unspaced (schoolNamed : Lexeme.IsName school.toList)
    (operationNamed : Lexeme.IsName operation.toList) (isWord : Lexeme.IsWord name.toList) :
    (tokenize ("::" ++ school ++ ":" ++ operation ++ "->" ++ name)).map content =
      [(.schoolInvocation, "::" ++ school ++ ":" ++ (operation ++ "-")), (.unknown, ">"),
        (.identifier, name), (.eof, "")] := by
  have named : Lexeme.IsName (operation ++ "-").toList := by
    intro char listed
    rw [String.toList_append] at listed
    rcases List.mem_append.mp listed with inOperation | hyphen
    · exact operationNamed char inOperation
    · rw [List.mem_singleton.mp hyphen]
      decide
  have tiling : Tile.Tiling
      [⟨[], Lexeme.verbatim .schoolInvocation
          (':' :: ':' :: (school.toList ++ ':' :: (operation ++ "-").toList))⟩,
        ⟨[], Lexeme.verbatim .unknown ['>']⟩,
        ⟨[], Lexeme.verbatim .identifier name.toList⟩] [] :=
    ⟨Tile.blank_nil, .schoolInvocation schoolNamed named (Lexeme.stops_cons.mpr (by decide)),
      Tile.blank_nil, Lexeme.stands_greater _, Tile.blank_nil, stands_name isWord, trivial⟩
  rw [Tile.content_of_tiling (by simp) tiling, List.map_cons, content_invocation]
  simp [Lexeme.content]

/-- An arrow that no literal, comment or tag holds is one token, unless the name directly in
front of it takes the hyphen.  So a name that an arrow follows has to stand apart. -/
theorem exposed_arrow :
    (∀ {source : String} {before after : List Char},
      source.toList = before ++ '-' :: '>' :: after →
      Exposed source (Source.byteLength before) →
      (ArrowAt source (Source.byteLength before) ↔
        ¬∃ token, TakesHyphen source (Source.byteLength before) token)) ∧
    ∀ {school operation name : String}, Lexeme.IsName school.toList →
      Lexeme.IsName operation.toList → Lexeme.IsWord name.toList →
      (tokenize ("::" ++ school ++ ":" ++ operation ++ " -> " ++ name)).map content =
          [(.schoolInvocation, "::" ++ school ++ ":" ++ operation), (.outputBinding, "->"),
            (.identifier, name), (.eof, "")] ∧
        (tokenize ("::" ++ school ++ ":" ++ operation ++ "->" ++ name)).map content =
          [(.schoolInvocation, "::" ++ school ++ ":" ++ (operation ++ "-")), (.unknown, ">"),
            (.identifier, name), (.eof, "")] := by
  refine ⟨fun parts exposed => arrowAt_iff parts exposed, ?_⟩
  intro school operation name schoolNamed operationNamed isWord
  exact ⟨content_spaced schoolNamed operationNamed isWord,
    content_unspaced schoolNamed operationNamed isWord⟩

/-- An arrow behind a bracket and one behind a word. -/
theorem exposed_arrow_bracket :
    ArrowAt "f()->x" 3 ∧ ¬ArrowAt "f->x" 1 ∧
      (tokenize "::test:run->x").map content =
        [(.schoolInvocation, "::test:run-"), (.unknown, ">"), (.identifier, "x"), (.eof, "")] := by
  refine ⟨?_, ?_, ?_⟩
  · have parts : "f()->x".toList = ['f', '(', ')'] ++ '-' :: '>' :: ['x'] := rfl
    refine (exposed_arrow.1 parts (by decide +kernel)).mpr ?_
    rintro ⟨token, taken⟩
    have none : ∀ token ∈ tokenize "f()->x", token.span.stop ≠ 4 := by decide +kernel
    exact none token taken.listed taken.stop
  · have parts : "f->x".toList = ['f'] ++ '-' :: '>' :: ['x'] := rfl
    intro arrow
    refine (exposed_arrow.1 parts (by decide +kernel)).mp arrow
      ⟨⟨.identifier, "f-", ⟨1, 1⟩, ⟨0, 2⟩⟩, by decide +kernel, Or.inl rfl, by decide, rfl,
        ⟨.unknown, ">", ⟨1, 3⟩, ⟨2, 3⟩⟩, by decide +kernel, rfl, rfl, rfl⟩
  · have school : Lexeme.IsName "test".toList := List.all_eq_true.mp (by decide)
    have operation : Lexeme.IsName "run".toList := List.all_eq_true.mp (by decide)
    have isWord : Lexeme.IsWord "x".toList :=
      ⟨⟨'x', [], rfl, by decide⟩, List.all_eq_true.mp (by decide)⟩
    exact (exposed_arrow.2 school operation isWord).2

/-- The arrow of an invocation is lost if no space stands in front of it. -/
theorem arrow_lost :
    "::school:operation->name".toList =
        "::school:operation".toList ++ '-' :: '>' :: "name".toList ∧
      (∀ token ∈ tokenize "::school:operation->name", ¬Lexeme.HoldsArrow token.kind) ∧
      ¬ArrowAt "::school:operation->name" (Source.byteLength "::school:operation".toList) ∧
      (tokenize "::school:operation->name").map content ≠
        (tokenize "::school:operation -> name").map content := by
  refine ⟨rfl, by decide +kernel, ?_, by decide +kernel⟩
  rintro ⟨token, ⟨listed, kind, _⟩, _⟩
  have none : ∀ token ∈ tokenize "::school:operation->name", token.kind ≠ .outputBinding := by
    decide +kernel
  exact none token listed kind

end Token
end Ritual
