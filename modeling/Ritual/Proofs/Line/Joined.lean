import Ritual.Line
import Ritual.Proofs.Lexeme.Kind
import Ritual.Proofs.Token.Tiling

namespace Ritual

/-!
# A joined line as tiles

A joined line spells one lexeme for each of its tokens.  A literal is spelled anew, between
double quotes, and any other token as its text.  A space stands in front of every lexeme
but the first, and nothing in front of punctuation.

The line is read as its own tokens exactly if these lexemes stand where joining puts them.
This holds for any token list, so what may go wrong in a line is what may keep a lexeme
from standing before the next one.
-/

namespace Line

/-! ## The lexemes of a joined line -/

/-- The lexeme that a joined line spells for a token. -/
def lexemeOf (token : Token) : Lexeme :=
  ⟨token.kind, (written token).toList, token.text.toList⟩

/-- The lexeme of a token with what joining puts in front of it. -/
def tileOf (token : Token) : Tile :=
  ⟨if attaches token then [] else [' '], lexemeOf token⟩

/-- The tiles of a joined line. -/
def tiles : List Token → List Tile
  | [] => []
  | first :: rest => ⟨[], lexemeOf first⟩ :: rest.map tileOf

theorem written_of_ne {token : Token} (noString : token.kind ≠ .string) :
    written token = token.text :=
  if_neg noString

theorem attaches_iff {token : Token} :
    attaches token = true ↔ token.kind ≠ .string ∧ token.text ∈ attached := by
  simp [attaches]

theorem written_of_attaches {token : Token} (joins : attaches token = true) :
    written token = token.text :=
  written_of_ne (attaches_iff.mp joins).1

theorem blank_gap (token : Token) : Tile.Blank (tileOf token).gap := by
  unfold tileOf
  split
  · exact Tile.blank_nil
  · intro char listed
    rw [List.mem_singleton.mp listed]
    rfl

theorem partsAfter_ne_nil (part : String) (rest : List Token) : partsAfter part rest ≠ [] := by
  induction rest generalizing part with
  | nil => exact List.cons_ne_nil _ _
  | cons token others inductionHypothesis =>
    rw [partsAfter]
    split
    · exact inductionHypothesis _
    · exact List.cons_ne_nil _ _

theorem toList_partsAfter (part : String) (rest : List Token) :
    (" ".intercalate (partsAfter part rest)).toList =
      part.toList ++ Tile.spelling (rest.map tileOf) := by
  induction rest generalizing part with
  | nil => simp [partsAfter]
  | cons token others inductionHypothesis =>
    rw [partsAfter, List.map_cons, Tile.spelling_cons]
    cases joins : attaches token with
    | true =>
      rw [if_pos rfl, inductionHypothesis, String.toList_append, List.append_assoc]
      simp [tileOf, lexemeOf, joins, written_of_attaches joins]
    | false =>
      rw [if_neg (by simp), String.intercalate_cons_of_ne_nil (partsAfter_ne_nil _ _),
        String.toList_append, String.toList_append, inductionHypothesis]
      simp [tileOf, lexemeOf, joins]

/-- A joined line spells its tiles. -/
theorem toList_joined (line : List Token) : (joined line).toList = Tile.spelling (tiles line) := by
  cases line with
  | nil => rfl
  | cons first rest =>
    rw [joined, parts, toList_partsAfter]
    simp [tiles, lexemeOf]

theorem map_content_tiles (line : List Token) :
    ((tiles line).map fun tile => tile.lexeme.content) = line.map Token.content := by
  have single : ∀ token : Token, (lexemeOf token).content = token.content := by
    intro token
    simp [lexemeOf, Lexeme.content, Token.content]
  cases line with
  | nil => rfl
  | cons first rest =>
    rw [tiles, List.map_cons, List.map_cons, List.map_map, single]
    apply congrArg (_ :: ·)
    apply List.map_congr_left
    intro token _
    exact single token

/-! ## What stands behind a token -/

/-- The punctuation that attaches, as characters. -/
def signs : List Char :=
  ['(', ')', '[', ']', '\x7b', '\x7d', ',', '.', ';', ':']

theorem attached_eq : attached = signs.map String.singleton :=
  rfl

/-- The characters that joining may put directly behind a token. -/
def joints : List Char :=
  ' ' :: signs

/-- What is spelled behind a token begins with a space or with punctuation that attaches. -/
theorem head?_spelling {rest : List Token} {char : Char}
    (found : (Tile.spelling (rest.map tileOf)).head? = some char) :
    char = ' ' ∨ char ∈ signs ∧ ∃ next others, rest = next :: others ∧ attaches next = true ∧
      next.text = String.singleton char ∧
      Tile.spelling (rest.map tileOf) = char :: Tile.spelling (others.map tileOf) := by
  cases rest with
  | nil => cases found
  | cons next others =>
    rw [List.map_cons, Tile.spelling_cons] at found ⊢
    cases joins : attaches next with
    | false =>
      left
      simp only [tileOf, joins, Bool.false_eq_true, if_false, List.singleton_append,
        List.head?_cons, Option.some.injEq] at found
      exact found.symm
    | true =>
      right
      have listed := (attaches_iff.mp joins).2
      rw [attached_eq] at listed
      rcases List.mem_map.mp listed with ⟨sign, inSigns, text⟩
      have spelled : (tileOf next).gap ++ ((tileOf next).lexeme.raw ++
          Tile.spelling (others.map tileOf)) = sign :: Tile.spelling (others.map tileOf) := by
        simp [tileOf, lexemeOf, joins, written_of_attaches joins, ← text]
      rw [spelled] at found ⊢
      obtain rfl := Option.some.inj found
      exact ⟨inSigns, next, others, rfl, joins, text.symm, rfl⟩

theorem mem_joints {rest : List Token} {char : Char}
    (found : (Tile.spelling (rest.map tileOf)).head? = some char) : char ∈ joints := by
  rcases head?_spelling found with rfl | ⟨inSigns, _⟩
  · exact List.mem_cons_self
  · exact List.mem_cons_of_mem _ inSigns

/-- A run of characters that no joint belongs to ends where joining goes on. -/
theorem stops_spelling {property : Char → Bool}
    (outside : (joints.all fun joint => !property joint) = true) (rest : List Token) :
    Lexeme.Stops property (Tile.spelling (rest.map tileOf)) := by
  intro char found
  simpa using List.all_eq_true.mp outside char (mem_joints found)

theorem head?_spelling_ne {char : Char} (outside : char ∉ joints) (rest : List Token) :
    (Tile.spelling (rest.map tileOf)).head? ≠ some char :=
  fun found => outside (mem_joints found)

/-! ## Literals that are written anew -/

/-- The characters that a value is written as denote the value. -/
theorem literalBody_escaped (value : List Char) :
    Lexeme.LiteralBody '"' (value.flatMap escapeChar) value := by
  induction value with
  | nil => exact .nil
  | cons char rest inductionHypothesis =>
    rw [List.flatMap_cons]
    unfold escapeChar
    split
    · exact .escaped inductionHypothesis
    · exact .escaped inductionHypothesis
    · exact .escaped inductionHypothesis
    · exact .escaped inductionHypothesis
    · rename_i noQuote noBackslash _ _
      exact .plain noQuote noBackslash inductionHypothesis

/-- The literal that is written for a value. -/
def literalFor (value : String) : Lexeme :=
  ⟨.string, (requote value).toList, value.toList⟩

theorem raw_literalFor (value : String) : (literalFor value).raw = (requote value).toList := by
  rw [literalFor]

/-- A literal stands before anything, except that a third quote may not follow the two quotes
of an empty value. -/
theorem stands_literalFor {value : String} {after : List Char}
    (apart : value = "" → after.head? ≠ some '"') : Lexeme.Stands (literalFor value) after := by
  have quoted : literalFor value =
      ⟨.string, '"' :: (value.toList.flatMap escapeChar ++ ['"']), value.toList⟩ := by
    simp [literalFor]
  rw [quoted]
  refine .closedString (Or.inl rfl) (literalBody_escaped _) ?_
  intro _ nothing
  have body := literalBody_escaped value.toList
  rw [nothing] at body
  generalize denoted : value.toList = chars at body
  cases body
  exact apart (String.toList_eq_nil_iff.mp denoted)

/-- A literal stands wherever joining puts it. -/
theorem stands_of_string {token : Token} (literal : token.kind = .string) (rest : List Token) :
    Lexeme.Stands (lexemeOf token) (Tile.spelling (rest.map tileOf)) := by
  have written : lexemeOf token = literalFor token.text := by
    simp [lexemeOf, literalFor, written, literal]
  rw [written]
  exact stands_literalFor fun _ => head?_spelling_ne (by decide) rest

/-! ## Reading a joined line -/

/-- Whether a joined line is read as tokens of the same kinds and texts. -/
def Rereads (line : List Token) : Prop :=
  (Token.tokenize (joined line)).dropLast.map Token.content = line.map Token.content

theorem rereads_of_tiling {line : List Token} (tiling : Tile.Tiling (tiles line) []) :
    Rereads line := by
  rw [Rereads, List.map_dropLast, Tile.content_of_tiling (toList_joined line) tiling,
    List.dropLast_concat, map_content_tiles]

/-- A lexeme that is read with the kind and the text of the token that is written there is
that token's lexeme. -/
theorem eq_lexemeOf {token : Token} {rest : List Token} {gap readGap after : List Char}
    {lexeme : Lexeme} (blank : Tile.Blank gap) (readBlank : Tile.Blank readGap)
    (stands : Lexeme.Stands lexeme after) (kind : lexeme.kind = token.kind)
    (text : lexeme.text = token.text.toList)
    (spelled : gap ++ ((lexemeOf token).raw ++ Tile.spelling (rest.map tileOf)) =
      readGap ++ (lexeme.raw ++ after)) :
    lexeme = lexemeOf token ∧ after = Tile.spelling (rest.map tileOf) := by
  by_cases literal : token.kind = .string
  · -- many literals denote one value, but only one lexeme stands where this one is written
    have written := stands_of_string literal rest
    have same := congrArg (List.dropWhile Lexeme.isBlank) spelled
    rw [Lexeme.dropWhile_of_stops blank (written.visible _),
      Lexeme.dropWhile_of_stops readBlank (stands.visible _)] at same
    obtain rfl := stands.unique written same.symm
    exact ⟨rfl, (List.append_cancel_left same).symm⟩
  · have raw : lexeme.raw = (lexemeOf token).raw := by
      rw [← stands.text_eq_raw (kind ▸ literal), text, lexemeOf, written_of_ne literal]
    have same := congrArg (List.dropWhile Lexeme.isBlank) spelled
    rw [← raw, Lexeme.dropWhile_of_stops blank (stands.visible _),
      Lexeme.dropWhile_of_stops readBlank (stands.visible _)] at same
    refine ⟨?_, (List.append_cancel_left same).symm⟩
    cases lexeme
    cases kind
    cases raw
    cases text
    rfl

/-- Tiles that spell a joined line, or what joining puts behind a token. -/
structure Reads (read : List Tile) (gap chars : List Char) (line : List Token) : Prop where
  spelled : chars = Tile.spelling read ++ gap
  tiling : Tile.Tiling read gap
  contents : (read.map fun tile => tile.lexeme.content) = line.map Token.content

/-- The first lexeme stands where it is put, and what is behind it is read as the other tokens. -/
theorem Reads.step {read : List Tile} {gap front : List Char} {first : Token} {rest : List Token}
    (reads : Reads read gap (front ++ ((lexemeOf first).raw ++ Tile.spelling (rest.map tileOf)))
      (first :: rest)) (blank : Tile.Blank front) :
    Lexeme.Stands (lexemeOf first) (Tile.spelling (rest.map tileOf)) ∧
      ∃ following, Reads following gap (Tile.spelling (rest.map tileOf)) rest := by
  rcases reads with ⟨spelled, tiling, contents⟩
  cases read with
  | nil => cases contents
  | cons tile following =>
    rcases tiling with ⟨readBlank, stands, later⟩
    rcases List.cons.inj contents with ⟨content, contentsLater⟩
    rcases Prod.mk.inj content with ⟨kind, text⟩
    have denoted : tile.lexeme.text = first.text.toList := by
      rw [← text, String.toList_ofList]
    rw [Tile.spelling_cons, List.append_assoc, List.append_assoc] at spelled
    rcases eq_lexemeOf blank readBlank stands kind denoted spelled with ⟨same, behind⟩
    rw [same, behind] at stands
    exact ⟨stands, following, behind.symm, later, contentsLater⟩

theorem Reads.tiling_map {read : List Tile} {gap : List Char} {rest : List Token}
    (reads : Reads read gap (Tile.spelling (rest.map tileOf)) rest) :
    Tile.Tiling (rest.map tileOf) [] := by
  induction rest generalizing read with
  | nil => trivial
  | cons token others inductionHypothesis =>
    rw [List.map_cons, Tile.spelling_cons] at reads
    rcases reads.step (blank_gap token) with ⟨stands, following, later⟩
    refine ⟨blank_gap token, ?_, inductionHypothesis later⟩
    rw [List.append_nil]
    exact stands

/-- A joined line is read as its tokens exactly if its lexemes stand where they are put. -/
theorem rereads_iff_tiling {line : List Token} :
    Rereads line ↔ Tile.Tiling (tiles line) [] := by
  refine ⟨?_, rereads_of_tiling⟩
  intro rereads
  rcases Tile.exists_reading (joined line).toList with ⟨read, gap, spelled, tiling, blank⟩
  rw [Rereads, Tile.Reading.tokenize_eq ⟨read, gap, spelled, tiling, blank⟩, List.dropLast_concat,
    Tile.map_content_tokens] at rereads
  rw [toList_joined] at spelled
  cases line with
  | nil => trivial
  | cons first rest =>
    have reads : Reads read gap ([] ++ ((lexemeOf first).raw ++ Tile.spelling (rest.map tileOf)))
        (first :: rest) := ⟨(Tile.spelling_cons _ _).symm.trans spelled, tiling, rereads⟩
    rcases reads.step Tile.blank_nil with ⟨stands, following, later⟩
    refine ⟨Tile.blank_nil, ?_, later.tiling_map⟩
    rw [List.append_nil]
    exact stands

end Line
end Ritual
