import Ritual.Proofs.Token.Coverage
import Ritual.Proofs.Token.Located

namespace Ritual

/-!
# Lines and columns by counting

The line and the column of a token are what a reader counts in the source in front of
it, without running the scanner: line feeds, and characters behind the last of them.
The counters step over every character of the source, inside tokens and between them,
so that they do not overflow is said of every place of the source and not only of those
where a token begins.
-/

namespace Source

/-- The characters behind the last line feed, or all of them if there is none. -/
def lastLine (chars : List Char) : List Char :=
  (chars.reverse.takeWhile (· != '\n')).reverse

theorem lastLine_append_lineFeed (chars : List Char) : lastLine (chars ++ ['\n']) = [] := by
  simp [lastLine]

theorem lastLine_append_other (chars : List Char) {char : Char} (other : char ≠ '\n') :
    lastLine (chars ++ [char]) = lastLine chars ++ [char] := by
  simp [lastLine, other]

/-- Where the counters stand is read off the characters that they have passed. -/
theorem Position.start_after (chars : List Char) :
    start.after chars =
      ⟨byteLength chars, 1 + chars.count '\n', 1 + (lastLine chars).length⟩ := by
  induction chars using List.reverseRecOn with
  | nil => rfl
  | append_singleton front char inductionHypothesis =>
    rw [after_append, inductionHypothesis, after_cons, after_nil, byteLength_append,
      List.count_append, step]
    by_cases lineFeed : char = '\n'
    · subst lineFeed
      rw [if_pos rfl, lastLine_append_lineFeed]
      rfl
    · rw [if_neg lineFeed, lastLine_append_other front lineFeed, List.length_append,
        List.count_singleton, if_neg (by simpa using lineFeed)]
      rfl

/-- A location that is reached by counting in the characters in front of it. -/
structure Location.Counts (location : Location) (before : List Char) : Prop where
  line : location.line.toNat = 1 + before.count '\n'
  column : location.column.toNat = 1 + (lastLine before).length

theorem Countable.counts {before after : List Char} (countable : Countable (before ++ after)) :
    (Position.start.after before).location.Counts before := by
  constructor
  · rw [Position.line_toNat countable.line_lt, Position.start_after]
  · rw [Position.column_toNat countable.column_lt, Position.start_after]

end Source

namespace Token

variable {source : String}

/-- A token of a source is located by the characters in front of its span. -/
theorem exists_counts_of_tokenize (countable : Source.Countable source.toList) {token : Token}
    (listed : token ∈ tokenize source) :
    ∃ before after, source.toList = before ++ after ∧
      Source.byteLength before = token.span.start ∧ token.location.Counts before := by
  rcases Tile.exists_reading source.toList with ⟨reading⟩
  rcases (mem_tokenize reading).mp listed with inTiles | rfl
  · rcases reading.exists_stands inTiles with ⟨before, lexeme, rest, parts, _, rfl⟩
    refine ⟨before, lexeme.raw ++ rest, parts, ?_, (parts ▸ countable).counts⟩
    rw [Tile.span_ofLexeme]
  · refine ⟨source.toList, [], (List.append_nil _).symm, ?_, ?_⟩
    · rw [span_endOfSource, Source.byteLength_toList]
    · rw [← List.append_nil source.toList] at countable
      exact countable.counts

/-- The lines and columns of a source that is not too long are exact: the counters never
overflow, every token stands where counting leads to, and no two tokens stand at one
place. -/
theorem tokenize_counted (short : source.length < UInt32.size - 1) :
    Source.Countable source.toList ∧
      (∀ token ∈ tokenize source, ∃ before after, source.toList = before ++ after ∧
        Source.byteLength before = token.span.start ∧ token.location.Counts before) ∧
      (tokenize source).Pairwise fun first second => first.location.Before second.location := by
  have countable : Source.Countable source.toList :=
    Source.countable_of_length (by rwa [String.length_toList])
  refine ⟨countable, ?_, tokenize_ordered countable⟩
  intro token listed
  exact exists_counts_of_tokenize countable listed

/-- Behind a literal that escapes a line end and characters of several bytes. -/
theorem tokenize_counted_escaped :
    let source := "é \"ü\\\ny\" ::é\r\n\n ß"
    let token : Token := ⟨.unknown, "::é", ⟨2, 4⟩, ⟨11, 15⟩⟩
    source.length < UInt32.size - 1 ∧ token ∈ tokenize source ∧
      (∃ before after, source.toList = before ++ after ∧ Source.byteLength before = 11 ∧
        token.location.Counts before) ∧
      (tokenize source).Pairwise fun first second => first.location.Before second.location := by
  intro source token
  have short : source.length < UInt32.size - 1 := by decide
  have listed : token ∈ tokenize source := by decide +kernel
  rcases tokenize_counted short with ⟨_, counts, ordered⟩
  exact ⟨short, listed, counts token listed, ordered⟩

end Token
end Ritual
