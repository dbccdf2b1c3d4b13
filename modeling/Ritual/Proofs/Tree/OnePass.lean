import Mathlib.Data.List.TakeWhile
import Ritual.Proofs.Line.Cut
import Ritual.Proofs.Segment.Behind
import Ritual.Tree

namespace Ritual
namespace Tree

/-!
# A tree in one pass

The tree of a token list can be read with one cursor and without forming segments: a
loop passes over what leads the list, a loop collects the tags, and at each language tag
a loop collects the lines of its block and hands the cursor back.  The loops hand over
every token that they do not read themselves, so they give the tree of the segments.
-/

/-- The kinds that are passed over at the head of a token list. -/
def leads : TokenKind → Bool
  | .commentDoc | .commentStandard | .newline | .unknown => true
  | _ => false

/-- Move the cursor over tokens of some kinds, at most to the end of the stream. -/
def skip (passes : TokenKind → Bool) (tokens : List Token) : List Token :=
  tokens.dropWhile fun token => token.kind != .eof && passes token.kind

/-- The finished lines, with the line that is begun unless it is empty. -/
def flush (write : List Token → String) (finished : List String) (line : List Token) :
    List String :=
  if line.isEmpty then finished else finished ++ [write line]

/-- Read the lines of a block, up to a tag or the end of the stream.  The tokens from
there on are handed back. -/
def readLines (write : List Token → String) (finished : List String) (line : List Token) :
    List Token → List String × List Token
  | [] => (flush write finished line, [])
  | token :: rest =>
    if token.kind = .eof || token.kind.opensBlock then (flush write finished line, token :: rest)
    else if token.kind = .newline then readLines write (finished ++ [write line]) [] rest
    else readLines write finished (line ++ [token]) rest

/-- The block that a language tag makes with a body. -/
def blockOf (tag : Token) (body : String) : Block :=
  let language := (Language.ofTag? tag.text).getD Segment.unknownLanguage
  { kind := language ++ "_block"
    language := language
    body := body
    location := tag.location }

/-- Whether a token belongs to the block that is being read. -/
def inBlock (token : Token) : Bool :=
  token.kind != .eof && !token.kind.opensBlock

/-! ## What one loop reads and hands over -/

theorem flush_eq_map {write : List Token → String} (finished : List String) {line : List Token}
    (unbroken : ∀ token ∈ line, Line.endsLine token = false) :
    flush write finished line = finished ++ (Line.ofTokens line).map write := by
  rw [flush]
  split
  · rename_i empty
    rw [List.isEmpty_iff.mp empty, Line.ofTokens, List.map_nil, List.append_nil]
  · rename_i nonempty
    rw [Line.ofTokens_unbroken unbroken fun empty => nonempty (List.isEmpty_iff.mpr empty)]
    rfl

theorem readLines_eq (write : List Token → String) (finished : List String) {line : List Token}
    (unbroken : ∀ token ∈ line, Line.endsLine token = false) (tokens : List Token) :
    readLines write finished line tokens =
      (finished ++ (Line.ofTokens (line ++ tokens.takeWhile inBlock)).map write,
        tokens.dropWhile inBlock) := by
  induction tokens generalizing finished line with
  | nil => rw [readLines, flush_eq_map finished unbroken, List.takeWhile_nil, List.append_nil,
      List.dropWhile_nil]
  | cons token rest inductionHypothesis =>
    rw [readLines]
    cases inside : inBlock token with
    | false =>
      have stops : (decide (token.kind = .eof) || token.kind.opensBlock) = true := by
        simpa [inBlock, imp_iff_or_not, or_comm] using inside
      rw [if_pos stops, flush_eq_map finished unbroken, List.takeWhile_cons_of_neg (by simp [inside]),
        List.dropWhile_cons_of_neg (by simp [inside]), List.append_nil]
    | true =>
      have goesOn : ¬(decide (token.kind = .eof) || token.kind.opensBlock) = true := by
        simpa [inBlock] using inside
      rw [if_neg goesOn, List.takeWhile_cons_of_pos inside, List.dropWhile_cons_of_pos inside]
      split
      · rename_i newline
        rw [inductionHypothesis _ fun _ impossible => absurd impossible List.not_mem_nil,
          Line.ofTokens_append_newline unbroken newline, List.nil_append, List.map_cons,
          List.append_assoc, List.singleton_append]
      · rename_i visible
        rw [inductionHypothesis _ ?_, List.append_assoc, List.singleton_append]
        intro other listed
        rcases List.mem_append.mp listed with old | new
        · exact unbroken other old
        · rw [List.mem_singleton.mp new]
          simpa [Line.endsLine] using visible

/-- A body is read from its first line, which nothing is read of yet. -/
theorem readLines_start (write : List Token → String) (tokens : List Token) :
    readLines write [] [] tokens =
      ((Line.ofTokens (tokens.takeWhile inBlock)).map write, tokens.dropWhile inBlock) :=
  readLines_eq write [] (fun _ impossible => absurd impossible List.not_mem_nil) tokens

/-- The loops of the reader, from a tag or the end of the stream to the next. -/
def readTags (mode : Line.Reconstruction) (source : List Char) (blocks : List Block)
    (deferred : List DeferredTag) : List Token → List Block × List DeferredTag
  | [] => (blocks, deferred)
  | token :: rest =>
    if token.kind = .eof then (blocks, deferred)
    else if token.kind = .languageParam then
      let read := readLines (Line.render mode source token) [] [] (skip (· == .newline) rest)
      readTags mode source (blocks ++ [blockOf token ("\n".intercalate read.1)]) deferred read.2
    else readTags mode source blocks (deferred ++ (Segment.deferred? ⟨token, []⟩).toList) rest
termination_by tokens => tokens.length
decreasing_by
  · rw [readLines_start]
    have handed := List.length_dropWhile_le inBlock (skip (· == .newline) rest)
    have skipped := List.length_dropWhile_le
      (fun token : Token => token.kind != .eof && token.kind == .newline) rest
    exact Nat.lt_succ_of_le (handed.trans skipped)
  · exact Nat.lt_succ_self _

/-- The tree of a token list, read in one pass. -/
def read (mode : Line.Reconstruction) (source : String) (tokens : List Token) : Tree :=
  let tags := readTags mode source.toList [] [] (skip leads tokens)
  { ritualId := unknownRitual
    blocks := tags.1
    deferred := tags.2 }

/-! ## The segments of what is left -/

theorem live_of_eof {token : Token} (ends : token.kind = .eof) (rest : List Token) :
    live (token :: rest) = [] :=
  List.takeWhile_cons_of_neg (by simp [ends])

theorem live_cons {token : Token} (goesOn : token.kind ≠ .eof) (rest : List Token) :
    live (token :: rest) = token :: live rest :=
  List.takeWhile_cons_of_pos (by simp [goesOn])

theorem inBlock_iff {token : Token} :
    inBlock token = true ↔ token.kind ≠ .eof ∧ token.kind.opensBlock = false := by
  simp [inBlock]

/-- Moving the cursor over tokens that open nothing loses no segment. -/
theorem ofTokens_live_dropWhile {passes : Token → Bool}
    (inside : ∀ token, passes token = true → inBlock token = true) (tokens : List Token) :
    Segment.ofTokens (live (tokens.dropWhile passes)) = Segment.ofTokens (live tokens) := by
  induction tokens with
  | nil => rfl
  | cons token rest inductionHypothesis =>
    rw [List.dropWhile_cons]
    split
    · rename_i passed
      rcases inBlock_iff.mp (inside token passed) with ⟨goesOn, unopened⟩
      rw [inductionHypothesis, live_cons goesOn, Segment.ofTokens, if_neg (by simp [unopened])]
    · rfl

theorem takeWhile_live (tokens : List Token) :
    ((live tokens).takeWhile fun next => !next.kind.opensBlock) = tokens.takeWhile inBlock := by
  rw [live, List.takeWhile_takeWhile]
  congr 1
  funext token
  rw [Bool.eq_iff_iff]
  simp [inBlock, and_comm]

theorem takeWhile_skip (tokens : List Token) :
    (skip (· == .newline) tokens).takeWhile inBlock =
      (tokens.takeWhile inBlock).dropWhile fun token => token.kind == .newline := by
  induction tokens with
  | nil => rfl
  | cons token rest inductionHypothesis =>
    by_cases newline : token.kind = .newline
    · rw [skip, List.dropWhile_cons_of_pos (by simp [newline]),
        List.takeWhile_cons_of_pos (by simp [inBlock, newline, TokenKind.opensBlock]),
        List.dropWhile_cons_of_pos (by simp [newline])]
      exact inductionHypothesis
    · rw [skip, List.dropWhile_cons_of_neg (by simp [newline]), List.takeWhile_cons]
      split
      · rw [List.dropWhile_cons_of_neg (by simp [newline])]
      · rfl

theorem ofTokens_live_skip {passes : TokenKind → Bool}
    (inside : ∀ kind, passes kind = true → kind.opensBlock = false) (tokens : List Token) :
    Segment.ofTokens (live (skip passes tokens)) = Segment.ofTokens (live tokens) := by
  apply ofTokens_live_dropWhile
  intro token passed
  simp only [Bool.and_eq_true, bne_iff_ne] at passed
  exact inBlock_iff.mpr ⟨passed.1, inside token.kind passed.2⟩

theorem leads_unopened (kind : TokenKind) (passed : leads kind = true) :
    kind.opensBlock = false := by
  cases kind <;> simp_all [leads, TokenKind.opensBlock]

/-! ## The whole pass -/

/-- A language tag makes its block of the lines that are read behind it. -/
theorem block?_of_read (mode : Line.Reconstruction) (source : List Char) {tag : Token}
    (language : tag.kind = .languageParam) (rest : List Token) :
    Segment.block? mode source ⟨tag, rest.takeWhile inBlock⟩ =
      some (blockOf tag ("\n".intercalate
        (readLines (Line.render mode source tag) [] [] (skip (· == .newline) rest)).1)) := by
  rw [Segment.block?, if_pos language, Segment.body, Segment.lines, readLines_start,
    takeWhile_skip]
  rfl

/-- The note of a tag says nothing of the tokens behind it. -/
theorem deferred?_eq_of_tag (tag : Token) (content : List Token) :
    Segment.deferred? ⟨tag, content⟩ = Segment.deferred? ⟨tag, []⟩ :=
  rfl

theorem deferred?_of_unopened {tag : Token} (unopened : tag.kind.opensBlock = false)
    (content : List Token) : Segment.deferred? ⟨tag, content⟩ = none := by
  unfold Segment.deferred?
  split <;> simp_all [TokenKind.opensBlock]

/-- The loop over the tags collects what the segments of the tokens make. -/
theorem readTags_eq (mode : Line.Reconstruction) (source : List Char) (blocks : List Block)
    (deferred : List DeferredTag) (tokens : List Token) :
    readTags mode source blocks deferred tokens =
      (blocks ++ (Segment.ofTokens (live tokens)).filterMap (Segment.block? mode source),
        deferred ++ (Segment.ofTokens (live tokens)).filterMap Segment.deferred?) := by
  fun_induction readTags mode source blocks deferred tokens with
  | case1 blocks deferred => simp [live, Segment.ofTokens]
  | case2 blocks deferred token rest ends => simp [live_of_eof ends, Segment.ofTokens]
  | case3 blocks deferred token rest goesOn language read inductionHypothesis =>
    have opens : token.kind.opensBlock = true := by rw [language]; rfl
    have left : read.2 = (skip (· == .newline) rest).dropWhile inBlock :=
      congrArg Prod.snd (readLines_start _ _)
    have handed : Segment.ofTokens (live read.2) = Segment.ofTokens (live rest) := by
      rw [left, ofTokens_live_dropWhile fun _ inside => inside, ofTokens_live_skip]
      intro kind newline
      rw [eq_of_beq newline]
      rfl
    rw [inductionHypothesis, handed, live_cons goesOn, Segment.ofTokens, if_pos opens,
      takeWhile_live, List.filterMap_cons_some (block?_of_read mode source language rest),
      List.append_assoc, List.singleton_append]
    congr 1
    have undeferred : Segment.deferred? ⟨token, rest.takeWhile inBlock⟩ = none := by
      simp [Segment.deferred?, language]
    rw [List.filterMap_cons_none undeferred]
  | case4 blocks deferred token rest goesOn other inductionHypothesis =>
    have blockless : ∀ content, Segment.block? mode source ⟨token, content⟩ = none :=
      fun content => if_neg other
    rw [inductionHypothesis, live_cons goesOn, Segment.ofTokens]
    split
    · rw [List.filterMap_cons_none (blockless _), List.append_assoc, List.filterMap_cons,
        deferred?_eq_of_tag token (List.takeWhile _ _)]
      cases Segment.deferred? ⟨token, []⟩ <;> rfl
    · rename_i unopened
      rw [deferred?_of_unopened (by simpa using unopened), Option.toList_none, List.append_nil]

/-- One pass reads the tree of the segments. -/
theorem read_eq_parse (mode : Line.Reconstruction) (source : String) (tokens : List Token) :
    read mode source tokens = parse mode source tokens := by
  rw [read, parse, readTags_eq, ofTokens_live_skip leads_unopened]
  simp

end Tree
end Ritual
