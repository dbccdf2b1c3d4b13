import Ritual.Language
import Ritual.Proofs.Lexeme.Forms

namespace Ritual
namespace Language

/-!
# The attribute that names a language

The search for an attribute `lang` is described without reference to how it is made: what
an attribute is, and that the leftmost one counts.  The search finds exactly the value of
that one, whatever stands before it, and fails only where there is none.
-/

/-- An attribute, with its value.  Its two quotes need not be of one kind. -/
inductive IsAttribute : List Char → List Char → Prop where
  | mk {name before behind value : List Char} {opening closing : Char}
      (named : Lexeme.SpelledAs name "LANG")
      (blankBefore : ∀ char ∈ before, Text.isWhiteSpace char = true)
      (blankBehind : ∀ char ∈ behind, Text.isWhiteSpace char = true)
      (opens : opening = '"' ∨ opening = '\'') (closes : closing = '"' ∨ closing = '\'')
      (nonempty : value ≠ []) (wordChars : ∀ char ∈ value, Text.isWordChar char = true) :
      IsAttribute (name ++ (before ++ '=' :: (behind ++ opening :: (value ++ [closing])))) value

/-- Whether a text has an attribute with a value behind its first characters. -/
def HasAttribute (text front value : List Char) : Prop :=
  ∃ written rest, text = front ++ (written ++ rest) ∧ IsAttribute written value

/-- Whether a value is that of the attribute with the fewest characters before it. -/
def HasLeftmost (text value : List Char) : Prop :=
  ∃ front, HasAttribute text front value ∧
    ∀ other otherValue, HasAttribute text other otherValue → front.length ≤ other.length

/-! ## An attribute at the beginning -/

theorem isQuote_iff {char : Char} : isQuote char = true ↔ char = '"' ∨ char = '\'' := by
  simp only [isQuote, Bool.or_eq_true, beq_iff_eq]

theorem not_whiteSpace_of_quote {char : Char} (quote : char = '"' ∨ char = '\'') :
    Text.isWhiteSpace char = false := by
  rcases quote with rfl | rfl
  · decide
  · decide

theorem not_wordChar_of_quote {char : Char} (quote : char = '"' ∨ char = '\'') :
    Text.isWordChar char = false := by
  rcases quote with rfl | rfl
  · decide
  · decide

theorem beginsWith_eq_isPrefixOf (word chars : List Char) :
    beginsWith word chars = word.isPrefixOf (chars.map Char.toUpper) := by
  rw [Bool.eq_iff_iff, List.isPrefixOf_iff_prefix, List.prefix_iff_eq_take, ← List.map_take,
    beginsWith, beq_iff_eq, eq_comm]

/-- The rest of a text is what stands behind the word, in any ASCII case. -/
theorem stripWord?_eq_some_iff {capitals chars rest : List Char} :
    stripWord? capitals chars = some rest ↔
      ∃ name, chars = name ++ rest ∧ name.map Char.toUpper = capitals := by
  constructor
  · intro stripped
    unfold stripWord? at stripped
    split at stripped
    · rename_i begins
      obtain rfl := Option.some.inj stripped
      exact ⟨chars.take capitals.length, (List.take_append_drop _ _).symm, by
        simpa [beginsWith] using begins⟩
    · cases stripped
  · rintro ⟨name, rfl, rfl⟩
    have begins : beginsWith (name.map Char.toUpper) (name ++ rest) = true := by
      rw [beginsWith_eq_isPrefixOf, List.map_append, List.isPrefixOf_iff_prefix]
      exact List.prefix_append _ _
    rw [stripWord?, if_pos begins, List.length_map, List.drop_left]

theorem spelledAs_iff {word : List Char} {capitals : String} :
    Lexeme.SpelledAs word capitals ↔ word.map Char.toUpper = capitals.toList := by
  rw [Lexeme.SpelledAs, ← String.toList_inj, String.toList_ofList]

theorem IsAttribute.attributeHere?_append {written value : List Char}
    (isAttribute : IsAttribute written value) (rest : List Char) :
    attributeHere? (written ++ rest) = some value := by
  cases isAttribute with
  | @mk name before behind _ opening closing named blankBefore blankBehind opens closes nonempty
      wordChars =>
    have whole : name ++ (before ++ '=' :: (behind ++ opening :: (value ++ [closing]))) ++ rest =
        name ++ (before ++ '=' :: (behind ++ opening :: (value ++ closing :: rest))) := by
      simp
    have capitals : name.map Char.toUpper = ['L', 'A', 'N', 'G'] := spelledAs_iff.mp named
    have stripped := stripWord?_eq_some_iff.mpr ⟨name, whole, capitals⟩
    have sign : Lexeme.Stops Text.isWhiteSpace
        ('=' :: (behind ++ opening :: (value ++ closing :: rest))) :=
      Lexeme.stops_cons.mpr (by decide)
    have openingQuote : Lexeme.Stops Text.isWhiteSpace (opening :: (value ++ closing :: rest)) :=
      Lexeme.stops_cons.mpr (not_whiteSpace_of_quote opens)
    have closingQuote : Lexeme.Stops Text.isWordChar (closing :: rest) :=
      Lexeme.stops_cons.mpr (not_wordChar_of_quote closes)
    have hasValue : value.isEmpty = false := List.isEmpty_eq_false_iff.mpr nonempty
    rw [attributeHere?, stripped]
    simp only [Option.bind_eq_bind, Option.bind_some,
      Lexeme.dropWhile_of_stops blankBefore sign,
      Lexeme.dropWhile_of_stops blankBehind openingQuote,
      Lexeme.takeWhile_of_stops wordChars closingQuote,
      Lexeme.dropWhile_of_stops wordChars closingQuote,
      isQuote_iff.mpr opens, isQuote_iff.mpr closes, hasValue, Bool.and_self, Bool.not_false,
      if_true]

theorem exists_of_attributeHere? {chars value : List Char}
    (found : attributeHere? chars = some value) :
    ∃ written rest, chars = written ++ rest ∧ IsAttribute written value := by
  rcases Option.bind_eq_some_iff.mp found with ⟨afterName, stripped, signed⟩
  rcases stripWord?_eq_some_iff.mp stripped with ⟨name, rfl, named⟩
  rcases Lexeme.exists_run Text.isWhiteSpace afterName with
    ⟨before, afterBlank, rfl, blankBefore, stops⟩
  rw [Lexeme.dropWhile_of_stops blankBefore stops] at signed
  split at signed
  case h_2 => cases signed
  case h_1 afterSign =>
    rcases Lexeme.exists_run Text.isWhiteSpace afterSign with
      ⟨behind, quoted, rfl, blankBehind, quotedStops⟩
    rw [Lexeme.dropWhile_of_stops blankBehind quotedStops] at signed
    cases quoted with
    | nil => cases signed
    | cons opening inside =>
      rcases Lexeme.exists_run Text.isWordChar inside with
        ⟨word, ending, rfl, wordChars, endingStops⟩
      simp only [Lexeme.takeWhile_of_stops wordChars endingStops,
        Lexeme.dropWhile_of_stops wordChars endingStops] at signed
      cases ending with
      | nil => cases signed
      | cons closing rest =>
        simp only [Option.ite_none_right_eq_some, Bool.and_eq_true, Bool.not_eq_true',
          List.isEmpty_eq_false_iff, isQuote_iff, Option.some.injEq] at signed
        rcases signed with ⟨⟨⟨opens, closes⟩, nonempty⟩, rfl⟩
        refine ⟨_, rest, ?_, .mk (spelledAs_iff.mpr named) blankBefore blankBehind opens
          closes nonempty wordChars⟩
        simp

/-! ## The leftmost attribute -/

section Search

variable {char : Char} {rest text front value : List Char}

theorem not_hasAttribute_nil : ¬HasAttribute [] front value := by
  rintro ⟨written, rest, parts, isAttribute⟩
  rcases List.append_eq_nil_iff.mp parts.symm with ⟨_, empty⟩
  rcases List.append_eq_nil_iff.mp empty with ⟨rfl, _⟩
  have found := isAttribute.attributeHere?_append []
  cases found

/-- An attribute of a text that begins with none begins further right. -/
theorem hasAttribute_cons (none : attributeHere? (char :: rest) = none) :
    HasAttribute (char :: rest) front value ↔
      ∃ later, front = char :: later ∧ HasAttribute rest later value := by
  constructor
  · rintro ⟨written, after, parts, isAttribute⟩
    cases front with
    | nil =>
      rw [parts, List.nil_append, isAttribute.attributeHere?_append] at none
      cases none
    | cons first later =>
      rcases List.cons.inj parts with ⟨rfl, behind⟩
      exact ⟨later, rfl, written, after, behind, isAttribute⟩
  · rintro ⟨later, rfl, written, after, rfl, isAttribute⟩
    exact ⟨written, after, rfl, isAttribute⟩

theorem hasLeftmost_cons (none : attributeHere? (char :: rest) = none) :
    HasLeftmost (char :: rest) value ↔ HasLeftmost rest value := by
  simp only [HasLeftmost, hasAttribute_cons none]
  constructor
  · rintro ⟨_, ⟨later, rfl, here⟩, leftmost⟩
    refine ⟨later, here, ?_⟩
    intro other otherValue found
    exact Nat.le_of_succ_le_succ (leftmost _ otherValue ⟨other, rfl, found⟩)
  · rintro ⟨later, here, leftmost⟩
    refine ⟨_, ⟨later, rfl, here⟩, ?_⟩
    rintro _ otherValue ⟨other, rfl, found⟩
    exact Nat.succ_le_succ (leftmost other otherValue found)

/-- Of a text that begins with an attribute, this is the leftmost. -/
theorem hasLeftmost_of_here {here : List Char} (found : attributeHere? text = some here) :
    HasLeftmost text value ↔ value = here := by
  rcases exists_of_attributeHere? found with ⟨written, rest, rfl, isAttribute⟩
  constructor
  · rintro ⟨front, ⟨other, after, parts, otherIs⟩, leftmost⟩
    have first := leftmost [] here ⟨written, rest, rfl, isAttribute⟩
    obtain rfl := List.length_eq_zero_iff.mp (Nat.le_zero.mp first)
    rw [parts, List.nil_append, otherIs.attributeHere?_append] at found
    exact Option.some.inj found
  · rintro rfl
    exact ⟨[], ⟨written, rest, rfl, isAttribute⟩, fun _ _ _ => Nat.zero_le _⟩

/-- The search finds the value of the leftmost attribute, and no other. -/
theorem attribute?_eq_some_iff : attribute? text = some value ↔ HasLeftmost text value := by
  induction text with
  | nil =>
    refine iff_of_false (by simp [attribute?]) ?_
    rintro ⟨front, here, _⟩
    exact not_hasAttribute_nil here
  | cons char rest inductionHypothesis =>
    rw [attribute?]
    cases found : attributeHere? (char :: rest) with
    | none => exact inductionHypothesis.trans (hasLeftmost_cons found).symm
    | some here =>
      rw [hasLeftmost_of_here found, Option.some.injEq, eq_comm]

/-- The search fails only where there is no attribute. -/
theorem attribute?_eq_none_iff :
    attribute? text = none ↔ ∀ front value, ¬HasAttribute text front value := by
  induction text with
  | nil => exact iff_of_true rfl fun front value => not_hasAttribute_nil
  | cons char rest inductionHypothesis =>
    rw [attribute?]
    cases found : attributeHere? (char :: rest) with
    | none =>
      simp only [inductionHypothesis, hasAttribute_cons found]
      constructor
      · rintro none _ value ⟨later, _, here⟩
        exact none later value here
      · intro none later value here
        exact none _ value ⟨later, rfl, here⟩
    | some here =>
      rcases exists_of_attributeHere? found with ⟨written, after, parts, isAttribute⟩
      refine iff_of_false (by simp) ?_
      intro none
      exact none [] here ⟨written, after, parts, isAttribute⟩

end Search

end Language
end Ritual
