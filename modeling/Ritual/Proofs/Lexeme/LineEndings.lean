import Ritual.Proofs.Lexeme.Kind
import Ritual.Proofs.Source.LineEndings

namespace Ritual
namespace Lexeme

/-!
# Lexemes before a carriage return

A carriage return continues no lexeme that a line feed ends, except those that are read
to the end of their line, and the selector of a web tag.  Such a lexeme takes the return,
and keeps its kind.
-/

/-- The lexeme with a carriage return at its end. -/
def withReturn (lexeme : Lexeme) : Lexeme :=
  ⟨lexeme.kind, lexeme.raw ++ ['\r'], lexeme.text ++ ['\r']⟩

@[simp] theorem withReturn_kind (lexeme : Lexeme) : lexeme.withReturn.kind = lexeme.kind :=
  rfl

@[simp] theorem withReturn_raw (lexeme : Lexeme) : lexeme.withReturn.raw = lexeme.raw ++ ['\r'] :=
  rfl

theorem withReturn_verbatim (kind : TokenKind) (raw : List Char) :
    (verbatim kind raw).withReturn = verbatim kind (raw ++ ['\r']) :=
  rfl

/-- The lexeme that ends a line. -/
def lineFeed : Lexeme :=
  verbatim .newline ['\n']

theorem Stands.eq_lineFeed {lexeme : Lexeme} {after : List Char} (stands : Stands lexeme after)
    (newline : lexeme.kind = .newline) : lexeme = lineFeed := by
  cases stands with
  | newline => rfl
  | comment _ _ => exact absurd newline (commentKind_ne rfl _)
  | _ => cases newline

/-- Whether lexemes of the kind may take a carriage return before a line feed. -/
def mayTakeReturn (kind : TokenKind) : Prop :=
  kind.isComment = true ∨ kind.opensBlock = true

theorem commentKind_append_return (chars : List Char) :
    commentKind (chars ++ ['\r']) = commentKind chars := by
  have noReturn : ∀ sigil ∈ sigils, '\r' ∉ sigil.1 := by decide
  have same : (sigils.find? fun sigil => sigil.1.isPrefixOf (chars ++ ['\r'])) =
      sigils.find? fun sigil => sigil.1.isPrefixOf chars := by
    apply List.find?_congr
    intro sigil listed
    have whole : sigil.1 ≠ chars ++ ['\r'] := by
      intro ends
      apply noReturn sigil listed
      simp [ends]
    rw [Bool.eq_iff_iff, List.isPrefixOf_iff_prefix, List.isPrefixOf_iff_prefix,
      List.prefix_concat_iff, or_iff_right whole]
  rw [commentKind, same, commentKind]

variable {property : Char → Bool}

theorem stops_return (outside : property '\r' = false) (rest : List Char) :
    Stops property ('\r' :: rest) :=
  stops_cons.mpr outside

theorem forall_append_return {run : List Char} (all : ∀ char ∈ run, property char = true)
    (inside : property '\r' = true) : ∀ char ∈ run ++ ['\r'], property char = true := by
  intro char listed
  rcases List.mem_append.mp listed with old | new
  · exact all char old
  · rw [List.mem_singleton.mp new, inside]

theorem head?_return_ne {mark : Char} (different : mark ≠ '\r') (rest : List Char) :
    ('\r' :: rest).head? ≠ some mark := by
  intro same
  exact different (Option.some.inj same).symm

/-- What ends at a line feed ends at the carriage return before it, or takes the return. -/
theorem Stands.before_return {lexeme : Lexeme} {rest : List Char}
    (stands : Stands lexeme ('\n' :: rest)) (other : List Char) :
    lexeme.kind.isComment = false ∧ Stands lexeme ('\r' :: '\n' :: other) ∨
      mayTakeReturn lexeme.kind ∧ Stands lexeme.withReturn ('\n' :: other) := by
  have lineFeed : Stops (· != '\n') ('\n' :: other) := stops_cons.mpr rfl
  cases stands with
  | newline => exact Or.inl ⟨rfl, .newline⟩
  | outputBinding => exact Or.inl ⟨rfl, .outputBinding⟩
  | dataBlockStart => exact Or.inl ⟨rfl, .dataBlockStart⟩
  | dataBlockEnd => exact Or.inl ⟨rfl, .dataBlockEnd⟩
  | tripleQuote => exact Or.inl ⟨rfl, .tripleQuote⟩
  | schoolInvocation schoolNamed operationNamed _ =>
    exact Or.inl ⟨rfl, .schoolInvocation schoolNamed operationNamed (stops_return (by decide) _)⟩
  | loneSchool schoolNamed _ _ =>
    exact Or.inl ⟨rfl, .loneSchool schoolNamed (stops_return (by decide) _)
      (head?_return_ne (by decide) _)⟩
  | closedString quoted body _ =>
    exact Or.inl ⟨rfl, .closedString quoted body fun _ _ => head?_return_ne (by decide) _⟩
  | @comment text _ oneLine _ =>
    refine Or.inr ⟨Or.inl (commentKind_isComment _), ?_⟩
    have kind := commentKind_append_return ('/' :: '/' :: text)
    rw [withReturn_verbatim, ← kind]
    exact .comment (forall_append_return oneLine (by decide)) lineFeed
  | wholeNumber nonempty numeric _ _ =>
    exact Or.inl ⟨rfl, .wholeNumber nonempty numeric (stops_return (by decide) _)
      (head?_return_ne (by decide) _)⟩
  | pointNumber nonempty numeric fractionNumeric _ =>
    exact Or.inl ⟨rfl, .pointNumber nonempty numeric fractionNumeric (stops_return (by decide) _)⟩
  | closedLanguage isWord tag inside => exact Or.inl ⟨rfl, .closedLanguage isWord tag inside⟩
  | openLanguage isWord tag inside _ =>
    refine Or.inr ⟨Or.inr rfl, ?_⟩
    rw [withReturn_verbatim, List.append_assoc, List.cons_append]
    refine .openLanguage isWord tag ?_ lineFeed
    intro char listed
    rcases List.mem_append.mp listed with old | new
    · exact inside char old
    · rw [List.mem_singleton.mp new]
      decide
  | web isWord tag selects _ =>
    refine Or.inr ⟨Or.inr rfl, ?_⟩
    rw [withReturn_verbatim, List.append_assoc, List.cons_append, List.cons_append]
    exact .web isWord tag (forall_append_return selects (by decide)) (stops_cons.mpr rfl)
  | quantum isWord tag oneLine _ =>
    refine Or.inr ⟨Or.inr rfl, ?_⟩
    rw [withReturn_verbatim, List.append_assoc, List.cons_append, List.cons_append]
    exact .quantum isWord tag (forall_append_return oneLine (by decide)) lineFeed
  | code isWord tag => exact Or.inl ⟨rfl, .code isWord tag⟩
  | identifier isWord _ _ =>
    refine Or.inl ⟨rfl, .identifier isWord (stops_return (by decide) _) ?_⟩
    intro tag _ marked
    cases tag with
    | language => exact absurd marked (by simp [TagWord.marker])
    | web => exact absurd marked (by simp [TagWord.marker])
    | quantum => exact absurd marked (by simp [TagWord.marker])
    | code => exact absurd marked (by simp [TagWord.marker])
  | unknown visible noSign noNumber noWord _ _ _ =>
    exact Or.inl ⟨rfl, .unknown visible noSign noNumber noWord
      (fun _ => head?_return_ne (by decide) _) (fun _ => head?_return_ne (by decide) _)
      (fun _ => head?_return_ne (by decide) _)⟩

/-- Behind anything but a line feed, returns before later line feeds continue nothing. -/
theorem continues_withReturns {chars : List Char} (noLineFeed : chars.head? ≠ some '\n') :
    Continues chars (Source.withReturns chars) := by
  cases chars with
  | nil => exact (MayFollow.nil []).toContinues
  | cons char rest =>
    have different : char ≠ '\n' := fun same => noLineFeed (congrArg some same)
    rw [Source.withReturns_cons different]
    constructor
    case head => exact fun _ found => Or.inr found
    case colons =>
      intro marked
      rw [List.cons_prefix_cons] at marked ⊢
      refine ⟨marked.1, ?_⟩
      cases rest with
      | nil => exact marked.2
      | cons next others =>
        by_cases lineFeed : next = '\n'
        · subst lineFeed
          exact absurd marked.2 (by simp)
        · rw [Source.withReturns_cons lineFeed, List.cons_prefix_cons] at marked
          exact List.cons_prefix_cons.mpr ⟨marked.2.1, List.nil_prefix⟩

/-- A comment ends at a line feed or with the source. -/
theorem Stands.after_comment {lexeme : Lexeme} {after : List Char} (stands : Stands lexeme after)
    (comment : lexeme.kind.isComment = true) : after = [] ∨ after.head? = some '\n' := by
  cases stands with
  | comment _ stops =>
    cases after with
    | nil => exact Or.inl rfl
    | cons char rest =>
      have lineFeed : char = '\n' := by simpa using stops_cons.mp stops
      exact Or.inr (congrArg some lineFeed)
  | _ => cases comment

/-- Only a line end and a literal may hold a line feed. -/
theorem Stands.oneLine {lexeme : Lexeme} {after : List Char} (stands : Stands lexeme after)
    (visible : lexeme.kind ≠ .newline) (noString : lexeme.kind ≠ .string) :
    '\n' ∉ lexeme.raw := by
  cases tag : lexeme.kind.opensBlock with
  | true => exact stands.oneLine_of_opensBlock tag
  | false =>
    cases stands with
    | newline => exact absurd rfl visible
    | outputBinding => decide
    | dataBlockStart => decide
    | dataBlockEnd => decide
    | tripleQuote => decide
    | schoolInvocation schoolNamed operationNamed _ =>
      simpa using And.intro (not_mem_of_outside (by decide) schoolNamed)
        (not_mem_of_outside (by decide) operationNamed)
    | loneSchool schoolNamed _ _ => simpa using not_mem_of_outside (by decide) schoolNamed
    | closedString _ _ _ => exact absurd rfl noString
    | openString _ _ => exact absurd rfl noString
    | brokenString _ _ => exact absurd rfl noString
    | comment oneLine _ => simpa using not_mem_of_outside (by decide) oneLine
    | wholeNumber _ numeric _ _ => exact not_mem_of_outside (by decide) numeric
    | pointNumber _ numeric fractionNumeric _ =>
      simpa using And.intro (not_mem_of_outside (by decide) numeric)
        (not_mem_of_outside (by decide) fractionNumeric)
    | closedLanguage _ _ _ => cases tag
    | openLanguage _ _ _ _ => cases tag
    | web _ _ _ _ => cases tag
    | quantum _ _ _ _ => cases tag
    | code _ _ => cases tag
    | identifier isWord _ _ => exact isWord.oneLine
    | @unknown char _ _ noSign _ _ _ _ _ =>
      intro listed
      rw [← List.mem_singleton.mp listed] at noSign
      cases noSign

end Lexeme
end Ritual
