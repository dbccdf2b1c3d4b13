import Ritual.Proofs.Analysis.Gate
import Ritual.Proofs.Canon.Invariant
import Ritual.Proofs.Invocation.View
import Ritual.Proofs.Lexeme.Forms

namespace Ritual

/-!
# Invocations are read as they are written

The scanner reads names without a colon, and the view parts an invocation at its first
colon.  So the view of an invocation token of a source is the text again, and a school and
an operation that are written down with their colons are read back.  A ritual that invokes
what its canon lists therefore compiles.
-/

namespace Invocation

/-- A token of a source is viewed as an invocation exactly if it is one, and the view is
its text, parted at the only colon behind the two leading ones. -/
theorem view_of_tokenize {source : String} {token : Token}
    (listed : token ∈ Token.tokenize source) :
    ((ofToken? token).isSome = true ↔ token.kind = .schoolInvocation) ∧
      ∀ invocation, ofToken? token = some invocation → token.text = invocation.text ∧
        ':' ∉ invocation.school.toList ∧ ':' ∉ invocation.operation.toList := by
  constructor
  · constructor
    · intro viewed
      rcases Option.isSome_iff_exists.mp viewed with ⟨invocation, found⟩
      exact (ofToken?_eq_some found).1
    · intro kind
      rcases exists_ofToken? listed kind with ⟨invocation, found, _⟩
      rw [found]
      rfl
  · intro invocation found
    rcases exists_named listed (ofToken?_eq_some found).1 with
      ⟨named, view, spelled, schoolNamed, operationNamed⟩
    obtain rfl := Option.some.inj (view.symm.trans found)
    exact ⟨spelled, no_colon_of_named schoolNamed, no_colon_of_named operationNamed⟩

variable {school operation : String}

theorem ofToken?_of_text {token : Token} (kind : token.kind = .schoolInvocation)
    (spelled : token.text = "::" ++ school ++ ":" ++ operation)
    (schoolNamed : Lexeme.IsName school.toList) :
    ofToken? token = some ⟨school, operation, token.location⟩ := by
  have parts : token.text.toList = ':' :: ':' :: (school.toList ++ ':' :: operation.toList) := by
    rw [spelled]
    simp
  rw [ofToken?, if_pos kind, parts, names?_of_named schoolNamed]
  simp

/-- Two names that are written as an invocation are read as that invocation. -/
theorem exists_tokenize_text (schoolNamed : Lexeme.IsName school.toList)
    (operationNamed : Lexeme.IsName operation.toList) :
    ∃ token ending, Token.tokenize ("::" ++ school ++ ":" ++ operation) = [token, ending] ∧
      token.kind = .schoolInvocation ∧ ending.kind = .eof ∧
      ofToken? token = some ⟨school, operation, ⟨1, 1⟩⟩ := by
  let lexeme := Lexeme.verbatim .schoolInvocation
    (':' :: ':' :: (school.toList ++ ':' :: operation.toList))
  have stands : Lexeme.Stands lexeme [] :=
    .schoolInvocation schoolNamed operationNamed (Lexeme.stops_nil _)
  have spelled : ("::" ++ school ++ ":" ++ operation).toList = lexeme.raw ++ [] := by
    simp [lexeme]
  have tokens : Token.tokenize ("::" ++ school ++ ":" ++ operation) =
      [Token.ofLexeme .start lexeme,
        Token.endOfSource (Source.Position.start.after lexeme.raw)] := by
    rw [Token.tokenize, spelled, Token.streamFrom_stands _ stands, Token.streamFrom_nil]
  have text : (Token.ofLexeme .start lexeme).text = "::" ++ school ++ ":" ++ operation := by
    apply String.toList_injective
    simp [Token.ofLexeme, lexeme]
  exact ⟨_, _, tokens, rfl, rfl, ofToken?_of_text rfl text schoolNamed⟩

end Invocation

namespace Analysis

/-- An operation that its school lists violates nothing. -/
theorem checkInvocation_of_listed {rules : CanonRules} (coherent : rules.Coherent)
    {invocation : Invocation} {names : NameSet}
    (found : rules.operationsFor invocation.school = some names)
    (listed : Text.lowercase invocation.operation ∈ names) :
    checkInvocation rules invocation = none := by
  have lists : rules.schoolOperations.Lists (Text.lowercase invocation.school)
      (Text.lowercase invocation.operation) := ⟨names, found, listed⟩
  have known : rules.hasSchool invocation.school = true := by
    apply decide_eq_true
    apply coherent.keys
    rw [show rules.schoolOperations.get? (Text.lowercase invocation.school) = some names from found]
    rfl
  have operation : rules.hasOperation invocation.operation = true :=
    decide_eq_true ((coherent.operations _).mpr ⟨_, lists⟩)
  simp only [checkInvocation, known, operation, found, listed, Bool.not_true, if_true,
    Bool.false_eq_true, if_false]

end Analysis

namespace Compilation

/-- An invocation that stands alone compiles under rules that list it. -/
theorem compileSource_of_listed {rules : CanonRules} (coherent : rules.Coherent)
    {school operation : String} (schoolNamed : Lexeme.IsName school.toList)
    (operationNamed : Lexeme.IsName operation.toList) {names : NameSet}
    (found : rules.operationsFor school = some names)
    (listed : Text.lowercase operation ∈ names) (mode : Line.Reconstruction) :
    compileSource (some rules) mode ("::" ++ school ++ ":" ++ operation) =
      .ok ⟨Schema.currentVersion, []⟩ := by
  rcases Invocation.exists_tokenize_text schoolNamed operationNamed with
    ⟨token, ending, tokens, kind, ends, view⟩
  have blocks : (Tree.parse mode ("::" ++ school ++ ":" ++ operation) [token, ending]).blocks =
      [] := by
    simp [Tree.parse, Tree.live, Segment.ofTokens, kind, ends, TokenKind.opensBlock]
  have noView : Invocation.ofToken? ending = none := by
    rw [Invocation.ofToken?, ends]
    rfl
  have accepted : Analysis.checkInvocation rules ⟨school, operation, ⟨1, 1⟩⟩ = none :=
    Analysis.checkInvocation_of_listed coherent found listed
  have none : Analysis.violations rules [] [token, ending] = [] := by
    simp [Analysis.violations, Invocation.ofTokens, view, noView, accepted]
  rw [compileSource_some, tokens, blocks, none, Schema.ofTree, blocks]
  rfl

end Compilation

namespace Invocation

/-- The invocation tokens of a source, and no others, are viewed as the invocations that
their texts are.  Every two names, also empty ones, are read back from their invocation,
which compiles wherever a canon lists it. -/
theorem text_round_trip :
    (∀ source, ∀ token ∈ Token.tokenize source,
        ((ofToken? token).isSome = true ↔ token.kind = .schoolInvocation) ∧
          ∀ invocation, ofToken? token = some invocation →
            token.text = "::" ++ invocation.school ++ ":" ++ invocation.operation ∧
              ':' ∉ invocation.school.toList ∧ ':' ∉ invocation.operation.toList) ∧
      ∀ school operation : String, Lexeme.IsName school.toList → Lexeme.IsName operation.toList →
        (∃ token ending, Token.tokenize ("::" ++ school ++ ":" ++ operation) = [token, ending] ∧
            token.kind = .schoolInvocation ∧ ending.kind = .eof ∧
            ofToken? token = some ⟨school, operation, ⟨1, 1⟩⟩) ∧
          ∀ rules : CanonRules, rules.Reachable → ∀ names,
            rules.operationsFor school = some names → Text.lowercase operation ∈ names →
              ∀ mode, Compilation.compileSource (some rules) mode
                ("::" ++ school ++ ":" ++ operation) = .ok ⟨"1.0", []⟩ := by
  refine ⟨fun source token listed => view_of_tokenize listed, ?_⟩
  intro school operation schoolNamed operationNamed
  refine ⟨exists_tokenize_text schoolNamed operationNamed, ?_⟩
  intro rules reachable names found listed mode
  exact Compilation.compileSource_of_listed reachable.coherent schoolNamed operationNamed found
    listed mode

/-- A school without a name and an operation that is written in another case than in the
canon. -/
theorem text_round_trip_nameless :
    (∃ token ∈ Token.tokenize "x ::é:½-_ y", token.kind = .schoolInvocation ∧
        (ofToken? token).isSome = true) ∧
      Compilation.compileSource (some (CanonRules.empty.withSchool "" ["Ignite"])) .source
        ("::" ++ "" ++ ":" ++ "IGNITE") = .ok ⟨"1.0", []⟩ := by
  constructor
  · have listed : ⟨.schoolInvocation, "::é:½-_", ⟨1, 3⟩, ⟨2, 11⟩⟩ ∈
        Token.tokenize "x ::é:½-_ y" := by
      decide +kernel
    exact ⟨_, listed, rfl, (text_round_trip.1 _ _ listed).1.mpr rfl⟩
  · have schoolNamed : Lexeme.IsName "".toList := List.all_eq_true.mp (by decide)
    have operationNamed : Lexeme.IsName "IGNITE".toList := List.all_eq_true.mp (by decide)
    have reachable := CanonRules.Reachable.empty.withSchool "" ["Ignite"]
    exact (text_round_trip.2 _ _ schoolNamed operationNamed).2 _ reachable
      (NameSet.ofList ["ignite"]) (by decide +kernel) (by decide +kernel) .source

end Invocation
end Ritual
