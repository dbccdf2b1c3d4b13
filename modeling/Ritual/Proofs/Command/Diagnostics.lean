import Ritual.Proofs.Command.Output
import Ritual.Proofs.Command.TokenDump

namespace Ritual
namespace Command

/-!
# Diagnostics

Three flags are for who watches a compilation: the format of errors, quietness, and the
dump of the tokens.  What is compiled is a target, which these flags do not change, and
the exit code and the output are functions of the target and the surroundings alone.  They
do not depend on the clock, which only the log lines beside the output show.

The dump is more than a line that is written, since it reads the ritual for itself and
ends the run if it cannot.  This is seen in nothing that the run leaves behind.  It has a
heading, one line for every token, and their number, and no log line, so a run with it and
one without it read the clock alike.
-/

/-- What a compilation is asked for. -/
structure Target where
  ritual : String
  canon : Option String
  mode : Line.Reconstruction
deriving DecidableEq, Repr

/-- The target of a request, if it is for a compilation. -/
def Request.target? (request : Request) : Option Target :=
  match request.action with
  | .compile ritual mode _ => some ⟨ritual, request.canon, mode⟩
  | .tokens _ | .canon | .usage => none

/-- The target of a command line, if it is accepted and asks for a compilation. -/
def target? (environment : Option String) (arguments : List String) : Option Target :=
  match Request.ofArguments environment arguments with
  | .ok request => request.target?
  | .error _ => none

/-- Whether a flag is for who watches. -/
def Flag.isDiagnostic : Flag → Bool
  | output | quiet | debugTokens => true
  | canon | reconstruct | help | version => false

/-! ## From a target to the reading -/

section

variable {environment : Option String} {arguments : List String} {request : Request}
  {target : Target} {before behind : Options}

theorem canonAt_without {dropped : Flag → Bool} (options : Options)
    (kept : dropped .canon = false) :
    canonAt (options.without dropped) environment = canonAt options environment := by
  have same : (options.without dropped).canon = options.canon := by simp [Options.without, kept]
  unfold canonAt
  rw [same]

/-- The requests for a compilation, by what is given for them. -/
theorem requestOf_compile_eq_ok_iff :
    requestOf environment before .compile behind = .ok request ↔
      ∃ ritual canon other, behind.ritual = some ritual ∧
        canonAt behind environment = .ok canon ∧ canonAt before environment = .ok other ∧
        request = ⟨(behind.output <|> before.output).getD .text, before.quiet || behind.quiet,
          (canon <|> other) <|> environment,
          .compile ritual (behind.reconstruction.getD .source) behind.debugTokens⟩ := by
  rw [requestOf, actionOf]
  cases behind.ritual with
  | none => simp [bind, Except.bind]
  | some ritual =>
    cases canonAt behind environment with
    | error stop => simp [bind, Except.bind]
    | ok canon =>
      cases canonAt before environment with
      | error stop => simp [bind, Except.bind]
      | ok other => simp [bind, Except.bind, pure, Except.pure, eq_comm]

theorem eq_compile_of_target? {command : Name}
    (accepted : requestOf environment before command behind = .ok request)
    (asks : request.target? = some target) : command = .compile := by
  rcases bind_eq_ok.mp accepted with ⟨action, acts, places⟩
  rcases bind_eq_ok.mp places with ⟨canon, _, places⟩
  rcases bind_eq_ok.mp places with ⟨other, _, made⟩
  cases made
  cases command with
  | compile => rfl
  | tokens =>
    simp only [actionOf] at acts
    split at acts
    · cases acts
      cases asks
    · cases acts
  | canon =>
    cases acts
    cases asks

theorem exists_request_of_target? (asks : target? environment arguments = some target) :
    ∃ request, Request.ofArguments environment arguments = .ok request ∧
      request.target? = some target := by
  unfold target? at asks
  split at asks
  · rename_i request accepted
    exact ⟨request, accepted, asks⟩
  · cases asks

theorem exists_understood_of_target? (asks : target? environment arguments = some target) :
    ∃ before behind request, Understood arguments before .compile behind ∧
      requestOf environment before .compile behind = .ok request ∧
      request.target? = some target := by
  rcases exists_request_of_target? asks with ⟨request, accepted, asks⟩
  have compiles : request.action ≠ .usage := by
    intro usage
    rw [Request.target?, usage] at asks
    cases asks
  rcases exists_understood accepted compiles with ⟨before, command, behind, understood, accepted⟩
  obtain rfl := eq_compile_of_target? accepted asks
  exact ⟨before, behind, request, understood, accepted, asks⟩

theorem Understood.target?_eq {command : Name}
    (understood : Understood arguments before command behind)
    (accepted : requestOf environment before command behind = .ok request) :
    target? environment arguments = request.target? := by
  rw [target?, understood.ofArguments_eq, accepted]

/-- A command line for a compilation is accepted without diagnostics, for the same target. -/
theorem target?_withoutFlags (asks : target? environment arguments = some target) :
    target? environment (withoutFlags Flag.isDiagnostic arguments) = some target := by
  rcases exists_understood_of_target? asks with
    ⟨before, behind, request, understood, accepted, asks⟩
  rcases requestOf_compile_eq_ok_iff.mp accepted with
    ⟨ritual, canon, other, given, chosen, outer, rfl⟩
  rw [← canonAt_without _ (rfl : Flag.isDiagnostic .canon = false)] at chosen outer
  have plain : requestOf environment (before.without Flag.isDiagnostic) .compile
      (behind.without Flag.isDiagnostic) = .ok _ :=
    requestOf_compile_eq_ok_iff.mpr ⟨ritual, canon, other, given, chosen, outer, rfl⟩
  rw [(understood.without Flag.isDiagnostic).target?_eq plain, ← asks]
  rfl

end

/-! ## The result of a target -/

section

variable {surroundings : Surroundings} {arguments : List String} {request : Request}
  {target : Target}

/-- The exit code and the output of the compilation of a target. -/
def Target.result (surroundings : Surroundings) (target : Target) : Nat × String :=
  match Compilation.compile surroundings.read (canonLocation surroundings target.canon)
      target.mode target.ritual with
  | .ok schema => (0, schema.toJson.document)
  | .error _ => (1, "")

theorem compile_result {ritual : String} {mode : Line.Reconstruction} {debugTokens : Bool} :
    ((compile surroundings request ritual mode debugTokens).code,
        (compile surroundings request ritual mode debugTokens).output) =
      Target.result surroundings ⟨ritual, request.canon, mode⟩ := by
  cases compiles : compilation surroundings request ritual mode with
  | ok schema =>
    rcases compile_of_ok compiles with ⟨errors, outcome⟩
    rw [compilation] at compiles
    rw [outcome, Target.result, compiles]
    rfl
  | error error =>
    rcases compile_of_error compiles with ⟨errors, outcome⟩
    rw [compilation] at compiles
    rw [outcome, Target.result, compiles]
    rfl

theorem Request.action_of_target? (asks : request.target? = some target) :
    ∃ debugTokens, request.action = .compile target.ritual target.mode debugTokens ∧
      request.canon = target.canon := by
  unfold target? at asks
  split at asks
  · rename_i ritual mode debugTokens action
    cases asks
    exact ⟨debugTokens, action, rfl⟩
  all_goals cases asks

theorem run_result (asks : target? surroundings.canonPath arguments = some target) :
    ((run surroundings arguments).code, (run surroundings arguments).output) =
      target.result surroundings := by
  rcases exists_request_of_target? asks with ⟨request, accepted, asks⟩
  rcases Request.action_of_target? asks with ⟨debugTokens, action, canon⟩
  rw [run_of_accepted accepted, perform, action]
  simp only [compile_result, canon]

/-! ## What is written beside the output -/

theorem errors_compileAfter (ritual : String) (mode : Line.Reconstruction) (written : String) :
    (compileAfter surroundings request ritual mode written).errors =
      written ++ (compileAfter surroundings request ritual mode "").errors := by
  simp only [compileAfter]
  split
  · simp [Outcome.success]
  · simp [Outcome.failure, String.append_assoc]

/-- The dump of the tokens stands in front, if the ritual can be read. -/
theorem errors_compile_of_readable {ritual source : String} {mode : Line.Reconstruction}
    (readable : surroundings.read ritual = .ok source) :
    (compile surroundings request ritual mode true).errors =
      "=== TOKENS ===\n" ++
        String.join ((Token.tokenize source).map fun token => token.display ++ "\n") ++
        "TOTAL TOKENS: " ++ toString (Token.tokenize source).length ++ "\n" ++
        (compile surroundings request ritual mode false).errors := by
  have found := (Reader.ritual_eq_ok_iff ..).mpr readable
  have dumped : (compile surroundings request ritual mode true).errors =
      tokenDump source ++ (compile surroundings request ritual mode false).errors := by
    rw [compile, if_pos rfl, found]
    exact errors_compileAfter ritual mode (tokenDump source)
  rw [dumped, tokenDump, tokenLines]
  simp only [String.append_assoc]

/-- A dump that cannot be made leaves no trace. -/
theorem errors_compile_of_unreadable {ritual : String} {mode : Line.Reconstruction}
    {failure : ReadFailure} (unreadable : surroundings.read ritual = .error failure) :
    (compile surroundings request ritual mode true).errors =
      (compile surroundings request ritual mode false).errors := by
  cases found : surroundings.read.ritual ritual with
  | error error => rw [compile_of_unreadable found]
  | ok source =>
    rw [(Reader.ritual_eq_ok_iff ..).mp found] at unreadable
    cases unreadable

/-- The request of a command line with the flag that dumps tokens is that without it, but
for the flag. -/
theorem requests_of_inserted {front back : List String} {other : Target}
    (plain : target? surroundings.canonPath (front ++ back) = some target)
    (dumping : target? surroundings.canonPath (front ++ "--debug-tokens" :: back) = some other) :
    other = target ∧ ∃ format quiet,
      Request.ofArguments surroundings.canonPath (front ++ back) =
          .ok ⟨format, quiet, target.canon, .compile target.ritual target.mode false⟩ ∧
        Request.ofArguments surroundings.canonPath (front ++ "--debug-tokens" :: back) =
          .ok ⟨format, quiet, target.canon, .compile target.ritual target.mode true⟩ := by
  rcases exists_understood_of_target? plain with
    ⟨before, behind, request, understood, accepted, asks⟩
  rcases exists_understood_of_target? dumping with
    ⟨dumpBefore, dumpBehind, dumpRequest, dumpUnderstood, dumpAccepted, dumpAsks⟩
  have named : behind.ritual ≠ none := by
    rcases requestOf_compile_eq_ok_iff.mp accepted with ⟨ritual, _, _, given, _⟩
    simp [given]
  rcases dumpUnderstood.inserted understood named with ⟨dumps, rfl, rfl⟩
  rcases requestOf_compile_eq_ok_iff.mp dumpAccepted with
    ⟨ritual, canon, outerCanon, given, chosen, outer, rfl⟩
  -- the same canon is chosen without the flag, so both requests are made of the same parts
  rw [← canonAt_without dumpBehind (rfl : Flag.dumpsTokens .canon = false)] at chosen
  have plainRequest : requestOf surroundings.canonPath dumpBefore .compile
      (dumpBehind.without Flag.dumpsTokens) = .ok _ :=
    requestOf_compile_eq_ok_iff.mpr ⟨ritual, canon, outerCanon, given, chosen, outer, rfl⟩
  rw [plainRequest] at accepted
  cases accepted
  cases asks
  cases dumpAsks
  refine ⟨rfl, (dumpBehind.output <|> dumpBefore.output).getD .text,
    dumpBefore.quiet || dumpBehind.quiet, understood.ofArguments_eq.trans plainRequest, ?_⟩
  rw [dumpUnderstood.ofArguments_eq, dumpAccepted, dumps]
  rfl

end

/-- Diagnostic flags do not influence a compilation.  Whatever is given beside the target,
and at whatever times the runs take place, the exit code and the output are the same; without
the flags the target is the same; and the flag that dumps tokens, wherever it is added, puts
a heading, the lines of the tokens and their number in front of what is written beside the
output at the same readings of the clock, or nothing if the ritual cannot be read. -/
theorem run_ignores_diagnostics (surroundings : Surroundings) :
    (∀ first second target clock, target? surroundings.canonPath first = some target →
        target? surroundings.canonPath second = some target →
        (run surroundings first).code =
            (run { surroundings with clock := clock } second).code ∧
          (run surroundings first).output =
            (run { surroundings with clock := clock } second).output) ∧
      (∀ arguments target, target? surroundings.canonPath arguments = some target →
        target? surroundings.canonPath (withoutFlags Flag.isDiagnostic arguments) = some target) ∧
      ∀ front back target other, target? surroundings.canonPath (front ++ back) = some target →
        target? surroundings.canonPath (front ++ "--debug-tokens" :: back) = some other →
        other = target ∧
          (∀ source, surroundings.read target.ritual = .ok source →
            (run surroundings (front ++ "--debug-tokens" :: back)).errors =
              "=== TOKENS ===\n" ++
                String.join ((Token.tokenize source).map fun token => token.display ++ "\n") ++
                "TOTAL TOKENS: " ++ toString (Token.tokenize source).length ++ "\n" ++
                (run surroundings (front ++ back)).errors) ∧
          ∀ failure, surroundings.read target.ritual = .error failure →
            (run surroundings (front ++ "--debug-tokens" :: back)).errors =
              (run surroundings (front ++ back)).errors := by
  refine ⟨?_, fun arguments target => target?_withoutFlags, ?_⟩
  · intro first second target clock asksFirst asksSecond
    have later : ((run { surroundings with clock := clock } second).code,
        (run { surroundings with clock := clock } second).output) =
          target.result surroundings :=
      run_result asksSecond
    have same := (run_result asksFirst).trans later.symm
    simpa only [Prod.mk.injEq] using same
  · intro front back target other plain dumping
    rcases requests_of_inserted plain dumping with ⟨same, format, quiet, accepted, dumps⟩
    rw [run_of_accepted accepted, run_of_accepted dumps]
    refine ⟨same, ?_, ?_⟩
    · intro source readable
      exact errors_compile_of_readable readable
    · intro failure unreadable
      exact errors_compile_of_unreadable unreadable

/-- A ritual that compiles at two times, with the flags at several places, and one that is
missing.  The log line that both runs write is the same, as they read the clock alike. -/
theorem run_ignores_diagnostics_placed :
    let source := "PYTHON::\nx"
    let tree : FileTree := ⟨[(["r"], .file source.toUTF8.toList)]⟩
    let surroundings : Surroundings :=
      ⟨tree.reader [], tree.isFile [], "/bin/codecraft", some "c", none,
        fun number => ⟨1000000000 + number, 250000⟩, fun _ => ""⟩
    let clock (number : Nat) : Log.Moment := ⟨1700000000 + number, 0⟩
    let placed := ["--quiet", "compile", "--debug-tokens", "r", "--output", "json"]
    let warning := "2001-09-09T01:46:40.000250Z  WARN " ++
      "canon rules not found; semantic validation disabled path=c\n"
    ((run surroundings ["r"]).code =
        (run { surroundings with clock := clock } placed).code ∧
      (run surroundings ["r"]).output =
        (run { surroundings with clock := clock } placed).output) ∧
    target? surroundings.canonPath (withoutFlags Flag.isDiagnostic placed) =
      some ⟨"r", some "c", .source⟩ ∧
    (run surroundings ["r"]).errors = warning ∧
    (run surroundings ["r", "--debug-tokens"]).errors =
      "=== TOKENS ===\n" ++
      "language_param     \"PYTHON::\" L1:C1\n" ++
      "newline            \"\\n\" L1:C9\n" ++
      "identifier         \"x\" L2:C1\n" ++
      "eof                \"\" L2:C2\n" ++
      "TOTAL TOKENS: 4\n" ++ warning ∧
    (run surroundings ["--debug-tokens", "s"]).errors = (run surroundings ["s"]).errors := by
  intro source tree surroundings clock placed warning
  have asks : target? surroundings.canonPath placed = some ⟨"r", some "c", .source⟩ := rfl
  have asksAlone : target? surroundings.canonPath ["r"] = some ⟨"r", some "c", .source⟩ := rfl
  have asksDump : target? surroundings.canonPath ["r", "--debug-tokens"] =
      some ⟨"r", some "c", .source⟩ := rfl
  have asksMissing : target? surroundings.canonPath ["s"] = some ⟨"s", some "c", .source⟩ := rfl
  have asksMissingDump : target? surroundings.canonPath ["--debug-tokens", "s"] =
      some ⟨"s", some "c", .source⟩ := rfl
  have readable : surroundings.read "r" = .ok source := by decide +kernel
  have missing : ∃ failure, surroundings.read "s" = .error failure := ⟨_, rfl⟩
  rcases missing with ⟨failure, missing⟩
  have warned : (run surroundings ["r"]).errors = warning := by decide +kernel
  rcases run_ignores_diagnostics surroundings with ⟨results, targets, dumps⟩
  rcases dumps ["r"] [] _ _ asksAlone asksDump with ⟨_, dumped, _⟩
  rcases dumps [] ["s"] _ _ asksMissing asksMissingDump with ⟨_, _, undumped⟩
  have listed := dumped source readable
  rw [show ["r"] ++ [] = ["r"] from rfl, warned] at listed
  exact ⟨results ["r"] placed _ clock asksAlone asks, targets placed _ asks, warned,
    listed.trans (by decide +kernel), undumped failure missing⟩

end Command
end Ritual
