import Mathlib.Data.List.Basic
import Ritual.Command.Run
import Ritual.FileTree
import Ritual.Proofs.Json.Quoted
import Ritual.Proofs.Schema.Printed

namespace Ritual

/-!
# What a run leaves on the output

A run that was understood either succeeds, or fails and leaves nothing on the output.
Which of the two happens to a command is said here without the command: by what a
compilation of the ritual gives, by whether the ritual can be read, or by whether there
is a canon at the place that is chosen.  A compilation that succeeds leaves its document,
line by line.  Nothing is assumed of the files, which any reader may give, of the
environment, of the clock, and of the words of the argument parser.
-/

namespace Reader

/-- A ritual can be read exactly if there is a text at its path. -/
theorem ritual_eq_ok_iff (reader : Reader) (path text : String) :
    reader.ritual path = .ok text ↔ reader path = .ok text := by
  rw [ritual]
  cases reader path with
  | ok found => simp
  | error failure =>
    by_cases missing : failure.kind = .notFound
    · simp [missing]
    · simp [missing]

end Reader

namespace CanonLocation

/-- Whether there is a canon at a place: a text that holds a canon document, which is read
from the file or is at hand. -/
def HoldsCanon (reader : Reader) : CanonLocation → Prop
  | file path => ∃ text document, reader path = .ok text ∧ CanonDocument.ofYaml text = .ok document
  | shipped => ∃ document, CanonDocument.ofYaml CanonDocument.shippedText = .ok document

/-- A text gives rules exactly if it holds a canon document. -/
theorem exists_rulesOf_iff (place text : String) :
    (∃ rules, rulesOf place text = .ok (some rules)) ↔
      ∃ document, CanonDocument.ofYaml text = .ok document := by
  rw [rulesOf, CanonRules.ofYaml]
  cases CanonDocument.ofYaml text with
  | error refusal => simp [Except.map]
  | ok document => simp [Except.map]

/-- There are rules exactly where there is a canon. -/
theorem exists_load_iff (reader : Reader) (location : CanonLocation) :
    (∃ rules, location.load reader = .ok (some rules)) ↔ location.HoldsCanon reader := by
  cases location with
  | shipped => exact exists_rulesOf_iff _ _
  | file path =>
    rw [load, loadFile, HoldsCanon]
    cases reader path with
    | error failure =>
      by_cases missing : failure.kind = .notFound
      · simp [missing]
      · simp [missing]
    | ok text => simp [exists_rulesOf_iff]

end CanonLocation

namespace Command

variable {surroundings : Surroundings} {arguments : List String} {request : Request}

namespace Outcome

/-- Whether an outcome is a success if something holds, and else a failure that leaves
nothing on the output. -/
def SucceedsIff (outcome : Outcome) (condition : Prop) : Prop :=
  condition ∧ outcome.code = 0 ∨ ¬condition ∧ outcome.code = 1 ∧ outcome.output = ""

theorem succeedsIff_success {condition : Prop} (holds : condition) (output errors : String) :
    (success output errors).SucceedsIff condition :=
  Or.inl ⟨holds, rfl⟩

theorem succeedsIff_failure {condition : Prop} (fails : ¬condition) (errors : String) :
    (failure errors).SucceedsIff condition :=
  Or.inr ⟨fails, rfl, rfl⟩

variable {outcome : Outcome} {condition : Prop}

theorem SucceedsIff.code_eq_zero_iff (succeeds : outcome.SucceedsIff condition) :
    outcome.code = 0 ↔ condition := by
  rcases succeeds with ⟨holds, zero⟩ | ⟨fails, one, _⟩
  · exact iff_of_true zero holds
  · exact iff_of_false (by omega) fails

theorem SucceedsIff.output_eq_empty (succeeds : outcome.SucceedsIff condition)
    (one : outcome.code = 1) : outcome.output = "" := by
  rcases succeeds with ⟨_, zero⟩ | ⟨_, _, empty⟩
  · omega
  · exact empty

end Outcome

/-! ## One command -/

/-- The compilation that a compile command asks for. -/
def compilation (surroundings : Surroundings) (request : Request) (ritual : String)
    (mode : Line.Reconstruction) : Except RitualError Schema :=
  Compilation.compile surroundings.read (canonLocation surroundings request.canon) mode ritual

section

variable {ritual : String} {mode : Line.Reconstruction} {debugTokens : Bool}

/-- A dump that cannot read the ritual fails as the compilation does without it. -/
theorem compile_of_unreadable {error : RitualError}
    (unreadable : surroundings.read.ritual ritual = .error error) :
    compile surroundings request ritual mode true =
      compile surroundings request ritual mode false := by
  have fails : Compilation.compile surroundings.read (canonLocation surroundings request.canon)
      mode ritual = .error error := by
    rw [Compilation.compile, unreadable]
    rfl
  have silent : Log.ofCompilation surroundings.read (canonLocation surroundings request.canon)
      mode ritual = [] := by
    rw [Log.ofCompilation, unreadable]
  simp only [compile, if_true, unreadable, Bool.false_eq_true, if_false, compileAfter, fails,
    silent]
  rfl

/-- A dump of the tokens is written, or nothing, before the compilation starts. -/
theorem exists_compileAfter (surroundings : Surroundings) (request : Request) (ritual : String)
    (mode : Line.Reconstruction) (debugTokens : Bool) :
    ∃ written, compile surroundings request ritual mode debugTokens =
      compileAfter surroundings request ritual mode written := by
  cases debugTokens with
  | false => exact ⟨"", rfl⟩
  | true =>
    cases found : surroundings.read.ritual ritual with
    | error error => exact ⟨"", compile_of_unreadable found⟩
    | ok source => exact ⟨tokenDump source, by rw [compile, if_pos rfl, found]⟩

theorem compile_of_ok {schema : Schema}
    (compiles : compilation surroundings request ritual mode = .ok schema) :
    ∃ errors, compile surroundings request ritual mode debugTokens =
      .success schema.toJson.document errors := by
  rcases exists_compileAfter surroundings request ritual mode debugTokens with ⟨written, same⟩
  rw [compilation] at compiles
  simp only [same, compileAfter, compiles]
  exact ⟨_, rfl⟩

theorem compile_of_error {error : RitualError}
    (fails : compilation surroundings request ritual mode = .error error) :
    ∃ errors, compile surroundings request ritual mode debugTokens = .failure errors := by
  rcases exists_compileAfter surroundings request ritual mode debugTokens with ⟨written, same⟩
  rw [compilation] at fails
  simp only [same, compileAfter, fails]
  exact ⟨_, rfl⟩

theorem compile_succeedsIff :
    (compile surroundings request ritual mode debugTokens).SucceedsIff
      (∃ schema, compilation surroundings request ritual mode = .ok schema) := by
  cases compiles : compilation surroundings request ritual mode with
  | ok schema =>
    rcases compile_of_ok compiles with ⟨errors, outcome⟩
    rw [outcome]
    exact Outcome.succeedsIff_success ⟨schema, rfl⟩ _ _
  | error error =>
    rcases compile_of_error compiles with ⟨errors, outcome⟩
    rw [outcome]
    exact Outcome.succeedsIff_failure (by simp) _

end

theorem tokens_succeedsIff (ritual : String) :
    (tokens surroundings request ritual).SucceedsIff
      (∃ text, surroundings.read ritual = .ok text) := by
  simp only [← Reader.ritual_eq_ok_iff, tokens]
  cases surroundings.read.ritual ritual with
  | error error => exact Outcome.succeedsIff_failure (by simp) _
  | ok text =>
    cases request.format with
    | text => exact Outcome.succeedsIff_success ⟨text, rfl⟩ _ _
    | json => exact Outcome.succeedsIff_success ⟨text, rfl⟩ _ _

theorem canon_succeedsIff :
    (canon surroundings request).SucceedsIff
      ((canonLocation surroundings request.canon).HoldsCanon surroundings.read) := by
  rw [← CanonLocation.exists_load_iff]
  simp only [canon]
  cases (canonLocation surroundings request.canon).load surroundings.read with
  | error error => exact Outcome.succeedsIff_failure (by simp) _
  | ok rules =>
    cases rules with
    | none => exact Outcome.succeedsIff_failure (by simp) _
    | some rules => exact Outcome.succeedsIff_success ⟨rules, rfl⟩ _ _

/-! ## All command lines -/

theorem run_of_accepted
    (accepted : Request.ofArguments surroundings.canonPath arguments = .ok request) :
    run surroundings arguments = perform surroundings request := by
  rw [run, accepted]

/-- Whatever a run is asked to do, it leaves nothing on the output if it fails. -/
theorem output_perform (failed : (perform surroundings request).code = 1) :
    (perform surroundings request).output = "" := by
  revert failed
  rw [perform]
  cases request.action with
  | compile ritual mode debugTokens => exact compile_succeedsIff.output_eq_empty
  | tokens ritual => exact (tokens_succeedsIff ritual).output_eq_empty
  | canon => exact canon_succeedsIff.output_eq_empty
  | usage => exact fun _ => rfl

theorem output_run (failed : (run surroundings arguments).code = 1) :
    (run surroundings arguments).output = "" := by
  revert failed
  rw [run]
  cases Request.ofArguments surroundings.canonPath arguments with
  | ok request => exact output_perform
  | error stop =>
    cases stop with
    | refused => exact fun _ => rfl
    | help => exact fun impossible => absurd impossible Nat.zero_ne_one
    | version => exact fun impossible => absurd impossible Nat.zero_ne_one

/-- A failure leaves nothing on the output.  A compile command succeeds exactly if its
ritual compiles, and then the document is the output, line by line, in which the code of each
block can be read back; the other commands succeed exactly if there is the ritual or the canon
that they ask for. -/
theorem run_succeeds_or_silent (surroundings : Surroundings) (arguments : List String) :
    ((run surroundings arguments).code = 1 → (run surroundings arguments).output = "") ∧
      ∀ request, Request.ofArguments surroundings.canonPath arguments = .ok request →
        (∀ ritual mode debugTokens, request.action = .compile ritual mode debugTokens →
          ((run surroundings arguments).code = 0 ↔
            ∃ schema, Compilation.compile surroundings.read
              (canonLocation surroundings request.canon) mode ritual = .ok schema) ∧
          ∀ schema, Compilation.compile surroundings.read
              (canonLocation surroundings request.canon) mode ritual = .ok schema →
            (run surroundings arguments).output = schema.toJson.pretty 0 ++ "\n" ∧
              (run surroundings arguments).output = schema.printed ∧
              ∀ block ∈ schema.blocks, ∀ rest : List Char,
                Json.readQuoted? ((Json.quoted block.code).toList ++ rest) =
                  some (block.code, rest)) ∧
        (∀ ritual, request.action = .tokens ritual →
          ((run surroundings arguments).code = 0 ↔
            ∃ text, surroundings.read ritual = .ok text)) ∧
        (request.action = .canon →
          ((run surroundings arguments).code = 0 ↔
            (canonLocation surroundings request.canon).HoldsCanon surroundings.read)) := by
  refine ⟨output_run, ?_⟩
  intro request accepted
  rw [run_of_accepted accepted, perform]
  refine ⟨?_, ?_, ?_⟩
  · intro ritual mode debugTokens asked
    simp only [asked]
    refine ⟨compile_succeedsIff.code_eq_zero_iff, ?_⟩
    intro schema compiles
    rcases compile_of_ok compiles with ⟨errors, outcome⟩
    rw [outcome, Outcome.success]
    exact ⟨rfl, Compilation.document_of_compile compiles,
      fun block _ rest => Json.readQuoted?_quoted block.code rest⟩
  · intro ritual asked
    simp only [asked]
    exact (tokens_succeedsIff ritual).code_eq_zero_iff
  · intro asked
    simp only [asked]
    exact canon_succeedsIff.code_eq_zero_iff

/-- A tree with one ritual, whose first code needs every way of writing a character.  It is
compiled by a command line that leaves the command out, and the other command lines ask for
the tokens of a missing file and for a missing canon. -/
theorem run_succeeds_or_silent_missing :
    let source :=
      "PYTHON::\nx = \"\\\t\x08\x0c\r\x01é\"\nLANGUAGE[lang=\"rust\"]\ny\n\nJS::"
    let tree : FileTree := ⟨[(["r"], .file source.toUTF8.toList)]⟩
    let surroundings : Surroundings :=
      ⟨tree.reader [], tree.isFile [], "/bin/codecraft", some "c", none, fun _ => ⟨0, 0⟩,
        fun _ => ""⟩
    let printed :=
      "\x7b\n" ++
      "  \"version\": \"1.0\",\n" ++
      "  \"blocks\": [\n" ++
      "    \x7b\n" ++
      "      \"idx\": 0,\n" ++
      "      \"type\": \"PYTHON\",\n" ++
      "      \"code\": \"x = \\\"\\\\\\t\\b\\f\\r\\u0001é\\\"\",\n" ++
      "      \"parameters\": \x7b\x7d\n" ++
      "    \x7d,\n" ++
      "    \x7b\n" ++
      "      \"idx\": 1,\n" ++
      "      \"type\": \"LANGUAGE\",\n" ++
      "      \"code\": \"y\\n\",\n" ++
      "      \"parameters\": \x7b\x7d\n" ++
      "    \x7d,\n" ++
      "    \x7b\n" ++
      "      \"idx\": 2,\n" ++
      "      \"type\": \"JS\",\n" ++
      "      \"code\": \"\",\n" ++
      "      \"parameters\": \x7b\x7d\n" ++
      "    \x7d\n" ++
      "  ]\n" ++
      "\x7d\n"
    (Request.ofArguments surroundings.canonPath ["--quiet", "r"] =
        .ok ⟨.text, true, some "c", .compile "r" .source false⟩ ∧
      (run surroundings ["--quiet", "r"]).code = 0 ∧
      (run surroundings ["--quiet", "r"]).output = printed) ∧
    ((run surroundings ["tokens", "s"]).code = 1 ∧
      (run surroundings ["tokens", "s"]).output = "") ∧
    Request.ofArguments surroundings.canonPath ["canon"] = .ok ⟨.text, false, some "c", .canon⟩ ∧
      (run surroundings ["canon"]).code ≠ 0 := by
  intro source tree surroundings printed
  have accepted : Request.ofArguments surroundings.canonPath ["--quiet", "r"] =
      .ok ⟨.text, true, some "c", .compile "r" .source false⟩ := rfl
  have acceptedCanon : Request.ofArguments surroundings.canonPath ["canon"] =
      .ok ⟨.text, false, some "c", .canon⟩ := rfl
  have compiles : Compilation.compile surroundings.read (canonLocation surroundings (some "c"))
      .source "r" = .ok ⟨"1.0", [⟨0, .python, "x = \"\\\t\x08\x0c\r\x01é\"", []⟩,
        ⟨1, .language, "y\n", []⟩, ⟨2, .js, "", []⟩]⟩ := by
    decide +kernel
  have failed : (run surroundings ["tokens", "s"]).code = 1 := by decide +kernel
  have noCanon : ¬(canonLocation surroundings (some "c")).HoldsCanon surroundings.read := by
    rintro ⟨text, document, found, _⟩
    cases found
  rcases run_succeeds_or_silent surroundings ["--quiet", "r"] with ⟨_, commands⟩
  rcases (commands _ accepted).1 "r" .source false rfl with ⟨succeeds, outputs⟩
  have output := (outputs _ compiles).2.1
  have canon := ((run_succeeds_or_silent surroundings ["canon"]).2 _ acceptedCanon).2.2 rfl
  exact ⟨⟨accepted, succeeds.mpr ⟨_, compiles⟩, output.trans (by decide +kernel)⟩,
    ⟨failed, (run_succeeds_or_silent surroundings ["tokens", "s"]).1 failed⟩, acceptedCanon,
    mt canon.mp noCanon⟩

end Command
end Ritual
