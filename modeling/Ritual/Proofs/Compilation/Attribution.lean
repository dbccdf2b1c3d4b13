import Ritual.FileTree
import Ritual.Proofs.Analysis.Gate
import Ritual.Proofs.Canon.Invariant

namespace Ritual

/-!
# Which file an error is about

A compilation reads two files, and each of them may be missing, unreadable or there; the
canon's may also hold no canon document.  What the compilation gives is decided by these
states alone, case by case.  The ritual's comes first.  A missing ritual is an error and a
missing canon is not, although both are reported by the same failure of the reader, so
everything is said of the two paths apart, and holds as well if they are one path.
-/

namespace Reader

variable {reader : Reader} {path : String}

theorem ritual_of_ok {text : String} (read : reader path = .ok text) :
    reader.ritual path = .ok text := by
  rw [ritual, read]

theorem ritual_of_missing {failure : ReadFailure} (read : reader path = .error failure)
    (missing : failure.kind = .notFound) :
    reader.ritual path = .error (.ritualNotFound path) := by
  simp only [ritual, read, if_pos missing]

theorem ritual_of_unreadable {failure : ReadFailure} (read : reader path = .error failure)
    (present : failure.kind ≠ .notFound) :
    reader.ritual path = .error (.unreadable path failure) := by
  simp only [ritual, read, if_neg present]

end Reader

namespace CanonLocation

variable {reader : Reader} {path : String}

theorem load_of_missing {failure : ReadFailure} (read : reader path = .error failure)
    (missing : failure.kind = .notFound) : (file path).load reader = .ok none := by
  simp only [load, loadFile, read, if_pos missing]

theorem load_of_unreadable {failure : ReadFailure} (read : reader path = .error failure)
    (present : failure.kind ≠ .notFound) :
    (file path).load reader = .error (.unreadable path failure) := by
  simp only [load, loadFile, read, if_neg present]

theorem load_of_refused {text : String} {refusal : Yaml.Refusal} (read : reader path = .ok text)
    (refused : CanonRules.ofYaml text = .error refusal) :
    (file path).load reader = .error (.malformedCanon path refusal.message) := by
  simp only [load, loadFile, rulesOf, read, refused]

theorem load_of_rules {text : String} {rules : CanonRules} (read : reader path = .ok text)
    (accepted : CanonRules.ofYaml text = .ok rules) :
    (file path).load reader = .ok (some rules) := by
  simp only [load, loadFile, rulesOf, read, accepted]

/-- A path that is given is the place, whatever else could be one. -/
theorem choose_given (path : String) (environment beside : Option String) :
    choose (some path) environment beside = file path := rfl

end CanonLocation

namespace Compilation

variable {reader : Reader} {location : CanonLocation} {mode : Line.Reconstruction}
  {ritual canon source : String}

/-! ## One stage after the other -/

/-- If the ritual cannot be read, the canon is not asked for. -/
theorem compile_of_ritual_error {error : RitualError}
    (fails : reader.ritual ritual = .error error) :
    compile reader location mode ritual = .error error := by
  rw [compile, fails]
  rfl

theorem compile_of_load_error {error : RitualError} (read : reader.ritual ritual = .ok source)
    (fails : location.load reader = .error error) :
    compile reader location mode ritual = .error error := by
  rw [compile, read]
  simp only [bind, Except.bind, fails]

theorem compile_of_load {rules : Option CanonRules} (read : reader.ritual ritual = .ok source)
    (loads : location.load reader = .ok rules) :
    compile reader location mode ritual = compileSource rules mode source := by
  rw [compile, read]
  simp only [bind, Except.bind, loads]

/-- Once everything is read, only violations of rules stop a compilation. -/
theorem eq_constitutional_of_compileSource {rules : Option CanonRules} {error : RitualError}
    (stopped : compileSource rules mode source = .error error) :
    ∃ checked found, rules = some checked ∧ error = .constitutional found := by
  cases rules with
  | none => cases stopped
  | some checked =>
    rw [compileSource_some] at stopped
    split at stopped
    · cases stopped
    · cases stopped
      exact ⟨checked, _, rfl, rfl⟩

/-! ## The states of the two files -/

/-- What a compilation gives by what is read at the two paths. -/
inductive Gives (reader : Reader) (mode : Line.Reconstruction) (ritual canon : String) :
    Except RitualError Schema → Prop where
  | ritualMissing {failure : ReadFailure} (read : reader ritual = .error failure)
      (missing : failure.kind = .notFound) :
      Gives reader mode ritual canon (.error (.ritualNotFound ritual))
  | ritualUnreadable {failure : ReadFailure} (read : reader ritual = .error failure)
      (present : failure.kind ≠ .notFound) :
      Gives reader mode ritual canon (.error (.unreadable ritual failure))
  /-- Without a canon the ritual is compiled and not checked. -/
  | canonMissing {source : String} {failure : ReadFailure} (read : reader ritual = .ok source)
      (canonRead : reader canon = .error failure) (missing : failure.kind = .notFound) :
      Gives reader mode ritual canon (compileSource none mode source)
  | canonUnreadable {source : String} {failure : ReadFailure} (read : reader ritual = .ok source)
      (canonRead : reader canon = .error failure) (present : failure.kind ≠ .notFound) :
      Gives reader mode ritual canon (.error (.unreadable canon failure))
  | canonMalformed {source text : String} {refusal : Yaml.Refusal}
      (read : reader ritual = .ok source) (canonRead : reader canon = .ok text)
      (refused : CanonRules.ofYaml text = .error refusal) :
      Gives reader mode ritual canon (.error (.malformedCanon canon refusal.message))
  | checked {source text : String} {rules : CanonRules} (read : reader ritual = .ok source)
      (canonRead : reader canon = .ok text) (accepted : CanonRules.ofYaml text = .ok rules) :
      Gives reader mode ritual canon (compileSource (some rules) mode source)

/-- The two files are always in one of the states. -/
theorem exists_gives (reader : Reader) (mode : Line.Reconstruction) (ritual canon : String) :
    ∃ result, Gives reader mode ritual canon result := by
  cases read : reader ritual with
  | error failure =>
    by_cases missing : failure.kind = .notFound
    · exact ⟨_, .ritualMissing read missing⟩
    · exact ⟨_, .ritualUnreadable read missing⟩
  | ok source =>
    cases canonRead : reader canon with
    | error failure =>
      by_cases missing : failure.kind = .notFound
      · exact ⟨_, .canonMissing read canonRead missing⟩
      · exact ⟨_, .canonUnreadable read canonRead missing⟩
    | ok text =>
      cases document : CanonRules.ofYaml text with
      | error refusal => exact ⟨_, .canonMalformed read canonRead document⟩
      | ok rules => exact ⟨_, .checked read canonRead document⟩

theorem Gives.compile_eq {result : Except RitualError Schema}
    (gives : Gives reader mode ritual canon result) :
    compile reader (.file canon) mode ritual = result := by
  cases gives with
  | ritualMissing read missing =>
    exact compile_of_ritual_error (Reader.ritual_of_missing read missing)
  | ritualUnreadable read present =>
    exact compile_of_ritual_error (Reader.ritual_of_unreadable read present)
  | canonMissing read canonRead missing =>
    exact compile_of_load (Reader.ritual_of_ok read)
      (CanonLocation.load_of_missing canonRead missing)
  | canonUnreadable read canonRead present =>
    exact compile_of_load_error (Reader.ritual_of_ok read)
      (CanonLocation.load_of_unreadable canonRead present)
  | canonMalformed read canonRead refused =>
    exact compile_of_load_error (Reader.ritual_of_ok read)
      (CanonLocation.load_of_refused canonRead refused)
  | checked read canonRead accepted =>
    exact compile_of_load (Reader.ritual_of_ok read)
      (CanonLocation.load_of_rules canonRead accepted)

/-- A compilation gives what the states of the files say, and nothing else. -/
theorem compile_eq_iff {result : Except RitualError Schema} :
    compile reader (.file canon) mode ritual = result ↔ Gives reader mode ritual canon result := by
  constructor
  · rintro rfl
    rcases exists_gives reader mode ritual canon with ⟨result, gives⟩
    rw [gives.compile_eq]
    exact gives
  · exact Gives.compile_eq

/-! ## What an error tells -/

variable {path : String} {found : List Violation}

/-- Only the ritual is reported as missing. -/
theorem Gives.missing_of_ritualNotFound {result : Except RitualError Schema}
    (gives : Gives reader mode ritual canon result)
    (stopped : result = .error (.ritualNotFound path)) :
    path = ritual ∧ ∃ failure, reader ritual = .error failure ∧ failure.kind = .notFound := by
  cases gives with
  | ritualMissing read missing =>
    cases stopped
    exact ⟨rfl, _, read, missing⟩
  | ritualUnreadable read present => cases stopped
  | canonMissing read canonRead missing => cases stopped
  | canonUnreadable read canonRead present => cases stopped
  | canonMalformed read canonRead refused => cases stopped
  | checked read canonRead accepted =>
    rcases eq_constitutional_of_compileSource stopped with ⟨_, _, _, impossible⟩
    cases impossible

/-- Violations are found by the rules that were read, in the ritual that was read. -/
theorem Gives.read_of_constitutional {result : Except RitualError Schema}
    (gives : Gives reader mode ritual canon result)
    (stopped : result = .error (.constitutional found)) :
    ∃ source text rules, reader ritual = .ok source ∧ reader canon = .ok text ∧
      CanonRules.ofYaml text = .ok rules ∧
      compileSource (some rules) mode source = .error (.constitutional found) := by
  cases gives with
  | ritualMissing read missing => cases stopped
  | ritualUnreadable read present => cases stopped
  | canonMissing read canonRead missing => cases stopped
  | canonUnreadable read canonRead present => cases stopped
  | canonMalformed read canonRead refused => cases stopped
  | checked read canonRead accepted => exact ⟨_, _, _, read, canonRead, accepted, stopped⟩

/-- What a compilation gives is decided by what is read at the path of the ritual and, if
that is a text, at the path of the canon.  Only the ritual is reported as missing, and
violations are reported only if both files were read and the canon's holds rules. -/
theorem compile_attributes (reader : Reader) (environment beside : Option String)
    (mode : Line.Reconstruction) (ritual canon : String) :
    (∀ result, compile reader (.choose (some canon) environment beside) mode ritual = result ↔
        Gives reader mode ritual canon result) ∧
      (∀ path, compile reader (.choose (some canon) environment beside) mode ritual =
          .error (.ritualNotFound path) →
        path = ritual ∧ ∃ failure, reader ritual = .error failure ∧ failure.kind = .notFound) ∧
      ∀ found, compile reader (.choose (some canon) environment beside) mode ritual =
          .error (.constitutional found) →
        ∃ source text rules, reader ritual = .ok source ∧ reader canon = .ok text ∧
          CanonRules.ofYaml text = .ok rules ∧
          compileSource (some rules) mode source = .error (.constitutional found) := by
  rw [CanonLocation.choose_given]
  refine ⟨?_, ?_, ?_⟩
  · intro result
    exact compile_eq_iff
  · intro path stopped
    exact (compile_eq_iff.mp stopped).missing_of_ritualNotFound rfl
  · intro found stopped
    exact (compile_eq_iff.mp stopped).read_of_constitutional rfl

/-- One file as ritual and canon, whose comment is an invocation to the ritual, and a path
at which there is neither. -/
theorem compile_attributes_shared :
    let text := "schools: # ::no:op\n"
    let reader : Reader := fun path =>
      if path = "both" then .ok text else .error FileTree.missing
    (∃ found, compile reader (.choose (some "both") none none) .source "both" =
        .error (.constitutional found) ∧
      ∃ source text rules, reader "both" = .ok source ∧ reader "both" = .ok text ∧
        CanonRules.ofYaml text = .ok rules ∧
        compileSource (some rules) .source source = .error (.constitutional found)) ∧
    compile reader (.choose (some "none") none none) .source "none" =
        .error (.ritualNotFound "none") ∧
      ∃ failure, reader "none" = .error failure ∧ failure.kind = .notFound := by
  intro text reader
  let document : CanonDocument := ⟨[], none⟩
  have read : (CanonDocument.ofYaml text).toOption = some document := by decide +kernel
  have accepted := CanonRules.ofYaml_of_toOption read
  have given : reader "both" = .ok text := rfl
  have absent : reader "none" = .error FileTree.missing := rfl
  have shared := compile_attributes reader none none .source "both" "both"
  have nowhere := compile_attributes reader none none .source "none" "none"
  let found : List Violation := [.ofDetail .unknownSchool (some ⟨1, 12⟩)
    "School 'no' not found in canon (0 valid schools)"]
  have stops : compileSource (some document.rules) .source text =
      .error (.constitutional found) := by
    decide +kernel
  have stopped := (shared.1 _).mpr (.checked given given accepted)
  rw [stops] at stopped
  have missing := (nowhere.1 _).mpr (.ritualMissing absent rfl)
  exact ⟨⟨found, stopped, shared.2.2 found stopped⟩, missing, (nowhere.2.1 "none" missing).2⟩

end Compilation
end Ritual
