import Ritual.Command.Arguments

namespace Ritual
namespace Command

/-!
# The first positional argument

Before a command line is read, the compile command is put in front of it unless a command
is there already.  What decides is the first argument that is neither a flag nor the value
of one, and this is said here by rules for reading arguments.  A value counts as a value
whatever it looks like, and behind two hyphens a path is a path even if it is called like a
command.
-/

/-- Whether an argument is a hyphen with something behind it. -/
def Hyphened (argument : String) : Prop :=
  ∃ char rest, argument.toList = '-' :: char :: rest

/-- The first positional argument, and whether two hyphens stand in front of it. -/
inductive Positional : List String → Bool → String → Prop where
  | path (path : String) (rest : List String) : Positional ("--" :: path :: rest) true path
  | plain {word : String} (plain : ¬Hyphened word) (rest : List String) :
      Positional (word :: rest) false word
  | valued {flag value word : String} {rest : List String} {dashed : Bool}
      (valued : flag ∈ ["--output", "--canon", "--reconstruct"])
      (later : Positional rest dashed word) : Positional (flag :: value :: rest) dashed word
  | alone {flag word : String} {rest : List String} {dashed : Bool} (hyphened : Hyphened flag)
      (known : flag ∉ ["--", "--output", "--canon", "--reconstruct"])
      (later : Positional rest dashed word) : Positional (flag :: rest) dashed word

/-- Whether a ritual is named where a command could stand. -/
def NamesRitual (arguments : List String) : Prop :=
  ∃ dashed word, Positional arguments dashed word ∧
    (dashed = true ∨ word ∉ ["compile", "tokens", "canon", "help"])

section

variable {argument : String}

theorem isFlag_iff : isFlag argument = true ↔ Hyphened argument := by
  unfold isFlag Hyphened
  split
  · rename_i char rest found
    exact iff_of_true rfl ⟨char, rest, found⟩
  · rename_i other
    refine iff_of_false Bool.false_ne_true ?_
    rintro ⟨char, rest, found⟩
    exact other char rest found

theorem isRitual_iff :
    ((Name.ofString? argument).isNone && argument != helpWord) = true ↔
      argument ∉ ["compile", "tokens", "canon", "help"] := by
  unfold Name.ofString? helpWord
  split <;> simp_all

theorem hyphened_of_valued (valued : argument ∈ ["--output", "--canon", "--reconstruct"]) :
    Hyphened argument := by
  have flags : ∀ flag ∈ ["--output", "--canon", "--reconstruct"], isFlag flag = true := by decide
  exact isFlag_iff.mp (flags argument valued)

theorem ne_dashes_of_valued (valued : argument ∈ ["--output", "--canon", "--reconstruct"]) :
    argument ≠ "--" := by
  have others : ∀ flag ∈ ["--output", "--canon", "--reconstruct"], flag ≠ "--" := by decide
  exact others argument valued

theorem hyphened_dashes : Hyphened "--" :=
  ⟨'-', [], rfl⟩

end

/-- There is at most one first positional argument. -/
theorem Positional.unique {arguments : List String} {dashed other : Bool} {word another : String}
    (first : Positional arguments dashed word) (second : Positional arguments other another) :
    dashed = other ∧ word = another := by
  induction first with
  | path path rest =>
    cases second with
    | path => exact ⟨rfl, rfl⟩
    | plain plain => exact absurd hyphened_dashes plain
    | valued valued => exact absurd rfl (ne_dashes_of_valued valued)
    | alone _ known => exact absurd List.mem_cons_self known
  | plain plain rest =>
    cases second with
    | path => exact absurd hyphened_dashes plain
    | plain => exact ⟨rfl, rfl⟩
    | valued valued => exact absurd (hyphened_of_valued valued) plain
    | alone hyphened => exact absurd hyphened plain
  | valued valued later inductionHypothesis =>
    cases second with
    | path => exact absurd rfl (ne_dashes_of_valued valued)
    | plain plain => exact absurd (hyphened_of_valued valued) plain
    | valued _ again => exact inductionHypothesis again
    | alone _ known => exact absurd (List.mem_cons_of_mem _ valued) known
  | alone hyphened known later inductionHypothesis =>
    cases second with
    | path => exact absurd List.mem_cons_self known
    | plain plain => exact absurd hyphened plain
    | valued valued => exact absurd (List.mem_cons_of_mem _ valued) known
    | alone _ _ again => exact inductionHypothesis again

/-- What the search answers is told by the first positional argument. -/
theorem Positional.namesRitual_eq {arguments : List String} {dashed : Bool} {word : String}
    (positional : Positional arguments dashed word) :
    namesRitual arguments =
      (dashed || ((Name.ofString? word).isNone && word != helpWord)) := by
  induction positional with
  | path path rest => rfl
  | @plain word plain rest =>
    have noFlag : isFlag word = false := Bool.eq_false_iff.mpr (mt isFlag_iff.mp plain)
    have noDashes : word ≠ "--" := fun same => plain (same ▸ hyphened_dashes)
    have noValue : word ∉ valueFlags := fun valued => plain (hyphened_of_valued valued)
    rw [namesRitual.eq_def]
    simp [noFlag, noDashes, noValue]
  | @valued flag value word rest dashed valued later inductionHypothesis =>
    have listed : flag ∈ valueFlags := valued
    rw [namesRitual.eq_def]
    simp only [ne_dashes_of_valued valued, if_false, List.contains_iff_mem, listed, if_true]
    exact inductionHypothesis
  | @alone flag word rest dashed hyphened known later inductionHypothesis =>
    have noDashes : flag ≠ "--" := fun same => known (same ▸ List.mem_cons_self)
    have noValue : flag ∉ valueFlags := fun valued => known (List.mem_cons_of_mem _ valued)
    rw [namesRitual.eq_def]
    simp only [noDashes, if_false, List.contains_iff_mem, noValue, isFlag_iff.mpr hyphened,
      if_true]
    exact inductionHypothesis

/-- The search finds nothing where there is no positional argument. -/
theorem exists_positional {arguments : List String} (names : namesRitual arguments = true) :
    ∃ dashed word, Positional arguments dashed word := by
  fun_induction namesRitual arguments with
  | case1 => cases names
  | case2 rest =>
    cases rest with
    | nil => cases names
    | cons path rest => exact ⟨true, path, .path path rest⟩
  | case3 flag noDashes valued value further inductionHypothesis =>
    rcases inductionHypothesis names with ⟨dashed, word, later⟩
    exact ⟨dashed, word, .valued (List.contains_iff_mem.mp valued) later⟩
  | case4 => cases names
  | case5 flag rest noDashes noValue isFlag inductionHypothesis =>
    rcases inductionHypothesis names with ⟨dashed, word, later⟩
    refine ⟨dashed, word, .alone (isFlag_iff.mp isFlag) ?_ later⟩
    rw [List.mem_cons, not_or]
    exact ⟨noDashes, mt List.contains_iff_mem.mpr noValue⟩
  | case6 word rest noDashes noValue noFlag =>
    exact ⟨false, word, .plain (mt isFlag_iff.mpr noFlag) rest⟩

theorem namesRitual_iff {arguments : List String} :
    namesRitual arguments = true ↔ NamesRitual arguments := by
  constructor
  · intro names
    rcases exists_positional names with ⟨dashed, word, positional⟩
    rw [positional.namesRitual_eq, Bool.or_eq_true, isRitual_iff] at names
    exact ⟨dashed, word, positional, names⟩
  · rintro ⟨dashed, word, positional, decides⟩
    rw [positional.namesRitual_eq, Bool.or_eq_true, isRitual_iff]
    exact decides

/-! ## The command in front -/

theorem withDefault_of_names {arguments : List String} (names : NamesRitual arguments) :
    withDefault arguments = "compile" :: arguments := by
  rw [withDefault, if_pos (namesRitual_iff.mpr names)]

theorem withDefault_of_not_names {arguments : List String} (none : ¬NamesRitual arguments) :
    withDefault arguments = arguments := by
  rw [withDefault, if_neg (mt namesRitual_iff.mp none)]

theorem not_namesRitual_nil : ¬NamesRitual [] := by
  rintro ⟨_, _, ⟨⟩, _⟩

/-- No ritual is named behind a command. -/
theorem not_namesRitual_compile (arguments : List String) :
    ¬NamesRitual ("compile" :: arguments) := by
  have plain : ¬Hyphened "compile" := mt isFlag_iff.mpr (by decide)
  rintro ⟨dashed, word, positional, decides⟩
  rcases positional.unique (.plain plain arguments) with ⟨rfl, rfl⟩
  simp at decides

theorem withDefault_withDefault (arguments : List String) :
    withDefault (withDefault arguments) = withDefault arguments := by
  by_cases names : NamesRitual arguments
  · rw [withDefault_of_names names, withDefault_of_not_names (not_namesRitual_compile arguments)]
  · rw [withDefault_of_not_names names, withDefault_of_not_names names]

/-- The compile command is put behind the name of the program exactly if the first positional
argument is a ritual, and an argument vector that has a command already stays as it is. -/
theorem vectorWithDefault_by_positional (vector : List String) :
    (vectorWithDefault vector = vector.take 1 ++ "compile" :: vector.drop 1 ↔
        NamesRitual (vector.drop 1)) ∧
      (vectorWithDefault vector = vector ↔ ¬NamesRitual (vector.drop 1)) ∧
      vectorWithDefault (vectorWithDefault vector) = vectorWithDefault vector ∧
      (NamesRitual (vector.drop 1) → (vectorWithDefault vector).eraseIdx 1 = vector) ∧
      ∀ dashed word other another, Positional (vector.drop 1) dashed word →
        Positional (vector.drop 1) other another → dashed = other ∧ word = another := by
  have single : ∀ dashed word other another, Positional (vector.drop 1) dashed word →
      Positional (vector.drop 1) other another → dashed = other ∧ word = another :=
    fun _ _ _ _ first second => first.unique second
  cases vector with
  | nil =>
    have none := not_namesRitual_nil
    exact ⟨iff_of_false nofun none, iff_of_true rfl none, rfl, fun names => absurd names none,
      single⟩
  | cons program arguments =>
    have again : vectorWithDefault (vectorWithDefault (program :: arguments)) =
        vectorWithDefault (program :: arguments) :=
      congrArg (program :: ·) (withDefault_withDefault arguments)
    by_cases names : NamesRitual arguments
    · have inserted : vectorWithDefault (program :: arguments) =
          program :: "compile" :: arguments :=
        congrArg (program :: ·) (withDefault_of_names names)
      have changed : vectorWithDefault (program :: arguments) ≠ program :: arguments := by
        rw [inserted]
        exact fun same => List.cons_ne_self _ _ (List.cons.inj same).2
      have restored : (vectorWithDefault (program :: arguments)).eraseIdx 1 =
          program :: arguments := by
        rw [inserted]
        rfl
      exact ⟨iff_of_true inserted names, iff_of_false changed (not_not_intro names), again,
        fun _ => restored, single⟩
    · have kept : vectorWithDefault (program :: arguments) = program :: arguments :=
        congrArg (program :: ·) (withDefault_of_not_names names)
      have notInserted : vectorWithDefault (program :: arguments) ≠
          program :: "compile" :: arguments := by
        rw [kept]
        exact fun same => List.cons_ne_self _ _ (List.cons.inj same).2.symm
      exact ⟨iff_of_false notInserted names, iff_of_true kept names, again,
        fun absent => absurd absent names, single⟩

/-- A value that looks like two hyphens, and a path behind two hyphens that is called like a
command. -/
theorem vectorWithDefault_by_positional_dashes :
    NamesRitual ["--canon", "--", "--quiet", "--", "tokens"] ∧
      vectorWithDefault ["codecraft", "--canon", "--", "--quiet", "--", "tokens"] =
        ["codecraft", "compile", "--canon", "--", "--quiet", "--", "tokens"] ∧
      (vectorWithDefault ["codecraft", "--canon", "--", "--quiet", "--", "tokens"]).eraseIdx 1 =
        ["codecraft", "--canon", "--", "--quiet", "--", "tokens"] := by
  have hyphened : Hyphened "--quiet" := ⟨'-', _, rfl⟩
  have positional : Positional ["--canon", "--", "--quiet", "--", "tokens"] true "tokens" :=
    .valued (by decide) (.alone hyphened (by decide) (.path "tokens" []))
  have names : NamesRitual ["--canon", "--", "--quiet", "--", "tokens"] :=
    ⟨true, "tokens", positional, Or.inl rfl⟩
  rcases vectorWithDefault_by_positional
    ["codecraft", "--canon", "--", "--quiet", "--", "tokens"] with ⟨inserts, _, _, restores, _⟩
  exact ⟨names, inserts.mpr names, restores names⟩

end Command
end Ritual
