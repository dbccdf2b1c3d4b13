import Ritual.Command.Arguments
import Ritual.Proofs.Collections

namespace Ritual
namespace Command

/-!
# How arguments are read

Reading goes step by step: a step takes one argument, or a flag with the value behind
it, and changes what is given so far.  The steps and their sequences are said here as
relations, which speak of arguments that are followed to their end and not of refusals.
Such a reading leaves no judgement pending, so the function that reads agrees with the
relation although it puts some of its judgements off.

A command line is then understood by two readings, before and behind its command.
-/

/-! ## Flags in their long form -/

/-- The flag that an argument spells in its long form, with the value attached to it. -/
def flag? (argument : String) : Option (Flag × Option String) :=
  (long? argument).bind fun spelled => (Flag.ofLong? spelled.1).map fun flag => (flag, spelled.2)

theorem long?_of_plain {argument : String} (plain : isFlag argument = false) :
    long? argument = none := by
  unfold isFlag at plain
  unfold long?
  split
  · rename_i rest found
    rw [found] at plain
    simp at plain
  · rfl

theorem ne_dashes_of_plain {argument : String} (plain : isFlag argument = false) :
    argument ≠ "--" := by
  rintro rfl
  revert plain
  decide

theorem flag?_of_plain {argument : String} (plain : isFlag argument = false) :
    flag? argument = none := by
  rw [flag?, long?_of_plain plain]
  rfl

theorem plain_of_named {word : String} {command : Name}
    (named : Name.ofString? word = some command) : isFlag word = false := by
  unfold Name.ofString? at named
  split at named
  · decide
  · decide
  · decide
  · cases named

section

variable {argument : String} {flag : Flag} {attached : Option String}

theorem exists_long_of_flag? (spelled : flag? argument = some (flag, attached)) :
    ∃ name, long? argument = some (name, attached) ∧ Flag.ofLong? name = some flag := by
  rw [flag?, Option.bind_eq_some_iff] at spelled
  rcases spelled with ⟨⟨name, value⟩, long, named⟩
  rw [Option.map_eq_some_iff] at named
  rcases named with ⟨found, named, same⟩
  cases same
  exact ⟨name, long, named⟩

theorem flag?_of_long {place : Option Name} {name : String}
    (long : long? argument = some (name, attached))
    (named : (Flag.ofLong? name).filter (Flag.mayStand place) = some flag) :
    flag? argument = some (flag, attached) ∧ flag.mayStand place = true := by
  rcases Option.filter_eq_some_iff.mp named with ⟨named, stands⟩
  exact ⟨by simp [flag?, long, named], stands⟩

theorem ne_dashes_of_flag? (spelled : flag? argument = some (flag, attached)) :
    argument ≠ "--" := by
  rintro rfl
  have nothing : flag? "--" = none := by decide
  rw [nothing] at spelled
  cases spelled

theorem isFlag_of_flag? (spelled : flag? argument = some (flag, attached)) :
    isFlag argument = true := by
  cases plain : isFlag argument with
  | true => rfl
  | false =>
    rw [flag?_of_plain plain] at spelled
    cases spelled

/-- A flag without an attached value is its name behind two hyphens. -/
theorem toList_of_long {name : String} (long : long? argument = some (name, none)) :
    argument.toList = '-' :: '-' :: name.toList := by
  unfold long? at long
  split at long
  · rename_i rest found
    simp only at long
    split at long
    · cases long
    · rename_i nothing
      have whole := List.takeWhile_append_dropWhile (p := (· != '=')) (l := rest)
      rw [nothing, List.append_nil] at whole
      cases long
      rw [found, String.toList_ofList, whole]
  · cases long

/-- The flags that take the next argument are those that take a value and have none
attached. -/
theorem mem_valueFlags_iff :
    argument ∈ valueFlags ↔
      ∃ flag, flag? argument = some (flag, none) ∧ flag.takesValue = true := by
  constructor
  · intro listed
    simp only [valueFlags, List.mem_cons, List.not_mem_nil, or_false] at listed
    rcases listed with rfl | rfl | rfl
    · exact ⟨.output, by decide, rfl⟩
    · exact ⟨.canon, by decide, rfl⟩
    · exact ⟨.reconstruct, by decide, rfl⟩
  · rintro ⟨flag, spelled, valued⟩
    rcases exists_long_of_flag? spelled with ⟨name, long, named⟩
    rw [← String.ofList_toList (s := argument), toList_of_long long]
    unfold Flag.ofLong? at named
    split at named
    all_goals cases named
    · decide
    · cases valued
    · decide
    · cases valued
    · decide
    · cases valued
    · cases valued

end

/-! ## Steps and readings -/

/-- The arguments by which a flag is given, with its value if it takes one. -/
inductive Spells (flag : Flag) : Option String → List String → Prop where
  | attached {argument value : String} (spelled : flag? argument = some (flag, some value))
      (valued : flag.takesValue = true) : Spells flag (some value) [argument]
  | detached {argument value : String} (spelled : flag? argument = some (flag, none))
      (valued : flag.takesValue = true) (plain : isFlag value = false) :
      Spells flag (some value) [argument, value]
  | bare {argument : String} (spelled : flag? argument = some (flag, none))
      (valueless : flag.takesValue = false) : Spells flag none [argument]

/-- Give a flag its value, or set it without one. -/
def Options.take (options : Options) (flag : Flag) : Option String → Except Stop Options
  | some value => options.give flag value
  | .none => options.set flag

/-- One step of reading at a place, by which the options change: the arguments that it
takes, and the flag that it gives or none if it gives the ritual. -/
inductive Takes (place : Option Name) :
    Option Flag → Options → List String → Options → Prop where
  | flag {options next : Options} {flag : Flag} {value : Option String} {chunk : List String}
      (spells : Spells flag value chunk) (stands : flag.mayStand place = true)
      (given : options.take flag value = .ok next) : Takes place (some flag) options chunk next
  | ritual {options next : Options} {argument : String} (plain : isFlag argument = false)
      (given : options.giveRitual place argument = .ok next) :
      Takes place none options [argument] next

/-- The options behind some paths of rituals, of which no more than one can be given. -/
def Options.giveRituals (options : Options) (place : Option Name) (paths : List String) :
    Except Stop Options :=
  paths.foldlM (fun given path => given.giveRitual place path) options

/-- The reading of arguments at a place to its end, which is that of the arguments or
the command with the arguments behind it. -/
inductive Reads (place : Option Name) :
    Options → List String → Options → Option (Name × List String) → Prop where
  | ended (options : Options) : Reads place options [] options none
  | dashes {options final : Options} {paths : List String}
      (given : options.giveRituals place paths = .ok final) :
      Reads place options ("--" :: paths) final none
  | command {options : Options} {word : String} {command : Name} (before : place = none)
      (named : Name.ofString? word = some command) (rest : List String) :
      Reads place options (word :: rest) options (some (command, rest))
  | step {reading : Option Flag} {options next final : Options} {chunk rest : List String}
      {left : Option (Name × List String)} (taken : Takes place reading options chunk next)
      (later : Reads place next rest final left) :
      Reads place options (chunk ++ rest) final left

section

variable {place : Option Name} {options next final : Options} {arguments : List String}
  {left : Option (Name × List String)}

theorem Takes.readPlace_eq {reading : Option Flag} {chunk : List String}
    (taken : Takes place reading options chunk next) (rest : List String) :
    readPlace place (.ok options) (chunk ++ rest) = readPlace place (.ok next) rest := by
  cases taken with
  | flag spells stands given =>
    cases spells with
    | attached spelled valued =>
      rcases exists_long_of_flag? spelled with ⟨name, long, named⟩
      rw [Options.take] at given
      rw [List.singleton_append, readPlace.eq_def]
      simp [ne_dashes_of_flag? spelled, long, named, Option.filter, stands, valued, given, bind,
        Except.bind]
    | detached spelled valued plain =>
      rcases exists_long_of_flag? spelled with ⟨name, long, named⟩
      rw [Options.take] at given
      rw [List.cons_append, List.singleton_append, readPlace.eq_def]
      simp [ne_dashes_of_flag? spelled, long, named, Option.filter, stands, valued, plain, given,
        bind, Except.bind]
    | bare spelled valueless =>
      rcases exists_long_of_flag? spelled with ⟨name, long, named⟩
      rw [Options.take] at given
      rw [List.singleton_append, readPlace.eq_def]
      simp [ne_dashes_of_flag? spelled, long, named, Option.filter, stands, valueless, given,
        bind, Except.bind]
  | ritual plain given =>
    cases place with
    | none => cases given
    | some command =>
      rw [List.singleton_append, readPlace.eq_def]
      simp [ne_dashes_of_plain plain, long?_of_plain plain, plain, given, bind, Except.bind]

/-- A pending refusal is never passed over. -/
theorem exists_options_of_readPlace {read : Except Stop Options}
    (found : readPlace place read arguments = .ok (.ok final, left)) :
    ∃ options, read = .ok options := by
  cases read with
  | ok options => exact ⟨options, rfl⟩
  | error stop =>
    exfalso
    cases arguments with
    | nil =>
      rw [readPlace] at found
      cases found
    | cons argument rest =>
      rw [readPlace.eq_def] at found
      by_cases dashes : argument = "--"
      · simp [dashes, bind, Except.bind] at found
      · cases long : long? argument with
        | some spelled => simp [dashes, long, bind, Except.bind] at found
        | none =>
          by_cases flag : isFlag argument = true
          · simp [dashes, long, flag, bind, Except.bind] at found
          · cases place with
            | some command => simp [dashes, long, flag, bind, Except.bind] at found
            | none =>
              cases named : Name.ofString? argument with
              | some command => simp [dashes, long, flag, named] at found
              | none => simp [dashes, long, flag, named] at found

/-- What is read of a list of arguments begins with a step, unless it ends the reading. -/
theorem readPlace_cons_cases {argument : String} {rest : List String}
    (found : readPlace place (.ok options) (argument :: rest) = .ok (.ok final, left)) :
    Reads place options (argument :: rest) final left ∨
      ∃ reading chunk further next, argument :: rest = chunk ++ further ∧ chunk ≠ [] ∧
        Takes place reading options chunk next ∧
        readPlace place (.ok next) further = .ok (.ok final, left) := by
  rw [readPlace.eq_def] at found
  simp only [bind, Except.bind] at found
  split at found
  · rename_i dashes
    subst dashes
    simp only [Except.ok.injEq, Prod.mk.injEq] at found
    rcases found with ⟨given, rfl⟩
    exact Or.inl (.dashes given)
  · split at found
    · rename_i name attached long
      split at found
      · cases found
      · -- a flag with its value attached
        rename_i flag value named
        rcases flag?_of_long long named with ⟨spelled, stands⟩
        split at found
        · rename_i valued
          split at found
          · cases found
          · rename_i next given
            exact Or.inr ⟨some flag, [argument], rest, next, rfl, by simp,
              .flag (.attached spelled valued) stands given, found⟩
        · cases found
      · rename_i flag named
        rcases flag?_of_long long named with ⟨spelled, stands⟩
        split at found
        · -- a flag with its value behind it, which is judged with what follows
          rename_i valued
          split at found
          · rename_i value further
            split at found
            · cases found
            · rename_i plain
              rcases exists_options_of_readPlace found with ⟨next, given⟩
              rw [given] at found
              exact Or.inr ⟨some flag, [argument, value], further, next, rfl, by simp,
                .flag (.detached spelled valued (by simpa using plain)) stands given, found⟩
          · cases found
        · rename_i valueless
          split at found
          · cases found
          · rename_i next given
            exact Or.inr ⟨some flag, [argument], rest, next, rfl, by simp,
              .flag (.bare spelled (by simpa using valueless)) stands given, found⟩
    · split at found
      · cases found
      · rename_i plain
        split at found
        · split at found
          · rename_i command named
            cases found
            exact Or.inl (.command rfl named rest)
          · cases found
        · rcases exists_options_of_readPlace found with ⟨next, given⟩
          rw [given] at found
          exact Or.inr ⟨none, [argument], rest, next, rfl, by simp,
            .ritual (by simpa using plain) given, found⟩

theorem reads_of_readPlace {options : Options} {arguments : List String}
    (found : readPlace place (.ok options) arguments = .ok (.ok final, left)) :
    Reads place options arguments final left := by
  match arguments with
  | [] =>
    rw [readPlace] at found
    cases found
    exact .ended _
  | argument :: rest =>
    rcases readPlace_cons_cases found with
      reads | ⟨_, chunk, further, next, parts, nonempty, taken, later⟩
    · exact reads
    · have shorter : further.length < (argument :: rest).length := by
        have progress := List.length_pos_iff.mpr nonempty
        rw [parts, List.length_append]
        omega
      rw [parts]
      exact .step taken (reads_of_readPlace later)
termination_by arguments.length
decreasing_by exact shorter

theorem Reads.readPlace_eq (reads : Reads place options arguments final left) :
    readPlace place (.ok options) arguments = .ok (.ok final, left) := by
  induction reads with
  | ended options => rw [readPlace]
  | dashes given =>
    rw [Options.giveRituals] at given
    rw [readPlace.eq_def]
    simp [given, bind, Except.bind]
  | command before named rest =>
    subst before
    have plain := plain_of_named named
    rw [readPlace.eq_def]
    simp [ne_dashes_of_plain plain, long?_of_plain plain, plain, named]
  | step taken later inductionHypothesis => rw [taken.readPlace_eq, inductionHypothesis]

/-- Arguments are read in one way. -/
theorem Reads.unique {other : Options} {otherLeft : Option (Name × List String)}
    (reads : Reads place options arguments final left)
    (again : Reads place options arguments other otherLeft) : final = other ∧ left = otherLeft := by
  have same := reads.readPlace_eq.symm.trans again.readPlace_eq
  simp only [Except.ok.injEq, Prod.mk.injEq] at same
  exact same

/-- Behind a command nothing is left over. -/
theorem Reads.left_eq_none {command : Name}
    (reads : Reads (some command) options arguments final left) : left = none := by
  induction reads with
  | ended options => rfl
  | dashes given => rfl
  | command before named rest => cases before
  | step taken later inductionHypothesis => exact inductionHypothesis

end

/-! ## Command lines -/

/-- A command line as it is understood: a command, with what is given before and behind
it. -/
def Understood (arguments : List String) (before : Options) (command : Name) (behind : Options) :
    Prop :=
  ∃ rest, Reads none Options.none (withDefault arguments) before (some (command, rest)) ∧
    Reads (some command) Options.none rest behind none

section

variable {arguments : List String} {before behind otherBefore otherBehind : Options}
  {command other : Name}

theorem Understood.unique (first : Understood arguments before command behind)
    (second : Understood arguments otherBefore other otherBehind) :
    before = otherBefore ∧ command = other ∧ behind = otherBehind := by
  rcases first with ⟨rest, readBefore, readBehind⟩
  rcases second with ⟨otherRest, readOtherBefore, readOtherBehind⟩
  rcases readBefore.unique readOtherBefore with ⟨rfl, leaves⟩
  cases leaves
  exact ⟨rfl, rfl, (readBehind.unique readOtherBehind).1⟩

/-- A command line that names a ritual without a command is all behind it. -/
theorem understood_iff_of_names (names : namesRitual arguments = true) :
    Understood arguments before command behind ↔
      before = .none ∧ command = .compile ∧
        Reads (some .compile) .none arguments behind none := by
  rw [Understood, withDefault, if_pos names]
  constructor
  · rintro ⟨rest, readBefore, readBehind⟩
    rcases readBefore.unique (.command rfl rfl arguments) with ⟨rfl, leaves⟩
    cases leaves
    exact ⟨rfl, rfl, readBehind⟩
  · rintro ⟨rfl, rfl, reads⟩
    exact ⟨arguments, .command rfl rfl arguments, reads⟩

theorem understood_iff_of_not_names (names : namesRitual arguments = false) :
    Understood arguments before command behind ↔
      ∃ rest, Reads none .none arguments before (some (command, rest)) ∧
        Reads (some command) .none rest behind none := by
  rw [Understood, withDefault, if_neg (by simp [names])]

end

/-- The request of what is given before and behind a command. -/
def requestOf (environment : Option String) (before : Options) (command : Name)
    (behind : Options) : Except Stop Request := do
  let action ← actionOf behind command
  let canon := (← canonAt behind environment) <|> (← canonAt before environment)
  return ⟨(behind.output <|> before.output).getD .text, before.quiet || behind.quiet,
    canon <|> environment, action⟩

section

variable {environment : Option String} {arguments : List String} {request : Request}

theorem Understood.ofArguments_eq {before behind : Options} {command : Name}
    (understood : Understood arguments before command behind) :
    Request.ofArguments environment arguments = requestOf environment before command behind := by
  rcases understood with ⟨rest, readBefore, readBehind⟩
  rw [Request.ofArguments, readBefore.readPlace_eq]
  simp only [bind, Except.bind, readBehind.readPlace_eq]
  rfl

/-- A request for a command comes from a command line that is understood. -/
theorem exists_understood (accepted : Request.ofArguments environment arguments = .ok request)
    (asks : request.action ≠ .usage) :
    ∃ before command behind, Understood arguments before command behind ∧
      requestOf environment before command behind = .ok request := by
  rw [Request.ofArguments] at accepted
  rcases bind_eq_ok.mp accepted with ⟨⟨readBefore, left⟩, foundBefore, made⟩
  cases left with
  | none =>
    rcases bind_eq_ok.mp made with ⟨before, _, makes⟩
    rcases bind_eq_ok.mp makes with ⟨canon, _, usage⟩
    cases usage
    exact absurd rfl asks
  | some left =>
    rcases left with ⟨command, rest⟩
    rcases bind_eq_ok.mp made with ⟨⟨readBehind, left⟩, foundBehind, judged⟩
    rcases bind_eq_ok.mp judged with ⟨behind, givenBehind, acts⟩
    rcases bind_eq_ok.mp acts with ⟨action, acted, places⟩
    rcases bind_eq_ok.mp places with ⟨before, givenBefore, makes⟩
    rw [givenBefore] at foundBefore
    rw [givenBehind] at foundBehind
    have readsBehind := reads_of_readPlace foundBehind
    obtain rfl := readsBehind.left_eq_none
    refine ⟨before, command, behind, ⟨rest, reads_of_readPlace foundBefore, readsBehind⟩, ?_⟩
    rw [requestOf, acted]
    exact makes

end

end Command
end Ritual
