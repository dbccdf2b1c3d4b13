import Ritual.Proofs.Command.Reading

namespace Ritual
namespace Command

/-!
# Command lines without some flags

Some flags are taken out of a command line, with the values behind them.  A value is not
taken for a flag by this, and neither is a path behind two hyphens.  If the command line
is understood, so is what is left of it, and the only difference is in what the flags
have given.  Whether a command line names a ritual without a command does not depend on
flags at all.
-/

/-- Whether a flag takes the next argument as its value, given the value attached to it. -/
def Flag.awaits (flag : Flag) (attached : Option String) : Bool :=
  flag.takesValue && attached.isNone

/-- The arguments without some flags and their values. -/
def withoutFlags (dropped : Flag → Bool) : List String → List String
  | [] => []
  | argument :: rest =>
    if argument = "--" then argument :: rest
    else
      match flag? argument with
      | none => argument :: withoutFlags dropped rest
      | some (flag, attached) =>
        if flag.awaits attached then
          match rest with
          | [] => if dropped flag then [] else [argument]
          | value :: further =>
            if dropped flag then withoutFlags dropped further
            else argument :: value :: withoutFlags dropped further
        else if dropped flag then withoutFlags dropped rest
        else argument :: withoutFlags dropped rest

/-- The options without what some flags have given. -/
def Options.without (dropped : Flag → Bool) (options : Options) : Options where
  output := if dropped .output then .none else options.output
  quiet := !dropped .quiet && options.quiet
  canon := if dropped .canon then .none else options.canon
  debugTokens := !dropped .debugTokens && options.debugTokens
  reconstruction := if dropped .reconstruct then .none else options.reconstruction
  ritual := options.ritual

/-! ## Naming a ritual -/

section

variable {argument : String} {flag : Flag} {attached : Option String}

theorem mem_valueFlags_of_awaits (spelled : flag? argument = some (flag, attached))
    (awaits : flag.awaits attached = true) : argument ∈ valueFlags := by
  simp only [Flag.awaits, Bool.and_eq_true, Option.isNone_iff_eq_none] at awaits
  rcases awaits with ⟨valued, rfl⟩
  exact mem_valueFlags_iff.mpr ⟨flag, spelled, valued⟩

theorem awaits_of_mem_valueFlags (spelled : flag? argument = some (flag, attached))
    (listed : argument ∈ valueFlags) : flag.awaits attached = true := by
  rcases mem_valueFlags_iff.mp listed with ⟨other, same, valued⟩
  rw [spelled, Option.some.injEq, Prod.mk.injEq] at same
  rcases same with ⟨rfl, rfl⟩
  rw [Flag.awaits, valued]
  rfl

theorem namesRitual_awaiting (spelled : flag? argument = some (flag, attached))
    (awaits : flag.awaits attached = true) (value : String) (rest : List String) :
    namesRitual (argument :: value :: rest) = namesRitual rest := by
  rw [namesRitual.eq_def]
  simp [ne_dashes_of_flag? spelled, mem_valueFlags_of_awaits spelled awaits]

theorem namesRitual_complete (spelled : flag? argument = some (flag, attached))
    (complete : ¬flag.awaits attached = true) (rest : List String) :
    namesRitual (argument :: rest) = namesRitual rest := by
  rw [namesRitual.eq_def]
  simp [ne_dashes_of_flag? spelled, mt (awaits_of_mem_valueFlags spelled) complete,
    isFlag_of_flag? spelled]

/-- What is neither a known flag nor two hyphens is passed over or decides. -/
theorem namesRitual_other (dashes : argument ≠ "--") (unknown : flag? argument = none)
    (rest : List String) :
    namesRitual (argument :: rest) =
      if isFlag argument then namesRitual rest
      else (Name.ofString? argument).isNone && argument != helpWord := by
  have free : argument ∉ valueFlags := by
    rw [mem_valueFlags_iff, unknown]
    simp
  rw [namesRitual.eq_def]
  simp [dashes, free]

end

section

variable (dropped : Flag → Bool)

/-- Taking flags out does not change whether the arguments name a ritual. -/
theorem namesRitual_withoutFlags (arguments : List String) :
    namesRitual (withoutFlags dropped arguments) = namesRitual arguments := by
  fun_induction withoutFlags dropped arguments with
  | case1 => rfl
  | case2 paths => rfl
  | case3 argument rest dashes unknown inductionHypothesis =>
    rw [namesRitual_other dashes unknown, namesRitual_other dashes unknown, inductionHypothesis]
  | case4 argument dashes flag attached spelled awaits gone =>
    rw [namesRitual.eq_def, namesRitual.eq_def]
    simp [dashes, mem_valueFlags_of_awaits spelled awaits]
  | case5 argument dashes flag attached spelled awaits kept => rfl
  | case6 argument dashes flag attached spelled awaits value rest gone inductionHypothesis =>
    rw [namesRitual_awaiting spelled awaits, inductionHypothesis]
  | case7 argument dashes flag attached spelled awaits value rest kept inductionHypothesis =>
    rw [namesRitual_awaiting spelled awaits, namesRitual_awaiting spelled awaits,
      inductionHypothesis]
  | case8 argument rest dashes flag attached spelled complete gone inductionHypothesis =>
    rw [namesRitual_complete spelled complete, inductionHypothesis]
  | case9 argument rest dashes flag attached spelled complete kept inductionHypothesis =>
    rw [namesRitual_complete spelled complete, namesRitual_complete spelled complete,
      inductionHypothesis]

theorem withoutFlags_plain {argument : String} (plain : isFlag argument = false)
    (rest : List String) :
    withoutFlags dropped (argument :: rest) = argument :: withoutFlags dropped rest := by
  rw [withoutFlags.eq_def]
  simp [ne_dashes_of_plain plain, flag?_of_plain plain]

/-- The command that is put in front does not depend on flags. -/
theorem withDefault_withoutFlags (arguments : List String) :
    withDefault (withoutFlags dropped arguments) =
      withoutFlags dropped (withDefault arguments) := by
  rw [withDefault, withDefault, namesRitual_withoutFlags]
  split
  · rw [withoutFlags_plain dropped (by decide)]
  · rfl

end

/-! ## What is given without some flags -/

namespace Options

variable {dropped : Flag → Bool} {options next : Options} {flag : Flag}

theorem without_of_give {value : String} (given : options.give flag value = .ok next)
    (gone : dropped flag = true) : next.without dropped = options.without dropped := by
  cases flag with
  | output =>
    simp only [give] at given
    split at given
    · cases given
      simp [without, gone]
    · cases given
  | canon =>
    simp only [give] at given
    split at given
    · cases given
    · cases given
      simp [without, gone]
  | reconstruct =>
    simp only [give] at given
    split at given
    · cases given
      simp [without, gone]
    · cases given
  | quiet | debugTokens | help | version => cases given

theorem without_of_set (given : options.set flag = .ok next) (gone : dropped flag = true) :
    next.without dropped = options.without dropped := by
  cases flag with
  | quiet =>
    simp only [set] at given
    split at given
    · cases given
    · cases given
      simp [without, gone]
  | debugTokens =>
    simp only [set] at given
    split at given
    · cases given
    · cases given
      simp [without, gone]
  | output | canon | reconstruct | help | version => cases given

/-- A flag that stays is given as before. -/
theorem give_without (options : Options) (kept : dropped flag = false) (value : String) :
    (options.without dropped).give flag value =
      (options.give flag value).map (without dropped) := by
  cases flag with
  | output =>
    cases before : options.output with
    | none =>
      cases named : Format.ofString? value <;>
        simp [give, without, kept, before, named, Except.map]
    | some format => simp [give, without, kept, before, Except.map]
  | canon =>
    simp only [give, without, kept, Bool.false_eq_true, if_false]
    split
    · rfl
    · simp [Except.map, without, kept]
  | reconstruct =>
    cases before : options.reconstruction with
    | none =>
      cases named : Line.Reconstruction.ofName? value <;>
        simp [give, without, kept, before, named, Except.map]
    | some mode => simp [give, without, kept, before, Except.map]
  | quiet | debugTokens | help | version => rfl

theorem set_without (options : Options) (kept : dropped flag = false) :
    (options.without dropped).set flag = (options.set flag).map (without dropped) := by
  cases flag with
  | quiet => cases before : options.quiet <;> simp [set, without, kept, before, Except.map]
  | debugTokens =>
    cases before : options.debugTokens <;> simp [set, without, kept, before, Except.map]
  | output | canon | reconstruct | help | version => rfl

theorem without_of_take {value : Option String} (given : options.take flag value = .ok next)
    (gone : dropped flag = true) : next.without dropped = options.without dropped := by
  cases value with
  | some value => exact without_of_give given gone
  | none => exact without_of_set given gone

theorem take_without (options : Options) (kept : dropped flag = false) (value : Option String) :
    (options.without dropped).take flag value =
      (options.take flag value).map (without dropped) := by
  cases value with
  | some value => exact give_without options kept value
  | none => exact set_without options kept

theorem giveRitual_without (options : Options) (place : Option Name) (path : String) :
    (options.without dropped).giveRitual place path =
      (options.giveRitual place path).map (without dropped) := by
  have same : (options.without dropped).ritual = options.ritual := rfl
  unfold giveRitual
  rw [same]
  split
  · split <;> rfl
  · split <;> rfl
  · rfl

theorem giveRituals_without (options : Options) (place : Option Name) (paths : List String) :
    (options.without dropped).giveRituals place paths =
      (options.giveRituals place paths).map (without dropped) := by
  induction paths generalizing options with
  | nil => rfl
  | cons path rest inductionHypothesis =>
    rw [giveRituals, giveRituals, List.foldlM_cons, List.foldlM_cons, giveRitual_without]
    cases options.giveRitual place path with
    | error stop => rfl
    | ok next => exact inductionHypothesis next

end Options

/-! ## Reading without some flags -/

section

variable {dropped : Flag → Bool} {place : Option Name} {reading : Option Flag}
  {options next final : Options} {chunk arguments : List String}
  {left : Option (Name × List String)}

theorem Spells.withoutFlags_append {flag : Flag} {value : Option String}
    (spells : Spells flag value chunk) (rest : List String) :
    withoutFlags dropped (chunk ++ rest) =
      (if dropped flag then [] else chunk) ++ withoutFlags dropped rest := by
  cases spells with
  | attached spelled valued =>
    rw [List.singleton_append, withoutFlags.eq_def]
    simp only [ne_dashes_of_flag? spelled, if_false, spelled, Flag.awaits, Option.isNone_some,
      Bool.and_false, Bool.false_eq_true]
    split <;> rfl
  | detached spelled valued plain =>
    rw [List.cons_append, List.singleton_append, withoutFlags.eq_def]
    simp only [ne_dashes_of_flag? spelled, if_false, spelled, Flag.awaits, Option.isNone_none,
      valued, Bool.and_self, if_true]
    split <;> rfl
  | bare spelled valueless =>
    rw [List.singleton_append, withoutFlags.eq_def]
    simp only [ne_dashes_of_flag? spelled, if_false, spelled, Flag.awaits, valueless,
      Bool.false_and, Bool.false_eq_true]
    split <;> rfl

theorem Spells.namesRitual_append {flag : Flag} {value : Option String}
    (spells : Spells flag value chunk) (rest : List String) :
    namesRitual (chunk ++ rest) = namesRitual rest := by
  cases spells with
  | attached spelled valued => exact namesRitual_complete spelled (by simp [Flag.awaits]) rest
  | detached spelled valued plain =>
    exact namesRitual_awaiting spelled (by simp [Flag.awaits, valued]) _ rest
  | bare spelled valueless =>
    exact namesRitual_complete spelled (by simp [Flag.awaits, valueless]) rest

theorem Takes.withoutFlags_append (taken : Takes place reading options chunk next)
    (rest : List String) :
    withoutFlags dropped (chunk ++ rest) =
      (if reading.any dropped then [] else chunk) ++ withoutFlags dropped rest := by
  cases taken with
  | flag spells stands given => exact spells.withoutFlags_append rest
  | ritual plain given => exact withoutFlags_plain dropped plain rest

/-- A step by which a flag is given that is taken out changes nothing else. -/
theorem Takes.without_of_dropped (taken : Takes place reading options chunk next)
    (gone : reading.any dropped = true) : next.without dropped = options.without dropped := by
  cases taken with
  | flag spells stands given => exact Options.without_of_take given gone
  | ritual plain given => cases gone

/-- Every other step is taken without the flags as well. -/
theorem Takes.without_of_kept (taken : Takes place reading options chunk next)
    (kept : reading.any dropped = false) :
    Takes place reading (options.without dropped) chunk (next.without dropped) := by
  cases taken with
  | flag spells stands given =>
    refine .flag spells stands ?_
    rw [Options.take_without _ kept, given]
    rfl
  | ritual plain given =>
    refine .ritual plain ?_
    rw [Options.giveRitual_without, given]
    rfl

/-- Arguments without some flags are read to the end if the arguments are. -/
theorem Reads.without (dropped : Flag → Bool) (reads : Reads place options arguments final left) :
    Reads place (options.without dropped) (withoutFlags dropped arguments)
      (final.without dropped) (left.map (Prod.map id (withoutFlags dropped))) := by
  induction reads with
  | ended options => exact .ended _
  | dashes given =>
    have given := congrArg (Except.map (Options.without dropped)) given
    rw [← Options.giveRituals_without] at given
    exact .dashes given
  | command before named rest =>
    rw [withoutFlags_plain dropped (plain_of_named named)]
    exact .command before named (withoutFlags dropped rest)
  | step taken later inductionHypothesis =>
    rw [taken.withoutFlags_append]
    split
    · rename_i gone
      rw [taken.without_of_dropped gone] at inductionHypothesis
      exact inductionHypothesis
    · rename_i kept
      exact .step (taken.without_of_kept (by simpa using kept)) inductionHypothesis

/-- What is left of a command line that is understood is understood, as the same command. -/
theorem Understood.without (dropped : Flag → Bool) {before : Options} {command : Name}
    {behind : Options} (understood : Understood arguments before command behind) :
    Understood (withoutFlags dropped arguments) (before.without dropped) command
      (behind.without dropped) := by
  have nothing : Options.none.without dropped = Options.none := by
    simp [Options.without, Options.none]
  rcases understood with ⟨rest, readBefore, readBehind⟩
  have readBefore := readBefore.without dropped
  have readBehind := readBehind.without dropped
  rw [nothing] at readBefore readBehind
  refine ⟨withoutFlags dropped rest, ?_, readBehind⟩
  rw [withDefault_withoutFlags]
  exact readBefore

end

end Command
end Ritual
