import Ritual.Proofs.Collections
import Ritual.Proofs.Command.WithoutFlags
import Ritual.Proofs.Lexeme.Grammar

namespace Ritual
namespace Command

/-!
# Adding the flag that dumps tokens

An argument that is put between others can be many things: the flag, the value of the
flag in front of it, a path behind two hyphens.  If the command line is understood with
it and asks for a compilation with it and without it, then it is the flag.  So there is
no other difference between the two: the flag is given in one of them, and in the other
it is not.
-/

/-- Whether a flag is the one that dumps tokens. -/
def Flag.dumpsTokens : Flag → Bool
  | debugTokens => true
  | output | quiet | canon | reconstruct | help | version => false

theorem flag?_debugTokens : flag? "--debug-tokens" = some (.debugTokens, none) := by
  decide

/-! ## What is given -/

namespace Options

variable {place : Option Name} {options next : Options}

theorem giveRitual_eq_ok {path : String} (given : options.giveRitual place path = .ok next) :
    options.ritual = .none ∧ next = { options with ritual := some path } := by
  have guarded : (if options.ritual.isSome || path.isEmpty then .error Stop.refused
      else .ok { options with ritual := some path }) = Except.ok next := by
    unfold giveRitual at given
    split at given
    · exact given
    · exact given
    · cases given
  split at guarded
  · cases guarded
  · rename_i free
    simp only [Bool.or_eq_true, not_or, Option.not_isSome_iff_eq_none] at free
    cases guarded
    exact ⟨free.1, rfl⟩

/-- At most one path is given at a place. -/
theorem giveRituals_eq_ok {paths : List String}
    (given : options.giveRituals place paths = .ok next) :
    paths = [] ∧ next = options ∨
      ∃ path, paths = [path] ∧ options.ritual = .none ∧
        next = { options with ritual := some path } := by
  cases paths with
  | nil =>
    cases given
    exact Or.inl ⟨rfl, rfl⟩
  | cons path rest =>
    rw [giveRituals, List.foldlM_cons] at given
    rcases bind_eq_ok.mp given with ⟨first, givenFirst, givenRest⟩
    rcases giveRitual_eq_ok givenFirst with ⟨free, rfl⟩
    cases rest with
    | nil =>
      cases givenRest
      exact Or.inr ⟨path, rfl, free, rfl⟩
    | cons second rest =>
      rw [List.foldlM_cons] at givenRest
      rcases bind_eq_ok.mp givenRest with ⟨_, givenSecond, _⟩
      cases (giveRitual_eq_ok givenSecond).1

theorem debugTokens_of_giveRituals {paths : List String}
    (given : options.giveRituals place paths = .ok next) :
    next.debugTokens = options.debugTokens := by
  rcases giveRituals_eq_ok given with ⟨_, rfl⟩ | ⟨path, _, _, rfl⟩
  · rfl
  · rfl

theorem without_dumpsTokens (free : options.debugTokens = false) :
    options.without Flag.dumpsTokens = options := by
  cases options
  simp only at free
  simp [without, Flag.dumpsTokens, free]

theorem set_debugTokens (given : options.set .debugTokens = .ok next) :
    options.debugTokens = false ∧ next.debugTokens = true ∧
      next.without Flag.dumpsTokens = options := by
  rw [without_of_set given rfl]
  simp only [set] at given
  split at given
  · cases given
  · rename_i free
    cases given
    have free := Bool.eq_false_iff.mpr free
    exact ⟨free, rfl, without_dumpsTokens free⟩

/-- The flag that dumps tokens is set once. -/
theorem debugTokens_of_take {flag : Flag} {value : Option String}
    (given : options.take flag value = .ok next) (before : options.debugTokens = true) :
    flag.dumpsTokens = false ∧ next.debugTokens = true := by
  have other : flag.dumpsTokens = false := by
    cases flag with
    | debugTokens =>
      cases value with
      | some value => cases given
      | none =>
        rw [(set_debugTokens given).1] at before
        cases before
    | output | quiet | canon | reconstruct | help | version => rfl
  have same : next.without (fun flag => !flag.dumpsTokens) =
      options.without (fun flag => !flag.dumpsTokens) := without_of_take given (by simp [other])
  refine ⟨other, ?_⟩
  simpa [without, Flag.dumpsTokens, before] using congrArg Options.debugTokens same

end Options

/-! ## The flag behind the flag -/

section

variable {place : Option Name} {reading : Option Flag} {options next final : Options}
  {chunk arguments : List String} {left : Option (Name × List String)}

theorem Takes.debugTokens_of_before (taken : Takes place reading options chunk next)
    (before : options.debugTokens = true) :
    reading.any Flag.dumpsTokens = false ∧ next.debugTokens = true := by
  cases taken with
  | flag spells stands given => exact Options.debugTokens_of_take given before
  | ritual plain given =>
    rcases Options.giveRitual_eq_ok given with ⟨_, rfl⟩
    exact ⟨rfl, before⟩

/-- Arguments behind the flag that dumps tokens are read as if it were not there. -/
theorem Reads.without_dumpsTokens (reads : Reads place options arguments final left)
    (before : options.debugTokens = true) :
    Reads place (options.without Flag.dumpsTokens) arguments (final.without Flag.dumpsTokens)
        left ∧
      final.debugTokens = true := by
  induction reads with
  | ended options => exact ⟨.ended _, before⟩
  | dashes given =>
    refine ⟨.dashes ?_, (Options.debugTokens_of_giveRituals given).trans before⟩
    rw [Options.giveRituals_without, given]
    rfl
  | command outside named rest => exact ⟨.command outside named rest, before⟩
  | step taken later inductionHypothesis =>
    rcases taken.debugTokens_of_before before with ⟨kept, after⟩
    rcases inductionHypothesis after with ⟨reads, given⟩
    exact ⟨.step (taken.without_of_kept kept) reads, given⟩

/-! ## What the argument can be -/

/-- The argument spells no flag but the one that dumps tokens. -/
theorem Spells.debugTokens_of_mem {flag : Flag} {value : Option String}
    (spells : Spells flag value chunk) (listed : "--debug-tokens" ∈ chunk) :
    chunk = ["--debug-tokens"] ∧ flag = .debugTokens ∧ value = none := by
  cases spells with
  | attached spelled valued =>
    rw [← List.mem_singleton.mp listed, flag?_debugTokens] at spelled
    cases spelled
  | detached spelled valued plain =>
    simp only [List.mem_cons, List.not_mem_nil, or_false] at listed
    rcases listed with rfl | rfl
    · rw [flag?_debugTokens] at spelled
      cases spelled
      cases valued
    · rw [isFlag_of_flag? flag?_debugTokens] at plain
      cases plain
  | bare spelled valueless =>
    obtain rfl := List.mem_singleton.mp listed
    rw [flag?_debugTokens] at spelled
    cases spelled
    exact ⟨rfl, rfl, rfl⟩

/-- A step takes the argument only as the flag that dumps tokens. -/
theorem Takes.debugTokens_of_mem (taken : Takes place reading options chunk next)
    (listed : "--debug-tokens" ∈ chunk) :
    chunk = ["--debug-tokens"] ∧ place = some .compile ∧ options.set .debugTokens = .ok next := by
  cases taken with
  | flag spells stands given =>
    rcases spells.debugTokens_of_mem listed with ⟨alone, rfl, rfl⟩
    exact ⟨alone, by simpa [Flag.mayStand] using stands, given⟩
  | ritual plain given =>
    rw [← List.mem_singleton.mp listed, isFlag_of_flag? flag?_debugTokens] at plain
    cases plain

theorem Takes.namesRitual_congr (taken : Takes place reading options chunk next)
    {first second : List String} (same : namesRitual first = namesRitual second) :
    namesRitual (chunk ++ first) = namesRitual (chunk ++ second) := by
  cases taken with
  | flag spells stands given => rw [spells.namesRitual_append, spells.namesRitual_append, same]
  | ritual plain given =>
    have decides := namesRitual_other (ne_dashes_of_plain plain) (flag?_of_plain plain)
    simp only [List.singleton_append, decides, plain, Bool.false_eq_true, if_false]

/-- What the argument can be where it is put between others: the flag, something behind
the command, or a path behind two hyphens.  In the last case no other path is given. -/
inductive Inserted (place : Option Name) (options : Options) (front back : List String)
    (final : Options) (left : Option (Name × List String)) : Prop where
  | flag (standing : place = some .compile)
      (same : namesRitual (front ++ "--debug-tokens" :: back) = namesRitual (front ++ back))
      (given : final.debugTokens = true)
      (reads : Reads place options (front ++ back) (final.without Flag.dumpsTokens) left)
  | behind {command : Name} {middle : List String}
      (same : namesRitual (front ++ "--debug-tokens" :: back) = namesRitual (front ++ back))
      (leaves : left = some (command, middle ++ "--debug-tokens" :: back))
      (reads : Reads place options (front ++ back) final (some (command, middle ++ back)))
  | path (free : options.ritual = none) (leaves : left = none)
      (alone : withoutFlags (fun _ => true) (front ++ back) = ["--"])

theorem Takes.inserted (taken : Takes place reading options chunk next) {front back : List String}
    (inserted : Inserted place next front back final left) :
    Inserted place options (chunk ++ front) back final left := by
  cases inserted with
  | flag standing same given reads =>
    have same := taken.namesRitual_congr same
    rw [← List.append_assoc, ← List.append_assoc] at same
    exact .flag standing same given (List.append_assoc .. ▸ .step taken reads)
  | behind same leaves reads =>
    have same := taken.namesRitual_congr same
    rw [← List.append_assoc, ← List.append_assoc] at same
    exact .behind same leaves (List.append_assoc .. ▸ .step taken reads)
  | path free leaves alone =>
    cases reading with
    | none =>
      cases taken with
      | ritual plain given =>
        rcases Options.giveRitual_eq_ok given with ⟨_, rfl⟩
        cases free
    | some flag =>
      have same := congrArg Options.ritual
        (taken.without_of_dropped (rfl : (some flag).any (fun _ => true) = true))
      refine .path (same.symm.trans free) leaves ?_
      rw [List.append_assoc, taken.withoutFlags_append, alone]
      rfl

theorem Reads.inserted {front back : List String}
    (reads : Reads place options (front ++ "--debug-tokens" :: back) final left) :
    Inserted place options front back final left := by
  generalize whole : front ++ "--debug-tokens" :: back = arguments at reads
  -- The parts of the reading in front of the argument are the same without it.
  induction reads generalizing front with
  | ended options => simp at whole
  | dashes given =>
    cases front with
    | nil => simp at whole
    | cons argument front =>
      simp only [List.cons_append, List.cons.injEq] at whole
      rcases whole with ⟨rfl, rfl⟩
      rcases Options.giveRituals_eq_ok given with ⟨nothing, _⟩ | ⟨path, one, free, _⟩
      · simp at nothing
      -- only one path can be given, so it is the argument
      · have alone : front = [] ∧ "--debug-tokens" = path ∧ back = [] := by
          simpa [List.append_eq_singleton_iff] using one
        rcases alone with ⟨rfl, _, rfl⟩
        exact .path free rfl rfl
  | command outside named rest =>
    have plain := plain_of_named named
    cases front with
    | nil =>
      simp only [List.nil_append, List.cons.injEq] at whole
      rcases whole with ⟨rfl, rfl⟩
      rw [isFlag_of_flag? flag?_debugTokens] at plain
      cases plain
    | cons argument front =>
      simp only [List.cons_append, List.cons.injEq] at whole
      rcases whole with ⟨rfl, rfl⟩
      refine .behind ?_ rfl (.command outside named (front ++ back))
      simp [namesRitual_other (ne_dashes_of_plain plain) (flag?_of_plain plain), plain]
  | step taken later inductionHypothesis =>
    rcases append_eq_append_cons whole with ⟨middle, rfl, rfl⟩ | ⟨middle, rfl, rfl⟩
    · exact taken.inserted (inductionHypothesis rfl)
    · -- the argument is in the step itself
      rcases taken.debugTokens_of_mem (by simp) with ⟨alone, standing, given⟩
      have parts : front = [] ∧ middle = [] := by
        simpa [List.append_eq_singleton_iff] using alone
      rcases parts with ⟨rfl, rfl⟩
      rcases Options.set_debugTokens given with ⟨_, after, same⟩
      rcases later.without_dumpsTokens after with ⟨reads, given⟩
      rw [same] at reads
      exact .flag standing (namesRitual_complete flag?_debugTokens (by decide) _) given reads

/-- Two hyphens alone give no ritual and leave no command. -/
theorem Reads.of_dashes_alone (reads : Reads place options arguments final left)
    (alone : withoutFlags (fun _ => true) arguments = ["--"]) :
    left = none ∧ final.ritual = options.ritual := by
  have reads := reads.without (fun _ => true)
  rw [alone] at reads
  rcases reads.unique (.dashes rfl) with ⟨same, nothing⟩
  have unchanged := congrArg Options.ritual same
  exact ⟨by simpa using nothing, unchanged⟩

end

/-! ## Command lines with and without the flag -/

section

variable {before behind otherBefore otherBehind : Options}

/-- If a ritual is given without the argument, the argument is the flag. -/
theorem Understood.inserted {front back : List String}
    (dumping : Understood (front ++ "--debug-tokens" :: back) before .compile behind)
    (plain : Understood (front ++ back) otherBefore .compile otherBehind)
    (given : otherBehind.ritual ≠ none) :
    behind.debugTokens = true ∧ before = otherBefore ∧
      behind.without Flag.dumpsTokens = otherBehind := by
  cases names : namesRitual (front ++ "--debug-tokens" :: back) with
  | true =>
    rcases (understood_iff_of_names names).mp dumping with ⟨rfl, _, reads⟩
    cases reads.inserted with
    | flag standing same dumps reads =>
      rw [same] at names
      have again := (understood_iff_of_names names).mpr ⟨rfl, rfl, reads⟩
      rcases again.unique plain with ⟨rfl, _, rfl⟩
      exact ⟨dumps, rfl, rfl⟩
    | behind same leaves reads => cases leaves
    | path free leaves alone =>
      -- two hyphens alone do not stand for a command, and none is left behind them
      have unnamed : namesRitual (front ++ back) = false := by
        rw [← namesRitual_withoutFlags (fun _ => true), alone]
        rfl
      rcases (understood_iff_of_not_names unnamed).mp plain with ⟨rest, reads, _⟩
      cases (reads.of_dashes_alone alone).1
  | false =>
    rcases (understood_iff_of_not_names names).mp dumping with ⟨rest, readBefore, readBehind⟩
    cases readBefore.inserted with
    | flag standing same dumps reads => cases standing
    | path free leaves alone => cases leaves
    | behind same leaves plainBefore =>
      cases leaves
      rw [same] at names
      cases readBehind.inserted with
      | flag standing _ dumps plainBehind =>
        have again := (understood_iff_of_not_names names).mpr ⟨_, plainBefore, plainBehind⟩
        rcases again.unique plain with ⟨rfl, _, rfl⟩
        exact ⟨dumps, rfl, rfl⟩
      | behind _ leaves _ => cases leaves
      | path free leaves alone =>
        -- the command is there without the argument, but its ritual is not
        rcases (understood_iff_of_not_names names).mp plain with ⟨rest, reads, readRest⟩
        rcases reads.unique plainBefore with ⟨rfl, leaves⟩
        cases leaves
        exact absurd (readRest.of_dashes_alone alone).2 given

end

end Command
end Ritual
