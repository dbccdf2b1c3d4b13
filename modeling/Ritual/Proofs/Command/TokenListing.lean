import Ritual.Proofs.Command.Output
import Ritual.Proofs.Token.Display

namespace Ritual
namespace Command

/-!
# The listing of a ritual's tokens

A listing has one line for every token and one for their number.  No line breaks within,
so the listing is cut into its lines again, and since a line tells which token it shows,
the listing tells which tokens a ritual has.  Only the spans are not shown.
-/

/-! ## Lines of tokens -/

/-- The line that closes a listing of so many tokens. -/
def totalLine (count : Nat) : String :=
  "TOTAL TOKENS: " ++ toString count

theorem oneLine_totalLine (count : Nat) : Text.OneLine (totalLine count) := by
  have label : Text.OneLine "TOTAL TOKENS: " := by decide
  exact Text.oneLine_append.mpr ⟨label, .natural count⟩

/-- The lines of a listing, and nothing behind the last of them. -/
def listedLines (tokens : List Token) : List String :=
  tokens.map Token.display ++ [totalLine tokens.length, ""]

theorem listedLines_ne_nil (tokens : List Token) : listedLines tokens ≠ [] := by
  simp [listedLines]

theorem oneLine_of_mem_listedLines {tokens : List Token} :
    ∀ line ∈ listedLines tokens, Text.OneLine line := by
  intro line listed
  rcases List.mem_append.mp listed with shown | closing
  · rcases List.mem_map.mp shown with ⟨token, _, rfl⟩
    exact token.oneLine_display
  · rcases List.mem_cons.mp closing with rfl | last
    · exact oneLine_totalLine _
    · rw [List.mem_singleton.mp last]
      decide

/-- Texts with a line feed behind each, but not behind the last one, are texts with line feeds
between them. -/
theorem join_lines (texts : List String) (first second : String) :
    String.join (texts.map fun text => text ++ "\n") ++ first ++ "\n" ++ second =
      "\n".intercalate (texts ++ [first, second]) := by
  induction texts with
  | nil => simp
  | cons text rest inductionHypothesis =>
    rw [List.map_cons, String.join_cons, List.cons_append,
      String.intercalate_cons_of_ne_nil (by simp), ← inductionHypothesis]
    simp only [String.append_assoc]

theorem tokenLines_eq (tokens : List Token) :
    tokenLines tokens = "\n".intercalate (listedLines tokens) := by
  rw [listedLines, ← join_lines, List.map_map, tokenLines, totalLine]
  simp only [String.append_assoc, String.append_empty]
  rfl

/-- A listing is cut into its lines. -/
theorem splitOn_tokenLines (tokens : List Token) :
    (tokenLines tokens).toList.splitOn '\n' = (listedLines tokens).map String.toList := by
  rw [tokenLines_eq]
  exact Text.lines_intercalate (listedLines_ne_nil tokens) oneLine_of_mem_listedLines

theorem map_shown_of_displays {first second : List Token}
    (same : first.map Token.display = second.map Token.display) :
    first.map Token.shown = second.map Token.shown := by
  induction first generalizing second with
  | nil =>
    cases second with
    | nil => rfl
    | cons other others => cases same
  | cons token rest inductionHypothesis =>
    cases second with
    | nil => cases same
    | cons other others =>
      rcases List.cons.inj same with ⟨line, lines⟩
      rw [List.map_cons, List.map_cons, Token.display_inj.mp line, inductionHypothesis lines]

/-- A listing tells which tokens are listed. -/
theorem map_shown_of_tokenLines {first second : List Token}
    (same : tokenLines first = tokenLines second) :
    first.map Token.shown = second.map Token.shown := by
  have cut := congrArg (fun listing : String => listing.toList.splitOn '\n') same
  simp only [splitOn_tokenLines] at cut
  have lines := List.map_injective_iff.mpr (fun _ _ => String.toList_inj.mp) cut
  exact map_shown_of_displays (List.append_inj_left' lines rfl)

/-! ## Runs that list -/

/-- Whether a run is to list tokens as text and finds the ritual that it is given, with the
source. -/
def Lists (surroundings : Surroundings) (arguments : List String) (source : String) : Prop :=
  ∃ request ritual, Request.ofArguments surroundings.canonPath arguments = .ok request ∧
    request.action = .tokens ritual ∧ request.format = .text ∧
    surroundings.read ritual = .ok source

theorem run_of_lists {surroundings : Surroundings} {arguments : List String} {source : String}
    (lists : Lists surroundings arguments source) :
    run surroundings arguments = .success (tokenLines (Token.tokenize source)) "" := by
  rcases lists with ⟨request, ritual, accepted, asked, asText, found⟩
  have readable := (Reader.ritual_eq_ok_iff _ _ _).mpr found
  rw [run_of_accepted accepted, perform, asked]
  simp only [tokens, readable, asText]

/-- A token is shown on one line, and the line tells its kind, its text and its location.  A
listing has these lines and their number, so it tells which tokens the ritual has, except
for their spans. -/
theorem listing_unambiguous :
    (∀ token : Token, '\n' ∉ token.display.toList) ∧
    (∀ token other : Token, token.display = other.display →
      token.kind = other.kind ∧ token.text = other.text ∧
        token.location.line = other.location.line ∧
        token.location.column = other.location.column) ∧
    (∀ surroundings arguments source, Lists surroundings arguments source →
      (run surroundings arguments).code = 0 ∧
        (run surroundings arguments).output.toList.splitOn '\n' =
          (Token.tokenize source).map (fun token => token.display.toList) ++
            [("TOTAL TOKENS: " ++ toString (Token.tokenize source).length).toList, []]) ∧
    ∀ surroundings arguments source, Lists surroundings arguments source →
      ∀ others otherArguments otherSource, Lists others otherArguments otherSource →
        (run surroundings arguments).output = (run others otherArguments).output →
          (Token.tokenize source).map Token.shown =
            (Token.tokenize otherSource).map Token.shown := by
  refine ⟨Token.oneLine_display, ?_, ?_, ?_⟩
  · intro token other same
    rcases Prod.mk.inj (Token.display_inj.mp same) with ⟨kind, parts⟩
    rcases Prod.mk.inj parts with ⟨text, location⟩
    exact ⟨kind, text, congrArg _ location, congrArg _ location⟩
  · intro surroundings arguments source lists
    rw [run_of_lists lists, Outcome.success, splitOn_tokenLines, listedLines, List.map_append,
      List.map_map]
    exact ⟨rfl, rfl⟩
  · intro surroundings arguments source lists others otherArguments otherSource otherLists same
    rw [run_of_lists lists, run_of_lists otherLists] at same
    exact map_shown_of_tokenLines same

/-- Two rituals with one listing, and two tokens on one line whose text imitates a location. -/
theorem listing_unambiguous_tab :
    let around (bytes : List UInt8) : Surroundings :=
      let tree : FileTree := ⟨[(["r"], .file bytes)]⟩
      ⟨tree.reader [], tree.isFile [], "/bin/codecraft", none, none, fun _ => ⟨0, 0⟩,
        fun _ => ""⟩
    let token : Token := ⟨.string, "a\" L2:C2", ⟨1, 1⟩, ⟨0, 12⟩⟩
    let other : Token := ⟨.string, "a\" L2:C2", ⟨1, 1⟩, ⟨3, 15⟩⟩
    (token.display = other.display ∧ token.kind = other.kind ∧ token.text = other.text) ∧
    (Lists (around [0x20, 0x78]) ["tokens", "r"] " x" ∧
      (run (around [0x20, 0x78]) ["tokens", "r"]).output.toList.splitOn '\n' =
        ["identifier         \"x\" L1:C2".toList, "eof                \"\" L1:C3".toList,
          "TOTAL TOKENS: 2".toList, []]) ∧
    Lists (around [0x09, 0x78]) ["tokens", "--", "r"] "\tx" ∧
      (run (around [0x20, 0x78]) ["tokens", "r"]).output =
        (run (around [0x09, 0x78]) ["tokens", "--", "r"]).output ∧
      (Token.tokenize " x").map Token.shown = (Token.tokenize "\tx").map Token.shown := by
  intro around token other
  rcases listing_unambiguous with ⟨_, tokens, lines, sources⟩
  have same : token.display = other.display := rfl
  have spaced : Lists (around [0x20, 0x78]) ["tokens", "r"] " x" :=
    ⟨⟨.text, false, none, .tokens "r"⟩, "r", rfl, rfl, rfl, by decide +kernel⟩
  have tabbed : Lists (around [0x09, 0x78]) ["tokens", "--", "r"] "\tx" :=
    ⟨⟨.text, false, none, .tokens "r"⟩, "r", rfl, rfl, rfl, by decide +kernel⟩
  have outputs : (run (around [0x20, 0x78]) ["tokens", "r"]).output =
      (run (around [0x09, 0x78]) ["tokens", "--", "r"]).output := by
    decide +kernel
  have cut := (lines _ _ _ spaced).2
  have listed : (Token.tokenize " x").map (fun token => token.display.toList) =
      ["identifier         \"x\" L1:C2".toList, "eof                \"\" L1:C3".toList] := by
    decide +kernel
  have counted : "TOTAL TOKENS: " ++ toString (Token.tokenize " x").length =
      "TOTAL TOKENS: 2" := by
    decide +kernel
  rw [listed, counted] at cut
  exact ⟨⟨same, (tokens token other same).1, (tokens token other same).2.1⟩, ⟨spaced, cut⟩,
    tabbed, outputs, sources _ _ _ spaced _ _ _ tabbed outputs⟩

end Command
end Ritual
