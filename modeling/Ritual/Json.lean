namespace Ritual

/-!
# JSON values and their text

Objects keep their fields in the order given, so the order of a report is the
order in which it is built.  A text is written compactly on one line, or with
one item to a line and two blanks per level.  Only what reports need is here:
there are no fractions, no truth values and no reader.
-/

/-- A value of a report. -/
inductive Json where
  | number (value : Nat)
  | text (value : String)
  | list (items : List Json)
  | object (fields : List (String × Json))

namespace Json

mutual

/-- Values are equal if they are of one form and their parts are equal. -/
def decideEq : (left right : Json) → Decidable (left = right)
  | number left, number right => decidable_of_iff (left = right) (by simp)
  | text left, text right => decidable_of_iff (left = right) (by simp)
  | list left, list right =>
    match decideEqItems left right with
    | isTrue same => isTrue (congrArg list same)
    | isFalse different => isFalse fun same => different (list.inj same)
  | object left, object right =>
    match decideEqFields left right with
    | isTrue same => isTrue (congrArg object same)
    | isFalse different => isFalse fun same => different (object.inj same)
  | number _, text _ | number _, list _ | number _, object _ => isFalse nofun
  | text _, number _ | text _, list _ | text _, object _ => isFalse nofun
  | list _, number _ | list _, text _ | list _, object _ => isFalse nofun
  | object _, number _ | object _, text _ | object _, list _ => isFalse nofun

/-- Lists of items are equal if they agree item by item. -/
def decideEqItems : (left right : List Json) → Decidable (left = right)
  | [], [] => isTrue rfl
  | [], _ :: _ | _ :: _, [] => isFalse nofun
  | left :: leftRest, right :: rightRest =>
    match decideEq left right, decideEqItems leftRest rightRest with
    | isTrue headSame, isTrue restSame => isTrue (by rw [headSame, restSame])
    | isFalse different, _ => isFalse fun same => different (List.cons.inj same).1
    | _, isFalse different => isFalse fun same => different (List.cons.inj same).2

/-- Lists of fields are equal if they agree in keys and values, in order. -/
def decideEqFields : (left right : List (String × Json)) → Decidable (left = right)
  | [], [] => isTrue rfl
  | [], _ :: _ | _ :: _, [] => isFalse nofun
  | (leftKey, left) :: leftRest, (rightKey, right) :: rightRest =>
    if keysSame : leftKey = rightKey then
      match decideEq left right, decideEqFields leftRest rightRest with
      | isTrue headSame, isTrue restSame => isTrue (by rw [keysSame, headSame, restSame])
      | isFalse different, _ =>
        isFalse fun same => different (Prod.mk.inj (List.cons.inj same).1).2
      | _, isFalse different => isFalse fun same => different (List.cons.inj same).2
    else isFalse fun same => keysSame (Prod.mk.inj (List.cons.inj same).1).1

end

instance : DecidableEq Json := decideEq

/-- A hexadecimal digit in lower case. -/
def hexDigit (value : Nat) : Char :=
  Nat.digitChar value

/-- How a JSON text writes one character of a string: the quote and the
backslash behind a backslash, control characters by a letter where there is one
and by four hexadecimal digits otherwise. -/
def escapeChar (char : Char) : List Char :=
  if char = '"' then ['\\', '"']
  else if char = '\\' then ['\\', '\\']
  else if char = '\x08' then ['\\', 'b']
  else if char = '\x0c' then ['\\', 'f']
  else if char = '\n' then ['\\', 'n']
  else if char = '\r' then ['\\', 'r']
  else if char = '\t' then ['\\', 't']
  else if char.toNat < 0x20 then
    ['\\', 'u', '0', '0', hexDigit (char.toNat / 16), hexDigit (char.toNat % 16)]
  else [char]

/-- A string between its quotes. -/
def quoted (value : String) : String :=
  String.ofList (['"'] ++ value.toList.flatMap escapeChar ++ ['"'])

mutual

/-- The text of a value on one line. -/
def compact : Json → String
  | number value => toString value
  | text value => quoted value
  | list items => "[" ++ ",".intercalate (compactItems items) ++ "]"
  | object fields => "\x7b" ++ ",".intercalate (compactFields fields) ++ "\x7d"

/-- The texts of items on one line each. -/
def compactItems : List Json → List String
  | [] => []
  | item :: rest => compact item :: compactItems rest

/-- The texts of fields on one line each. -/
def compactFields : List (String × Json) → List String
  | [] => []
  | (key, value) :: rest => (quoted key ++ ":" ++ compact value) :: compactFields rest

end

/-- Two blanks for every level. -/
def indentation (depth : Nat) : String :=
  String.ofList (List.replicate (2 * depth) ' ')

/-- Parts of a value between brackets, one to a line, at the given depth.
Without parts the brackets stand together. -/
def bracketed (opening closing : String) (depth : Nat) : List String → String
  | [] => opening ++ closing
  | parts =>
    opening ++ "\n" ++ ",\n".intercalate (parts.map (indentation (depth + 1) ++ ·)) ++ "\n" ++
      indentation depth ++ closing

mutual

/-- The text of a value with one item to a line. -/
def pretty (depth : Nat) : Json → String
  | number value => toString value
  | text value => quoted value
  | list items => bracketed "[" "]" depth (prettyItems (depth + 1) items)
  | object fields => bracketed "\x7b" "\x7d" depth (prettyFields (depth + 1) fields)

/-- The texts of items at the given depth. -/
def prettyItems (depth : Nat) : List Json → List String
  | [] => []
  | item :: rest => pretty depth item :: prettyItems depth rest

/-- The texts of fields at the given depth. -/
def prettyFields (depth : Nat) : List (String × Json) → List String
  | [] => []
  | (key, value) :: rest =>
    (quoted key ++ ": " ++ pretty depth value) :: prettyFields depth rest

end

/-- A document with one item to a line, ended by a line feed. -/
def document (value : Json) : String :=
  pretty 0 value ++ "\n"

end Json
end Ritual
