import Ritual.Yaml.Tag
import Ritual.Yaml.Value

namespace Ritual
namespace Yaml

/-!
# What scalars stand for

A plain scalar may be null, a truth value, an integer or a floating-point value
by its text alone.  Anything else is text.  Decimal digits behind a leading zero
are text too, and so are the many spellings of truth values that older documents
use.
-/

/-- The truth value that a text spells. -/
def bool? : String → Option Bool
  | "true" | "True" | "TRUE" => some true
  | "false" | "False" | "FALSE" => some false
  | _ => none

/-- Whether a text that is not empty spells null. -/
def spellsNull : String → Bool
  | "null" | "Null" | "NULL" | "~" => true
  | _ => false

/-! ## Integers -/

/-- The value of a digit in a base of at most sixteen. -/
def digitValue? (base : Nat) (char : Char) : Option Nat :=
  let value :=
    if '0' ≤ char ∧ char ≤ '9' then char.toNat - '0'.toNat
    else if 'a' ≤ char ∧ char ≤ 'f' then char.toNat - 'a'.toNat + 10
    else if 'A' ≤ char ∧ char ≤ 'F' then char.toNat - 'A'.toNat + 10
    else base
  if value < base then some value else none

/-- The value of digits in a base.  There must be at least one. -/
def digitsValue? (base : Nat) : List Char → Option Nat
  | [] => none
  | digits =>
    digits.foldl (fun value char =>
      value.bind fun sum => (digitValue? base char).map (sum * base + ·)) (some 0)

/-- Whether the digits are decimal and begin with a zero that is not the only
one. -/
def hasLeadingZero : List Char → Bool
  | '0' :: second :: rest => (second :: rest).all Char.isDigit
  | _ => false

/-- The natural number that characters without a sign spell, in base sixteen,
eight, two or ten. -/
def natural? : List Char → Option Nat
  | '0' :: 'x' :: digits => digitsValue? 16 digits
  | '0' :: 'o' :: digits => digitsValue? 8 digits
  | '0' :: 'b' :: digits => digitsValue? 2 digits
  | digits => if hasLeadingZero digits then none else digitsValue? 10 digits

/-- The integer that characters spell. -/
def integer? : List Char → Option Int
  | '-' :: rest => (natural? rest).map fun value => -(value : Int)
  | '+' :: rest => (natural? rest).map fun value => (value : Int)
  | rest => (natural? rest).map fun value => (value : Int)

/-- An integer of at most 64 bits as a value.  An integer of at most 128 bits is
refused, and a larger one is no integer. -/
def integerValue? (value : Int) : Except Refusal (Option Value) :=
  let between (bitsBelow bitsAbove : Nat) : Bool :=
    decide (-(Number.twoTo bitsBelow : Int) ≤ value) && decide (value < Number.twoTo bitsAbove)
  if between 63 64 then .ok (some (.integer value))
  else if between 127 128 then .error .integerTooLarge
  else .ok none

/-! ## Floating-point values -/

/-- The exponent that characters spell, empty ones standing for zero. -/
def exponent? : List Char → Option Int
  | [] => some 0
  | letter :: rest =>
    if letter = 'e' ∨ letter = 'E' then
      match rest with
      | '-' :: digits => (digitsValue? 10 digits).map fun value => -(value : Int)
      | '+' :: digits => (digitsValue? 10 digits).map fun value => (value : Int)
      | digits => (digitsValue? 10 digits).map fun value => (value : Int)
    else none

/-- The magnitude that characters without a sign spell as a decimal: digits with
a point among or around them, and an exponent. -/
def magnitude? (chars : List Char) : Option Number.Magnitude := do
  let whole := chars.takeWhile Char.isDigit
  let afterWhole := chars.dropWhile Char.isDigit
  let (fraction, afterFraction) :=
    match afterWhole with
    | '.' :: rest => (rest.takeWhile Char.isDigit, rest.dropWhile Char.isDigit)
    | rest => ([], rest)
  let significand ← digitsValue? 10 (whole ++ fraction)
  let exponent ← exponent? afterFraction
  Number.Magnitude.ofDecimal? significand (exponent - fraction.length)

/-- The floating-point value that a text spells. -/
def float? (text : String) : Option Number.Binary64 :=
  match text with
  | ".inf" | ".Inf" | ".INF" | "+.inf" | "+.Inf" | "+.INF" => some (.infinite false)
  | "-.inf" | "-.Inf" | "-.INF" => some (.infinite true)
  | ".nan" | ".NaN" | ".NAN" => some .notANumber
  | text =>
    match text.toList with
    | '-' :: rest => (magnitude? rest).map (.finite true)
    | '+' :: rest => (magnitude? rest).map (.finite false)
    | rest => (magnitude? rest).map (.finite false)

/-! ## Scalars -/

/-- The characters behind a sign, or all without one. -/
def withoutSign : List Char → List Char
  | '-' :: rest => rest
  | '+' :: rest => rest
  | rest => rest

/-- The value that an untagged plain scalar stands for. -/
def plainValue (text : String) : Except Refusal Value :=
  if text.isEmpty || spellsNull text then .ok .null
  else
    match bool? text with
    | some value => .ok (.bool value)
    | none => do
      let integer ←
        match integer? text.toList with
        | some value => integerValue? value
        | none => pure none
      match integer with
      | some value => return value
      | none =>
        if hasLeadingZero (withoutSign text.toList) then return .text text
        else
          match float? text with
          | some value => return .float value
          | none => return .text text

/-- A value that a tag demands of a scalar. -/
def demanded (value : Option Value) : Except Refusal Value :=
  match value with
  | some value => .ok value
  | none => .error .tagMismatch

/-- The value of a scalar with a tag.  Four core types are demanded of the text,
quoted or not, and a tag of the document's own is kept beside what the scalar
would stand for without it, if it is text itself.  Under any other tag a scalar
is text. -/
def taggedValue (tag : Tag) (plain : Bool) (text : String) : Except Refusal Value :=
  match tag with
  | .own name => (if plain then plainValue text else .ok (.text text)).map (.tagged name)
  | .unreadable => if plain then plainValue text else .ok (.text text)
  | .bool => demanded ((bool? text).map .bool)
  | .integer =>
    match integer? text.toList with
    | some value => integerValue? value >>= demanded
    | none => .error .tagMismatch
  | .float => demanded ((float? text).map .float)
  | .null => demanded (if spellsNull text then some .null else none)
  | .other => .ok (.text text)

/-- The value of a scalar. -/
def scalarValue (tag : Option Tag) (plain : Bool) (text : String) : Except Refusal Value :=
  match tag with
  | some tag => taggedValue tag plain text
  | none => if plain then plainValue text else .ok (.text text)

end Yaml
end Ritual
