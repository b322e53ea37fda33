import ListField.Text.Blank
/-!
# Identifiers

Every row of the store is named by a signed 64-bit integer, written as its bare
decimal number. Choice ids start above `noneId`, the id that stands for "no value"
in a submission and is never the id of a stored choice.

Ids typed by hand are read by `readId`: blanks around the number are ignored, an
optional sign comes first, and the digits are read from the left; the first digit
that is not one, or the first step that leaves the 64-bit range, decides the error.
-/

namespace ListField

/-- A user of the project. -/
abbrev UserId := Int
/-- A group of users. -/
abbrev GroupId := Int
/-- A list field. -/
abbrev FieldId := Int
/-- A choice of a list field. -/
abbrev ValueId := Int
/-- A work item that carries field values. -/
abbrev ArtifactId := Int
/-- A set of field values recorded together on an artifact. -/
abbrev ChangesetId := Int
/-- The stored values of one field in one changeset. -/
abbrev RowId := Int
/-- An edge of a field's workflow. -/
abbrev TransitionId := Int

/-- The id that stands for "no value" in a submission. -/
def noneId : ValueId := 100

/-- The least id, `-2^63`. -/
def idMin : Int := -9223372036854775808

/-- The greatest id, `2^63 - 1`. -/
def idMax : Int := 9223372036854775807

/-- Why a text is not an integer of the wanted range. -/
inductive IntError where
  | empty
  | invalidDigit
  | tooLarge
  | tooSmall
  deriving DecidableEq, Repr

/-- The sentence that reports an integer reading error. -/
def IntError.message : IntError → String
  | .empty => "cannot parse integer from empty string"
  | .invalidDigit => "invalid digit found in string"
  | .tooLarge => "number too large to fit in target type"
  | .tooSmall => "number too small to fit in target type"

/-- Reads the digits of a number into `acc`, away from zero in the direction of the
sign, and stops at the first non-digit or the first step outside `[lo, hi]`. -/
def readDigits (lo hi : Int) (negative : Bool) : Int → List Char → Except IntError Int
  | acc, [] => .ok acc
  | acc, c :: cs =>
    if c.isDigit then
      let d : Int := (c.toNat - '0'.toNat : Nat)
      let next := if negative then acc * 10 - d else acc * 10 + d
      if hi < next then .error .tooLarge
      else if next < lo then .error .tooSmall
      else readDigits lo hi negative next cs
    else .error .invalidDigit

/-- Reads a decimal integer in `[lo, hi]`: an optional `+` or `-`, then digits. -/
def readIntIn (lo hi : Int) (s : String) : Except IntError Int :=
  match s.toList with
  | [] => .error .empty
  | ['+'] => .error .invalidDigit
  | ['-'] => .error .invalidDigit
  | '+' :: ds => readDigits lo hi false 0 ds
  | '-' :: ds => if lo < 0 then readDigits lo hi true 0 ds else .error .invalidDigit
  | ds => readDigits lo hi false 0 ds

/-- Reads a signed 64-bit integer. -/
def readInt64 (s : String) : Except IntError Int :=
  readIntIn idMin idMax s

/-- Reads an unsigned 64-bit integer. -/
def readUInt64 (s : String) : Except IntError Int :=
  readIntIn 0 18446744073709551615 s

/-- Reads an id typed by hand: a signed 64-bit integer between optional blanks. -/
def readId (s : String) : Except IntError Int :=
  readInt64 (Text.trim s)

theorem readDigits_nil (lo hi : Int) (negative : Bool) (acc : Int) :
    readDigits lo hi negative acc [] = .ok acc := rfl

end ListField
