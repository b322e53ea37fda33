import ListField.Text.Blank
/-!
# Decorators

A decorator is the colour shown next to a choice, written `#rrggbb` with two
lowercase hexadecimal digits per channel.

Reading is lenient about the frame and strict about the digits: blanks around the
text and any number of leading `#` are ignored, and exactly six hexadecimal digits
of either case must remain.
-/

namespace ListField

/-- A colour given by its red, green and blue channels. -/
structure Decorator where
  r : UInt8
  g : UInt8
  b : UInt8
  deriving DecidableEq, Repr

/-- A text that is not a colour. -/
structure DecoratorError where
  text : String
  deriving DecidableEq, Repr

/-- The sentence that reports a text that is not a colour. -/
def DecoratorError.message (e : DecoratorError) : String :=
  "invalid decorator '" ++ e.text ++ "': expected #rrggbb"

namespace Decorator

/-- The lowercase hexadecimal digit of a number below 16. -/
def hexDigit (n : Nat) : Char :=
  if n < 10 then Char.ofNat (48 + n) else Char.ofNat (87 + n)

/-- A channel as two lowercase hexadecimal digits. -/
def channelText (v : UInt8) : String :=
  String.ofList [hexDigit (v.toNat / 16), hexDigit (v.toNat % 16)]

/-- The colour written `#rrggbb`. -/
def render (d : Decorator) : String :=
  "#" ++ channelText d.r ++ channelText d.g ++ channelText d.b

/-- The value of a hexadecimal digit of either case. -/
def hexValue? (c : Char) : Option Nat :=
  if '0' ≤ c ∧ c ≤ '9' then some (c.toNat - 48)
  else if 'a' ≤ c ∧ c ≤ 'f' then some (c.toNat - 87)
  else if 'A' ≤ c ∧ c ≤ 'F' then some (c.toNat - 55)
  else none

/-- The channel written by two hexadecimal digits. -/
def channel? (hi lo : Char) : Option UInt8 := do
  let h ← hexValue? hi
  let l ← hexValue? lo
  pure (UInt8.ofNat (h * 16 + l))

/-- Reads a colour: blanks and leading `#` ignored, then six hexadecimal digits. -/
def parse (s : String) : Except DecoratorError Decorator :=
  match (Text.trim s).toList.dropWhile (· == '#') with
  | [r1, r2, g1, g2, b1, b2] =>
    match channel? r1 r2, channel? g1 g2, channel? b1 b2 with
    | some r, some g, some b => .ok ⟨r, g, b⟩
    | _, _, _ => .error ⟨s⟩
  | _ => .error ⟨s⟩

end Decorator
end ListField
