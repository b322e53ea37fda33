/-!
# Blank characters and trimming

Names, logins and labels are compared after their surrounding blanks are cut off.
A blank is a character with the Unicode `White_Space` property: the ASCII controls
from tab to carriage return, the space, next line, no-break space, and the spaces and
separators of the General Punctuation and CJK blocks.

`trim` works on the characters of a text (`trim_toList`): it drops the blank run at
the start, then the blank run at the end.
-/

namespace ListField
namespace Text

/-- A character is blank when it has the Unicode `White_Space` property. -/
def isBlank (c : Char) : Bool :=
  let n := c.toNat
  (0x09 ≤ n && n ≤ 0x0D) || n == 0x20 || n == 0x85 || n == 0xA0 || n == 0x1680 ||
    (0x2000 ≤ n && n ≤ 0x200A) || n == 0x2028 || n == 0x2029 || n == 0x202F ||
    n == 0x205F || n == 0x3000

/-- The characters of a text with the blanks at both ends removed. -/
def trimChars (cs : List Char) : List Char :=
  ((cs.dropWhile isBlank).reverse.dropWhile isBlank).reverse

/-- A text with the blanks at both ends removed. -/
def trim (s : String) : String :=
  String.ofList (trimChars s.toList)

/-- A text with the blanks at its start removed. -/
def trimStart (s : String) : String :=
  String.ofList (s.toList.dropWhile isBlank)

/-- Whether a text holds blanks only (the empty text included). -/
def isBlankText (s : String) : Bool :=
  s.toList.all isBlank

theorem trim_toList (s : String) : (trim s).toList = trimChars s.toList := by
  simp [trim]

theorem trimChars_nil : trimChars [] = [] := rfl

end Text
end ListField
