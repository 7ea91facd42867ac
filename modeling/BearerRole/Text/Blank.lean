import BearerRole.Text.Basic

/-!
Blank code points and trimming. The blank ones are the white space of Unicode together with the four
information separators U+001C to U+001F; the zero-width space and the byte order mark are not among them.
-/

namespace BearerRole.Text

set_option autoImplicit false

def isBlank (c : CodePoint) : Bool :=
  (9 ≤ c && c ≤ 13) || (0x1C ≤ c && c ≤ 0x20) || c == 0x85 || c == 0xA0 || c == 0x1680 ||
    (0x2000 ≤ c && c ≤ 0x200A) || c == 0x2028 || c == 0x2029 || c == 0x202F || c == 0x205F ||
    c == 0x3000

/-- The white space of Unicode proper: the blanks without the information separators. -/
def isWhiteSpace (c : CodePoint) : Bool := isBlank c && !(0x1C ≤ c && c ≤ 0x1F)

def trimStartOf (p : CodePoint → Bool) (t : Text) : Text := t.dropWhile p

def trimEndOf (p : CodePoint → Bool) (t : Text) : Text := (t.reverse.dropWhile p).reverse

def trimOf (p : CodePoint → Bool) (t : Text) : Text := trimEndOf p (trimStartOf p t)

def trim (t : Text) : Text := trimOf isBlank t

def isBlankText (t : Text) : Bool := t.all isBlank

end BearerRole.Text
