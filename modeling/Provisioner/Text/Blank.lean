/-!
# Blank text

A character is blank when Unicode gives it the property White_Space. Import keys, response bodies
and display names count as empty when they hold nothing else.
-/

namespace Provisioner.Text

set_option autoImplicit false

/-- The code points with the property White_Space, as inclusive ranges. -/
def whiteSpaceRanges : List (Nat × Nat) :=
  [(0x9, 0xD), (0x20, 0x20), (0x85, 0x85), (0xA0, 0xA0), (0x1680, 0x1680), (0x2000, 0x200A),
    (0x2028, 0x2029), (0x202F, 0x202F), (0x205F, 0x205F), (0x3000, 0x3000)]

def isBlankChar (c : Char) : Bool :=
  whiteSpaceRanges.any fun range => range.1 ≤ c.toNat && c.toNat ≤ range.2

def dropBlankEnd (chars : List Char) : List Char :=
  (chars.reverse.dropWhile isBlankChar).reverse

/-- Drops blank characters at both ends and none between. -/
def trim (text : String) : String :=
  String.ofList (dropBlankEnd (text.toList.dropWhile isBlankChar))

def isBlank (text : String) : Bool := text.toList.all isBlankChar

end Provisioner.Text
