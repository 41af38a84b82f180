set_option autoImplicit false

/-! # White space of texts

The characters with the Unicode property White_Space, and texts that hold nothing else. -/

namespace FormatBridge.Text

/-- The ranges, both ends included, of the white-space characters. -/
def blankRanges : List (Nat × Nat) :=
  [(0x09, 0x0D), (0x20, 0x20), (0x85, 0x85), (0xA0, 0xA0), (0x1680, 0x1680), (0x2000, 0x200A),
    (0x2028, 0x2029), (0x202F, 0x202F), (0x205F, 0x205F), (0x3000, 0x3000)]

/-- Whether a character is white space. -/
def isBlankChar (c : Char) : Bool :=
  blankRanges.any fun (first, last) => first ≤ c.toNat && c.toNat ≤ last

/-- Whether a text is empty or all white space. -/
def isBlank (s : String) : Bool := s.toList.all isBlankChar

end FormatBridge.Text
