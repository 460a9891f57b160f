import LogGate.Text.Range

/-!
White space, and text without the white space at its two ends.
-/

namespace LogGate.Text

/-- These ranges hold the white space of Unicode 14 and the four separators U+001C to U+001F. -/
def blankRanges : List CodeRange :=
  [⟨0x09, 0x0D⟩, ⟨0x1C, 0x20⟩, ⟨0x85, 0x85⟩, ⟨0xA0, 0xA0⟩, ⟨0x1680, 0x1680⟩, ⟨0x2000, 0x200A⟩,
    ⟨0x2028, 0x2029⟩, ⟨0x202F, 0x202F⟩, ⟨0x205F, 0x205F⟩, ⟨0x3000, 0x3000⟩]

def isBlankChar (c : Char) : Bool :=
  anyCovers blankRanges c

/-- Trimming removes blank characters from both ends and keeps those inside. -/
def trimChars (chars : List Char) : List Char :=
  ((chars.dropWhile isBlankChar).reverse.dropWhile isBlankChar).reverse

def trim (text : String) : String :=
  String.ofList (trimChars text.toList)

/-- A blank text holds no character but white space; the empty text is blank. -/
def isBlank (text : String) : Bool :=
  text.toList.all isBlankChar

end LogGate.Text
