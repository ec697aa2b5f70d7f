import ScriptEval.Text.Digits

/-!
# Blank characters

Two sets: the Unicode property White_Space (25 characters), and that set with the four information separators
U+001C to U+001F, which is what is taken off around numbers, names and list items.
-/

namespace ScriptEval.Text

/-- The Unicode property White_Space. -/
def isWhiteSpace (c : Char) : Bool :=
  let n := c.toNat
  (0x09 ≤ n && n ≤ 0x0d) || n == 0x20 || n == 0x85 || n == 0xa0 || n == 0x1680 || (0x2000 ≤ n && n ≤ 0x200a)
    || n == 0x2028 || n == 0x2029 || n == 0x202f || n == 0x205f || n == 0x3000

/-- White space or one of the information separators U+001C to U+001F. -/
def isBlank (c : Char) : Bool := isWhiteSpace c || (0x1c ≤ c.toNat && c.toNat ≤ 0x1f)

/-- The text without the blanks at both ends. -/
def strip (t : Text) : Text := trim isBlank t

/-- The items of a comma-separated list, without the blanks around them and without empty ones. -/
def commaItems (t : Text) : List Text := ((splitOn ',' t).map strip).filter (!·.isEmpty)

end ScriptEval.Text
