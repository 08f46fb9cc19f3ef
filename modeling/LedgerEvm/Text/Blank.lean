namespace LedgerEvm.Text

/-!
# Blank characters

The characters of the standard's white-space class, and trimming by them.
-/

/-- The code points of the white-space class. -/
def blankCodes : List Nat :=
  [0x09, 0x0a, 0x0b, 0x0c, 0x0d, 0x20, 0x85, 0xa0, 0x1680,
   0x2000, 0x2001, 0x2002, 0x2003, 0x2004, 0x2005, 0x2006, 0x2007, 0x2008, 0x2009, 0x200a,
   0x2028, 0x2029, 0x202f, 0x205f, 0x3000]

/-- Whether a character is white space. -/
def isBlank (character : Char) : Bool :=
  blankCodes.contains character.toNat

/-- The characters between the first and the last that is not blank. -/
def trim (text : List Char) : List Char :=
  ((text.dropWhile isBlank).reverse.dropWhile isBlank).reverse

/-- Every white-space character of core is blank. -/
theorem isBlank_of_isWhitespace
    {character : Char}
    (white : character.isWhitespace = true) :
    isBlank character = true := by
  simp only [Char.isWhitespace, Bool.or_eq_true, decide_eq_true_eq] at white
  rcases white with ((rfl | rfl) | rfl) | rfl <;> decide

/-- A text without blanks at its ends is its own trimmed form. -/
theorem trim_eq_self
    {text : List Char}
    (first : text.dropWhile isBlank = text)
    (last : text.reverse.dropWhile isBlank = text.reverse) :
    trim text = text := by
  simp [trim, first, last]

end LedgerEvm.Text
