/-!
# Blank characters

The characters that separate words: those whose bidirectional class is a separator or white
space, and the space separators.

* `isBlank_of_isWhitespace`: every blank of the core library is one.
* `strip`: a text without the blanks at its two ends.
-/

namespace EventHub.Text

/-- The blank characters, by code point. -/
def blankCodes : List Nat :=
  [9, 10, 11, 12, 13, 28, 29, 30, 31, 32, 133, 160, 5760, 8192, 8193, 8194, 8195, 8196, 8197,
   8198, 8199, 8200, 8201, 8202, 8232, 8233, 8239, 8287, 12288]

/-- Is the character a blank? -/
def isBlank (c : Char) : Bool := blankCodes.contains c.toNat

theorem isBlank_of_isWhitespace (c : Char) (h : c.isWhitespace = true) : isBlank c = true := by
  simp only [Char.isWhitespace, Bool.or_eq_true, decide_eq_true_eq] at h
  rcases h with ((h | h) | h) | h <;> subst h <;> decide

/-- Drops the blanks at both ends. -/
def stripChars (cs : List Char) : List Char :=
  ((cs.dropWhile isBlank).reverse.dropWhile isBlank).reverse

/-- Drops the blanks at both ends of a text. -/
def strip (s : String) : String := String.ofList (stripChars s.toList)

end EventHub.Text
