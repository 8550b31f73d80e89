import FacetQuery.Text.Characters

/-! Separators: the characters that end a word of a query. -/
namespace FacetQuery

/-- Punctuation that separates words. -/
def punctuation : List Char := ['.', ',', '\'', '"', '+', '-', '!', '?', ':']

/-- A character that stands between words: blank, or one of the nine punctuation marks. -/
def isSeparator (c : Char) : Bool := isBlank c || punctuation.contains c

/-- A mark that opens and closes a phrase. -/
def isQuote (c : Char) : Bool := c = '"' || c = '\''

def isWordChar (c : Char) : Bool := !isSeparator c

/-- The longest beginning without a separator. -/
def leadingWord (cs : List Char) : List Char := cs.takeWhile isWordChar

/-- A word may begin behind the character `last`; at the start of a text there is none. -/
def opensWord (last : Option Char) : Bool := last.all isSeparator

theorem isSeparator_of_isBlank {c : Char} (h : isBlank c = true) : isSeparator c = true := by
  simp [isSeparator, h]

theorem isSeparator_of_isQuote {c : Char} (h : isQuote c = true) : isSeparator c = true := by
  simp only [isQuote, Bool.or_eq_true, decide_eq_true_eq] at h
  rcases h with rfl | rfl <;> decide

end FacetQuery
