import SqlTemplate.Unicode.Folding
import SqlTemplate.Unicode.Property

/-!
# Sets of characters that patterns name

Digits, blanks and words exist for all scripts and for ASCII; the sets between `[:` and `:]` are of
ASCII.
-/

namespace SqlTemplate

namespace CharSet

/-- The digits of ASCII. -/
def asciiDigits : CharSet := .ofTable "30-39"

/-- The blanks of ASCII. -/
def asciiBlanks : CharSet := .ofTable "9-D 20"

/-- The letters of ASCII, its digits and the underscore. -/
def asciiWords : CharSet := .ofTable "30-39 41-5A 5F 61-7A"

/-- The characters of words in all scripts: letters with their marks, decimal digits, connecting
punctuation and the two joiners. -/
def scriptWords : CharSet :=
  .unions [Unicode.alphabeticCharacter, Unicode.mark, Unicode.decimalNumber,
    Unicode.connectorPunctuation, Unicode.joinControl]

/-- Decimal digits, of all scripts or of ASCII. -/
def digits (unicode : Bool) : CharSet := if unicode then Unicode.decimalNumber else asciiDigits

/-- Blanks, of Unicode or of ASCII. -/
def blanks (unicode : Bool) : CharSet := if unicode then Unicode.whiteSpace else asciiBlanks

/-- The characters of words, of all scripts or of ASCII. -/
def words (unicode : Bool) : CharSet := if unicode then scriptWords else asciiWords

/-- The sets that a name between `[:` and `:]` stands for. -/
def asciiClasses : List (String × CharSet) := [
  ("alnum", .ofTable "30-39 41-5A 61-7A"),
  ("alpha", .ofTable "41-5A 61-7A"),
  ("ascii", .ofTable "0-7F"),
  ("blank", .ofTable "9 20"),
  ("cntrl", .ofTable "0-1F 7F"),
  ("digit", asciiDigits),
  ("graph", .ofTable "21-7E"),
  ("lower", .ofTable "61-7A"),
  ("print", .ofTable "20-7E"),
  ("punct", .ofTable "21-2F 3A-40 5B-60 7B-7E"),
  ("space", asciiBlanks),
  ("upper", .ofTable "41-5A"),
  ("word", asciiWords),
  ("xdigit", .ofTable "30-39 41-46 61-66")]

end CharSet

end SqlTemplate
