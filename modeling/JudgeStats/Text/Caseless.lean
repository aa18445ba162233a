/-! Beginnings of texts, compared without regard to the case of ASCII letters. A text is read up to its first NUL only, and
U+FFFE and U+FFFF, which are no characters, are read as U+FFFD. All other characters count as they are, letters outside
ASCII included. -/

namespace JudgeStats.Text

def foldCase (c : Char) : Char :=
  if c == '\uffff' || c == '\ufffe' then '\ufffd' else c.toLower

/-- What counts of a text. -/
def compared (text : List Char) : List Char :=
  (text.takeWhile (· != '\x00')).map foldCase

/-- A start that has a NUL in it leaves nothing open: what counts of the text is all that counts of the start. -/
def beginsWith (start text : List Char) : Bool :=
  if start.contains '\x00' then compared start == compared text else (compared start).isPrefixOf (compared text)

theorem beginsWith_nil (text : List Char) : beginsWith [] text = true := by
  simp [beginsWith, compared]

/-- What a start takes in bytes where the characters that could stand for others have a mark before them, and one more
stands for the rest of a text. -/
def patternSize (start : String) : Nat :=
  start.utf8ByteSize + start.toList.countP (['%', '_', '\\'].contains ·) + 1

/-- Longer patterns are not compared with anything. -/
def longestPattern : Nat :=
  50000

end JudgeStats.Text
