import JudgeStats.Text.Unprintable

/-! Texts in quotes, as messages show them. Single quotes are taken, or double quotes around a text that has single quotes
and no double ones. A backslash goes before itself and before the quote that was taken; characters without a printed
form are written by their code. -/

namespace JudgeStats.Text

def hexDigits (width code : Nat) : List Char :=
  let digits := Nat.toDigits 16 code
  List.replicate (width - digits.length) '0' ++ digits

def quoteMark (text : List Char) : Char :=
  if text.contains '\'' && !text.contains '"' then '"' else '\''

/-- One character inside quotes. -/
def escape (mark c : Char) : List Char :=
  if c = mark ∨ c = '\\' then ['\\', c]
  else if c = '\n' then ['\\', 'n']
  else if c = '\r' then ['\\', 'r']
  else if c = '\t' then ['\\', 't']
  else if isUnprintable c then
    if c.toNat < 0x100 then '\\' :: 'x' :: hexDigits 2 c.toNat
    else if c.toNat < 0x10000 then '\\' :: 'u' :: hexDigits 4 c.toNat
    else '\\' :: 'U' :: hexDigits 8 c.toNat
  else [c]

def quoteChars (text : List Char) : List Char :=
  let mark := quoteMark text
  mark :: text.flatMap (escape mark) ++ [mark]

def quote (text : String) : String :=
  String.ofList (quoteChars text.toList)

/-- Quoted texts with a comma and a blank between them. -/
def quoteAll (texts : List String) : String :=
  ", ".intercalate (texts.map quote)

end JudgeStats.Text
