import RecordSearch.Text.InvisibleTable
/-!
# Quoted text

A text between quotation marks: quotes and backslashes carry a backslash, the usual control
characters have their letters, and other characters without a picture of their own are written by
their number.
-/

namespace RecordSearch.Text

/-- The digits of a number to the base sixteen. -/
def hexDigits (n : Nat) : List Char :=
  Nat.toDigits 16 n

/-- Is the character written by its number? -/
def isInvisible (c : Char) : Bool :=
  invisibleRanges.any fun range ↦ range.1 ≤ c.toNat && c.toNat ≤ range.2

/-- A character as it stands in a quoted text. -/
def quotedChar (c : Char) : List Char :=
  if c = '"' then ['\\', '"']
  else if c = '\\' then ['\\', '\\']
  else if c = '\n' then ['\\', 'n']
  else if c = '\r' then ['\\', 'r']
  else if c = '\t' then ['\\', 't']
  else if c = '\x00' then ['\\', '0']
  else if isInvisible c then ['\\', 'u', '\x7b'] ++ hexDigits c.toNat ++ ['\x7d']
  else [c]

/-- A text between quotation marks. -/
def quoted (text : String) : String :=
  String.ofList ('"' :: text.toList.flatMap quotedChar ++ ['"'])

end RecordSearch.Text
