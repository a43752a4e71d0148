import RecordSearch.Json.Basic
/-!
# Written JSON

The text of a value without any blanks. Fields are written in the order in which the object holds
them, that is, by name.
-/

namespace RecordSearch.Json

/-- The digit of a number below sixteen. -/
def hexDigit (n : Nat) : Char :=
  if n < 10 then Char.ofNat ('0'.toNat + n) else Char.ofNat ('a'.toNat + (n - 10))

/-- A character as it stands in a string. -/
def writtenChar (c : Char) : List Char :=
  if c = '"' then ['\\', '"']
  else if c = '\\' then ['\\', '\\']
  else if c = '\n' then ['\\', 'n']
  else if c = '\r' then ['\\', 'r']
  else if c = '\t' then ['\\', 't']
  else if c = '\x08' then ['\\', 'b']
  else if c = '\x0c' then ['\\', 'f']
  else if c.toNat < 0x20 then
    ['\\', 'u', '0', '0', hexDigit (c.toNat / 16), hexDigit (c.toNat % 16)]
  else [c]

/-- A string with its quotes. -/
def writtenString (text : String) : String :=
  String.ofList ('"' :: text.toList.flatMap writtenChar ++ ['"'])

mutual

/-- The text of a value. -/
def write : Json → String
  | .null => "null"
  | .bool b => if b then "true" else "false"
  | .number n => n.text
  | .string text => writtenString text
  | .array items => "[" ++ writeItems items ++ "]"
  | .object fields => "\x7b" ++ writeFields fields ++ "\x7d"

/-- The texts of several values with commas between them. -/
def writeItems : List Json → String
  | [] => ""
  | [last] => write last
  | item :: rest => write item ++ "," ++ writeItems rest

/-- The texts of several fields with commas between them. -/
def writeFields : List (String × Json) → String
  | [] => ""
  | [(name, value)] => writtenString name ++ ":" ++ write value
  | (name, value) :: rest => writtenString name ++ ":" ++ write value ++ "," ++ writeFields rest

end

end RecordSearch.Json
