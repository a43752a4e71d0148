import RecordSearch.Text.CaseTable
/-!
# Lower case

`lowered` writes every capital letter small. Two letters need more than a table of single
letters: the dotted capital I becomes two characters, and a capital sigma becomes the final form
at the end of a word, that is, behind a letter and not in front of one. `loweredAscii` changes the
letters A to Z only.
-/

namespace RecordSearch.Text

/-- Is a code point in one of the ranges? -/
def inRanges (ranges : List (Nat × Nat)) (n : Nat) : Bool :=
  ranges.any fun range ↦ range.1 ≤ n && n ≤ range.2

/-- Is the character a letter with case? -/
def isCased (c : Char) : Bool :=
  inRanges casedRanges c.toNat

/-- Is the character passed over when a word's end is looked for? -/
def isPassedOver (c : Char) : Bool :=
  inRanges passedOverRanges c.toNat

/-- The small letter of a capital letter in a run. -/
def CaseRun.small? (run : CaseRun) (n : Nat) : Option Nat :=
  if run.first ≤ n ∧ n ≤ run.last ∧ (n - run.first) % run.step = 0 then
    some ((n : Int) + run.shift).toNat
  else none

/-- The small form of one character, without regard to its place. -/
def loweredChar (c : Char) : List Char :=
  if c = 'İ' then ['i', '\u0307']
  else
    match caseRuns.findSome? fun run ↦ run.small? c.toNat with
    | some n => [Char.ofNat n]
    | none => [c]

/-- Does a letter with case come next, marks passed over? -/
def meetsLetter (text : List Char) : Bool :=
  match text.dropWhile isPassedOver with
  | c :: _ => isCased c
  | [] => false

/-- Lower a text, given the characters before it, nearest first. -/
def loweredAfter (before : List Char) : List Char → List Char
  | [] => []
  | c :: rest =>
    let small :=
      if c = 'Σ' then [if meetsLetter before && !meetsLetter rest then 'ς' else 'σ']
      else loweredChar c
    small ++ loweredAfter (c :: before) rest

/-- A text in lower case. -/
def lowered (text : List Char) : List Char :=
  loweredAfter [] text

/-- A text with the letters A to Z in lower case. -/
def loweredAscii (text : String) : String :=
  String.ofList (text.toList.map Char.toLower)

/-- Does the second text occur in the first? -/
def occursIn (wanted : List Char) : List Char → Bool
  | [] => wanted.isEmpty
  | c :: rest => wanted.isPrefixOf (c :: rest) || occursIn wanted rest

/-- Does the second text occur in the first when both are in lower case? -/
def containsLowered (text wanted : String) : Bool :=
  occursIn (lowered wanted.toList) (lowered text.toList)

end RecordSearch.Text
