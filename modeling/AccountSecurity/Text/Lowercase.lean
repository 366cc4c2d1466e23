import AccountSecurity.Text.Blank
import AccountSecurity.Text.CaseTable

/-!
# Lower case

* `lower` : the lower-case form of a text. A capital sigma becomes a final sigma at the end of a word,
  and a capital I with a dot keeps its dot as a combining mark;
* `asciiLower` : lower case of the letters A to Z alone;
* `fold` : the form under which two spellings of an address are the same: trimmed, then in lower case.
-/

namespace AccountSecurity.Text

/-- Characters that are passed over when a word's end is looked for. -/
def isCaseIgnorable (c : Char) : Bool := caseIgnorableChars.contains c

/-- Characters with case, in the sense of the rule for the final sigma. -/
def isCased (c : Char) : Bool := casedChars.contains c

/-- The first character that is not case-ignorable has case. -/
def startsCased : List Char → Bool
  | [] => false
  | c :: rest => if isCaseIgnorable c then startsCased rest else isCased c

/-- The lower-case form of a character wherever it stands. -/
def lowerChar (c : Char) : List Char :=
  if c.toNat < 0x80 then [c.toLower]
  else if c = 'İ' then ['i', '\u0307']
  else match lowerRuns.findSome? (·.image? c.toNat) with
    | some n => [Char.ofNat n]
    | none => [c]

/-- Lower case of a text that follows a character with case, or does not. -/
def lowerAfter (afterCased : Bool) : List Char → List Char
  | [] => []
  | c :: rest =>
    let here :=
      if c = 'Σ' then if afterCased && !startsCased rest then ['ς'] else ['σ'] else lowerChar c
    here ++ lowerAfter (if isCaseIgnorable c then afterCased else isCased c) rest

/-- The lower-case form of a text. -/
def lower (s : String) : String := String.ofList (lowerAfter false s.toList)

/-- The text with the letters A to Z in lower case. -/
def asciiLower (s : String) : String := String.ofList (s.toList.map Char.toLower)

/-- The text trimmed and in lower case. -/
def fold (s : String) : String := lower (trim s)

end AccountSecurity.Text
