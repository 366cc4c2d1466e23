/-!
# Sets of characters

* `tableEntries` : the entries of a table that is written over several lines;
* `CharSet` : a set of characters, as closed ranges of code points (`contains`);
* `CharSet.ofHex` : the set that a line of hexadecimal ranges such as `9-D 20` lists;
* `readHex`, `hexDigits` : hexadecimal numbers, read in upper case and written in lower case.
-/

namespace AccountSecurity.Text

/-- The entries of a table, which blanks and line ends separate. -/
def tableEntries (table : String) : List String :=
  ((table.toList.splitOnP Char.isWhitespace).filter (· ≠ [])).map String.ofList

/-- The value of an upper-case hexadecimal digit; any other character counts as zero. -/
def hexValue (c : Char) : Nat :=
  if '0' ≤ c ∧ c ≤ '9' then c.toNat - '0'.toNat
  else if 'A' ≤ c ∧ c ≤ 'F' then c.toNat - 'A'.toNat + 10
  else 0

/-- The number that a run of hexadecimal digits writes. -/
def readHex (digits : String) : Nat :=
  digits.toList.foldl (fun n c => 16 * n + hexValue c) 0

/-- The last `width` hexadecimal digits of `n`, in lower case. -/
def hexDigits (width n : Nat) : List Char :=
  (List.range width).reverse.map fun i => Nat.digitChar (n / Nat.pow 16 i % 16)

/-- A set of characters, as closed ranges of code points. -/
structure CharSet where
  ranges : List (Nat × Nat)

namespace CharSet

/-- Reads ranges `first-last` and single code points. -/
def ofHex (table : String) : CharSet :=
  ⟨(tableEntries table).map fun entry =>
    match entry.splitOn "-" with
    | [first, last] => (readHex first, readHex last)
    | _ => (readHex entry, readHex entry)⟩

/-- The character lies in one of the ranges. -/
def contains (s : CharSet) (c : Char) : Bool :=
  s.ranges.any fun (first, last) => first ≤ c.toNat && c.toNat ≤ last

end CharSet

end AccountSecurity.Text
