import StyleTrim.Text
namespace StyleTrim.Text

-- Tables of characters are written in words of numbers to the base 36. A point parts the numbers
-- of a word.

abbrev Range := Nat × Nat

def digit36 (c : Char) : Nat := if isDigit c then c.toNat - '0'.toNat else c.toNat - 'a'.toNat + 10
def number36 (s : Text) : Nat := valueOf 36 (s.map digit36)

def numbersIn (rows : List String) : List (List Nat) :=
  (ofStrings rows).flatMap fun row =>
    (words (· = ' ') row).map fun word => (pieces (· = '.') word).map number36

-- Ranges from the distance to the range before and the length beyond the first character.
def rangesFrom (last : Nat) : List (List Nat) → List Range
  | [] => []
  | word :: more =>
    let low := last + word.headD 0
    let high := low + (word.drop 1).headD 0
    (low,high) :: rangesFrom high more

def isWithin (ranges : List Range) (n : Nat) : Bool := ranges.any fun (low,high) => low ≤ n && n ≤ high

-- A set of characters under the names it is known by, without blanks, lines or capitals.
structure CharTable where
  names : List String
  rows : List String

def CharTable.ranges (t : CharTable) : List Range := rangesFrom 0 (numbersIn t.rows)

def tableNamed? (tables : List CharTable) (name : Text) : Option CharTable :=
  tables.find? fun t => isOneOf name t.names

end StyleTrim.Text
