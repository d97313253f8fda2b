namespace StyleTrim

-- Every rule of the library reads its input one character at a time, so text is
-- the list of its characters. Strings occur as literals and at the outer edge.
abbrev Text := List Char
abbrev Bytes := List UInt8

instance : Coe String Text := ⟨String.toList⟩

namespace Text

-- The characters of a literal as they are written. The kernel decodes them from bytes otherwise, in quadratic time.
theorem chars_of_literal {s : String} {t : Text} (written : s = String.ofList t) : s.toList = t := by
  rw [written,String.toList_ofList]

def ofStrings (words : List String) : List Text := words.map String.toList
@[inline] def isOneOf (s : Text) (words : List String) : Bool := (ofStrings words).contains s

-- Space, tab, line feed, form feed and carriage return: the whitespace of CSS and HTML.
def isAsciiBlank (c : Char) : Bool :=
  c = ' ' || c = '\t' || c = '\n' || c = '\x0c' || c = '\r'

-- The characters with the Unicode property White_Space.
def isBlank (c : Char) : Bool :=
  (0x9 ≤ c.val && c.val ≤ 0xd) || c.val = 0x20 || c.val = 0x85 || c.val = 0xa0 || c.val = 0x1680 ||
  (0x2000 ≤ c.val && c.val ≤ 0x200a) || c.val = 0x2028 || c.val = 0x2029 || c.val = 0x202f ||
  c.val = 0x205f || c.val = 0x3000

def isAscii (c : Char) : Bool := c.val < 0x80
def isAsciiLower (c : Char) : Bool := 'a'.val ≤ c.val && c.val ≤ 'z'.val
def isAsciiUpper (c : Char) : Bool := 'A'.val ≤ c.val && c.val ≤ 'Z'.val
def isAsciiLetter (c : Char) : Bool := isAsciiLower c || isAsciiUpper c
def isDigit (c : Char) : Bool := '0'.val ≤ c.val && c.val ≤ '9'.val

def hexValue? (c : Char) : Option Nat :=
  if isDigit c then some (c.toNat - '0'.toNat)
  else if 'a'.val ≤ c.val && c.val ≤ 'f'.val then some (c.toNat - 'a'.toNat + 10)
  else if 'A'.val ≤ c.val && c.val ≤ 'F'.val then some (c.toNat - 'A'.toNat + 10)
  else none
def isHexDigit (c : Char) : Bool := (hexValue? c).isSome

def valueOf (radix : Nat) (digits : List Nat) : Nat := digits.foldl (fun n d => n * radix + d) 0

def replacement : Char := '\ufffd'
-- Surrogates and numbers past the last code point give no character.
def charOf? (n : Nat) : Option Char :=
  if n.isValidChar then some (Char.ofNat n) else none

-- Only the twenty-six ASCII letters have a case here.
def lowerChar (c : Char) : Char := if isAsciiUpper c then Char.ofNat (c.toNat + 32) else c
def lower (s : Text) : Text := s.map lowerChar
def sameIgnoringCase (a b : Text) : Bool := lower a == lower b

def trimStart (p : Char → Bool) (s : Text) : Text := s.dropWhile p
def trimEnd (p : Char → Bool) (s : Text) : Text := (s.reverse.dropWhile p).reverse
def trimBy (p : Char → Bool) (s : Text) : Text := trimEnd p (trimStart p s)
def trim (s : Text) : Text := trimBy isBlank s

def withoutEnd? (s tail : Text) : Option Text :=
  if tail.isSuffixOf s then some (s.take (s.length - tail.length)) else none
def withoutStart? (s head : Text) : Option Text :=
  if head.isPrefixOf s then some (s.drop head.length) else none

-- Every copy of `tail` at the end goes, as long as one is there.
def withoutEnds (s tail : Text) : Text :=
  if _h : tail ≠ [] ∧ tail.isSuffixOf s then withoutEnds (s.take (s.length - tail.length)) tail else s
termination_by s.length
decreasing_by
  have tailFits := (List.isSuffixOf_iff_suffix.mp _h.2).length_le
  have := List.length_pos_iff.mpr _h.1
  simp only [List.length_take]; omega

-- Texts of which one is the very end of the other are seen to be the same without a look at
-- their characters.
def isEnd (s tail : Text) : Bool := withPtrEq s tail (fun _ => s == tail) fun same => by simp [same]

theorem isEnd_iff {s tail : Text} : isEnd s tail = true ↔ s = tail := by simp [isEnd,withPtrEq]

-- What stands before `tail` in a text that ends with it.
def frontOf (tail : Text) : Text → Text
  | [] => []
  | c :: s => if isEnd (c :: s) tail then [] else c :: frontOf tail s

theorem frontOf_append {tail s : Text} (ending : tail <:+ s) : frontOf tail s ++ tail = s := by
  induction s with
  | nil => rw [List.suffix_nil.mp ending]; rfl
  | cons c s ih =>
    rw [frontOf]
    split
    · rename_i whole; rw [isEnd_iff.mp whole]; rfl
    · rename_i proper
      have shorter := (List.suffix_cons_iff.mp ending).resolve_left fun same => proper (isEnd_iff.mpr same.symm)
      rw [List.cons_append,ih shorter]

def contains (s part : Text) : Bool :=
  part.isPrefixOf s || match s with
    | [] => false
    | _ :: rest => contains rest part

def pieces (separates : Char → Bool) : Text → List Text
  | [] => [[]]
  | c :: s =>
    if separates c then [] :: pieces separates s
    else match pieces separates s with
      | [] => [[c]]
      | piece :: more => (c :: piece) :: more

def words (separates : Char → Bool) (s : Text) : List Text :=
  (pieces separates s).filter fun piece => !piece.isEmpty

def join (separator : Text) : List Text → Text
  | [] => []
  | [piece] => piece
  | piece :: more => piece ++ separator ++ join separator more

def ofNat (n : Nat) : Text := Nat.toDigits 10 n

def units16 (c : Char) : Nat := if c.val < 0x10000 then 1 else 2

-- The order of texts by code points, which is also the order of their UTF-8 bytes.
def before : Text → Text → Bool
  | _, [] => false
  | [], _ :: _ => true
  | a :: as, b :: bs => a.val < b.val || (a == b && before as bs)

end Text
end StyleTrim
