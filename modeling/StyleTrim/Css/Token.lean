import StyleTrim.Text
namespace StyleTrim.Css
open Text

-- A number as it is written, from which its value follows. Formulas such as `2n+1` ask whether it
-- has a sign, and for its value if it is an integer, held inside the 32-bit range.
structure Numeral where
  written : Text
  signed : Bool
  integer : Option Int
deriving DecidableEq, Repr

-- Names, strings and addresses carry their meaning: escapes are resolved. An address that cannot be
-- read is kept as it stands.
inductive Token where
  | ident (name : Text)
  | atKeyword (name : Text)
  | hash (name : Text)
  | idHash (name : Text)
  | quoted (value : Text)
  | badQuoted (value : Text)
  | address (value : Text)
  | badAddress (contents : Text)
  | delim (c : Char)
  | number (value : Numeral)
  | percentage (value : Numeral)
  | dimension (value : Numeral) (unit : Text)
  | blank
  | comment
  | colon
  | semicolon
  | comma
  | includesMatch
  | dashMatch
  | startMatch
  | endMatch
  | substringMatch
  | commentOpen
  | commentClose
  | function (name : Text)
  | openParen
  | openSquare
  | openCurly
  | closeParen
  | closeSquare
  | closeCurly
deriving DecidableEq, Repr

-- A line counted from zero and a column counted from one, in UTF-16 units.
structure Place where
  line : Nat
  column : Nat
deriving DecidableEq, Repr

def Place.start : Place := ⟨0,1⟩

def isNewline (c : Char) : Bool := c = '\n' || c = '\r' || c = '\x0c'

def Place.after (p : Place) : Text → Place
  | [] => p
  | '\r' :: '\n' :: s => Place.after ⟨p.line+1,1⟩ s
  | c :: s =>
    if isNewline c then Place.after ⟨p.line+1,1⟩ s else Place.after ⟨p.line,p.column + units16 c⟩ s

-- A token with the text it was read from. Nothing of the source is lost in a list of these.
structure Lexeme where
  token : Token
  text : Text
  place : Place
deriving DecidableEq, Repr

namespace Scan

-- Each scanner takes what it reads off the front and returns the rest with its result.
abbrev Step (α : Type) := α × Text

def Step.push (c : Char) (more : Step Text) : Step Text := (c :: more.1,more.2)
@[simp] theorem Step.push_rest (c : Char) (more : Step Text) : (Step.push c more).2 = more.2 := rfl

theorem within {a b : Text} (c : Char) (tail : a <:+ b) : a <:+ c :: b :=
  tail.trans (List.suffix_cons c b)

def isNameStart (c : Char) : Bool := isAsciiLetter c || c = '_' || c = '\x00' || !isAscii c
def isNameChar (c : Char) : Bool := isNameStart c || isDigit c || c = '-'
def meant (c : Char) : Char := if c = '\x00' then replacement else c

def startsNewline : Text → Bool
  | c :: _ => isNewline c
  | [] => false

def oneBlank : Text → Text
  | '\r' :: '\n' :: s => s
  | c :: s => if isAsciiBlank c then s else c :: s
  | [] => []

theorem oneBlank_suffix (s : Text) : oneBlank s <:+ s := by
  fun_cases oneBlank s
  · exact within _ (List.suffix_cons _ _)
  · exact List.suffix_cons _ _
  · exact List.suffix_rfl
  · exact List.suffix_rfl

def hexDigits : Nat → Text → Step (List Nat)
  | 0, s => ([],s)
  | _ + 1, [] => ([],[])
  | limit + 1, c :: s =>
    match hexValue? c with
    | some v => (v :: (hexDigits limit s).1,(hexDigits limit s).2)
    | none => ([],c :: s)

theorem hexDigits_suffix (n : Nat) (s : Text) : (hexDigits n s).2 <:+ s := by
  fun_induction hexDigits n s with
  | case1 | case2 | case4 => exact List.suffix_rfl
  | case3 limit c s v _ ih => exact within c ih

-- The character for a written code point: zero, surrogates and too large ones are replaced.
def codePoint (n : Nat) : Char := if n = 0 then replacement else (charOf? n).getD replacement

def escape : Text → Step Char
  | [] => (replacement,[])
  | c :: s =>
    match hexValue? c with
    | some v => (codePoint (valueOf 16 (v :: (hexDigits 5 s).1)),oneBlank (hexDigits 5 s).2)
    | none => (meant c,s)

theorem escape_suffix (s : Text) : (escape s).2 <:+ s := by
  fun_cases escape s
  · exact List.suffix_rfl
  · exact within _ ((oneBlank_suffix _).trans (hexDigits_suffix _ _))
  · exact List.suffix_cons _ _

def name (s : Text) : Step Text :=
  match s with
  | [] => ([],[])
  | c :: s =>
    if c = '\\' then
      if startsNewline s then ([],c :: s) else .push (escape s).1 (name (escape s).2)
    else if isNameChar c then .push (meant c) (name s)
    else ([],c :: s)
termination_by s.length
decreasing_by
  · have := (escape_suffix s).length_le; simp; omega
  · simp

theorem name_suffix (s : Text) : (name s).2 <:+ s := by
  fun_induction name s with
  | case1 | case2 | case5 => exact List.suffix_rfl
  | case3 s _ ih => exact within _ (ih.trans (escape_suffix s))
  | case4 c s _ _ ih => exact within c ih

-- Whether a name begins here, as in an identifier, an at-keyword or a unit.
def startsName : Text → Bool
  | '-' :: c :: _ => isNameStart c || c = '-' || c = '\\'
  | '\\' :: s => !startsNewline s
  | c :: _ => isNameStart c
  | [] => false

-- What follows a comment whose inside begins here; an open one runs to the end.
def afterComment : Text → Text
  | '*' :: '/' :: s => s
  | _ :: s => afterComment s
  | [] => []

theorem afterComment_suffix (s : Text) : afterComment s <:+ s := by
  fun_induction afterComment s with
  | case1 s => exact within _ (List.suffix_cons _ s)
  | case2 c s _ ih => exact within c ih
  | case3 => exact List.suffix_rfl

structure Quoted where
  value : Text
  whole : Bool

def Quoted.push (c : Char) (more : Step Quoted) : Step Quoted := (⟨c :: more.1.value,more.1.whole⟩,more.2)
@[simp] theorem Quoted.push_rest (c : Char) (more : Step Quoted) : (Quoted.push c more).2 = more.2 := rfl

-- The inside of a string: an escaped line end says nothing, an escaped end of text neither.
def quoted (mark : Char) (s : Text) : Step Quoted :=
  match s with
  | [] => (⟨[],true⟩,[])
  | '\\' :: [] => (⟨[],true⟩,[])
  | '\\' :: '\r' :: '\n' :: s => quoted mark s
  | '\\' :: c :: s =>
    if isNewline c then quoted mark s
    else Quoted.push (escape (c :: s)).1 (quoted mark (escape (c :: s)).2)
  | c :: s =>
    if c = mark then (⟨[],true⟩,s)
    else if isNewline c then (⟨[],false⟩,c :: s)
    else Quoted.push (meant c) (quoted mark s)
termination_by s.length
decreasing_by
  · simp +arith
  · simp +arith
  · have := (escape_suffix (c :: s)).length_le
    simp only [List.length_cons] at this ⊢
    omega
  · simp

theorem quoted_suffix (mark : Char) (s : Text) : (quoted mark s).2 <:+ s := by
  fun_induction quoted mark s with
  | case1 => exact List.suffix_rfl
  | case2 => exact List.nil_suffix
  | case3 s ih => exact within _ (within _ (within _ ih))
  | case4 c s _ _ ih => exact within _ (within c ih)
  | case5 c s _ _ ih => exact within _ (ih.trans (escape_suffix (c :: s)))
  | case6 => exact List.suffix_cons _ _
  | case7 => exact List.suffix_rfl
  | case8 c s _ _ _ _ _ ih => exact within c ih

-- What is left behind the contents of an address that cannot be read: its closing parenthesis and more.
def badAddress : Text → Text
  | [] => []
  | ')' :: s => ')' :: s
  | '\\' :: ')' :: s => badAddress s
  | '\\' :: '\\' :: s => badAddress s
  | _ :: s => badAddress s

theorem badAddress_suffix (s : Text) : badAddress s <:+ s := by
  fun_induction badAddress s with
  | case1 | case2 => exact List.suffix_rfl
  | case3 s ih | case4 s ih => exact within _ (within _ ih)
  | case5 c s _ _ _ ih => exact within c ih

def isUnprintable (c : Char) : Bool :=
  (0x1 ≤ c.val && c.val ≤ 0x8) || c.val = 0xb || (0xe ≤ c.val && c.val ≤ 0x1f) || c.val = 0x7f

def addressEnd (value : Text) : Text → Step (Option Text)
  | [] => (some value,[])
  | ')' :: s => (some value,s)
  | c :: s => if isAsciiBlank c then addressEnd value s else (none,badAddress s)

theorem addressEnd_suffix (value s : Text) : (addressEnd value s).2 <:+ s := by
  fun_induction addressEnd value s with
  | case1 => exact List.suffix_rfl
  | case2 s => exact List.suffix_cons _ s
  | case3 c s _ _ ih => exact within c ih
  | case4 c s => exact within c (badAddress_suffix s)

def addressFrom (before : Text) (s : Text) : Step (Option Text) :=
  match s with
  | [] => (some before.reverse,[])
  | c :: s =>
    if c = ')' then (some before.reverse,s)
    else if isAsciiBlank c then addressEnd before.reverse (c :: s)
    else if isUnprintable c || c = '"' || c = '\'' || c = '(' then (none,badAddress s)
    else if c = '\\' then
      if startsNewline s then (none,badAddress s)
      else addressFrom ((escape s).1 :: before) (escape s).2
    else addressFrom (meant c :: before) s
termination_by s.length
decreasing_by
  · have := (escape_suffix s).length_le
    simp only [List.length_cons]
    omega
  · simp

theorem addressFrom_suffix (before s : Text) : (addressFrom before s).2 <:+ s := by
  fun_induction addressFrom before s with
  | case1 => exact List.suffix_rfl
  | case2 => exact List.suffix_cons _ _
  | case3 before c s => exact addressEnd_suffix before.reverse (c :: s)
  | case4 before c s | case5 before s => exact within _ (badAddress_suffix s)
  | case6 before s _ _ _ _ ih => exact within _ (ih.trans (escape_suffix s))
  | case7 before c s _ _ _ _ ih => exact within c ih

def unquoted (s : Text) : Step Token :=
  match addressFrom [] s with
  | (some value,rest) => (.address value,rest)
  | (none,rest) => (.badAddress (frontOf rest s),rest.drop 1)

theorem unquoted_suffix (s : Text) : (unquoted s).2 <:+ (addressFrom [] s).2 := by
  unfold unquoted
  split
  · rename_i same
    exact same ▸ List.suffix_rfl
  · rename_i same
    exact same ▸ List.drop_suffix 1 _

def address? (s : Text) : Option (Step Token) :=
  match s.dropWhile isAsciiBlank with
  | [] => some (.address [],[])
  | ')' :: rest => some (.address [],rest)
  | c :: rest => if c = '"' || c = '\'' then none else some (unquoted (c :: rest))

theorem address?_suffix (scanned : address? s = some step) : step.2 <:+ s := by
  have blanks := List.dropWhile_suffix isAsciiBlank (l := s)
  unfold address? at scanned
  split at scanned
  · cases scanned; exact List.nil_suffix
  · rename_i rest kept
    cases scanned
    exact (List.suffix_cons _ rest).trans (kept ▸ blanks)
  · rename_i c rest _ kept
    split at scanned
    · cases scanned
    · cases scanned
      exact ((unquoted_suffix (c :: rest)).trans (addressFrom_suffix [] _)).trans (kept ▸ blanks)

def identLike (s : Text) : Step Token :=
  match name s with
  | (read,'(' :: rest) =>
    if sameIgnoringCase read "url" then (address? rest).getD (.function read,rest)
    else (.function read,rest)
  | (read,rest) => (.ident read,rest)

def afterDigits (s : Text) : Text := s.dropWhile isDigit
theorem afterDigits_suffix (s : Text) : afterDigits s <:+ s := List.dropWhile_suffix isDigit

-- What follows an exponent, if a digit stands after the mark and its sign.
def exponent? : Text → Option Text
  | e :: c :: d :: s =>
    if !(e = 'e' || e = 'E') then none
    else if isDigit c then some (afterDigits (d :: s))
    else if (c = '+' || c = '-') && isDigit d then some (afterDigits s)
    else none
  | [e,c] => if (e = 'e' || e = 'E') && isDigit c then some [] else none
  | _ => none

-- What follows a fraction, if a digit stands after the point.
def fraction? : Text → Option Text
  | '.' :: c :: s => if isDigit c then some (afterDigits s) else none
  | _ => none

theorem exponent?_suffix (scanned : exponent? s = some r) : r <:+ s := by
  unfold exponent? at scanned
  split at scanned
  · rename_i e c d t
    split at scanned
    · cases scanned
    · split at scanned
      · cases scanned; exact within e (within c (afterDigits_suffix (d :: t)))
      · split at scanned
        · cases scanned; exact within e (within c (within d (afterDigits_suffix t)))
        · cases scanned
  · split at scanned
    · cases scanned; exact List.nil_suffix
    · cases scanned
  · cases scanned

theorem fraction?_suffix (scanned : fraction? s = some r) : r <:+ s := by
  unfold fraction? at scanned
  split at scanned
  · rename_i c t
    split at scanned
    · cases scanned; exact within '.' (within c (afterDigits_suffix t))
    · cases scanned
  · cases scanned

def sign? : Text → Option Char
  | '+' :: _ => some '+'
  | '-' :: _ => some '-'
  | _ => none

def held (n : Int) : Int := max (-2147483648) (min 2147483647 n)

def afterSign (s : Text) : Text := if (sign? s).isSome then s.drop 1 else s
def wholePart (s : Text) : Text := (afterSign s).takeWhile isDigit
def afterWhole (s : Text) : Text := afterDigits (afterSign s)
def afterFraction (s : Text) : Text := (fraction? (afterWhole s)).getD (afterWhole s)
def afterNumber (s : Text) : Text := (exponent? (afterFraction s)).getD (afterFraction s)

-- The number that stands here; it is an integer if it has neither fraction nor exponent.
def numeral (s : Text) : Numeral :=
  let size : Int := valueOf 10 ((wholePart s).map fun c => c.toNat - '0'.toNat)
  let isWhole := (fraction? (afterWhole s)).isNone && (exponent? (afterFraction s)).isNone
  ⟨frontOf (afterNumber s) s,(sign? s).isSome,if isWhole then some (held (if sign? s = some '-' then -size else size)) else none⟩

def numeric (s : Text) : Step Token :=
  match afterNumber s with
  | '%' :: rest => (.percentage (numeral s),rest)
  | rest =>
    if startsName rest then (.dimension (numeral s) (name rest).1,(name rest).2)
    else (.number (numeral s),rest)

-- Whether a number begins here: a digit, or a point and a digit.
def startsNumber : Text → Bool
  | '.' :: c :: _ => isDigit c
  | c :: _ => isDigit c
  | [] => false

def orMatch (matching : Token) (c : Char) : Text → Step Token
  | '=' :: s => (matching,s)
  | s => (.delim c,s)

theorem orMatch_suffix (t : Token) (c : Char) (s : Text) : (orMatch t c s).2 <:+ s := by
  fun_cases orMatch t c s
  · exact List.suffix_cons _ _
  · exact List.suffix_rfl

def string (mark : Char) (s : Text) : Step Token :=
  (if (quoted mark s).1.whole then .quoted (quoted mark s).1.value else .badQuoted (quoted mark s).1.value,
   (quoted mark s).2)

def hash (s : Text) : Step Token :=
  if startsName s then (.idHash (name s).1,(name s).2)
  else match s with
    | c :: _ => if isDigit c || c = '-' then (.hash (name s).1,(name s).2) else (.delim '#',s)
    | [] => (.delim '#',s)

def minus (s : Text) : Step Token :=
  if startsNumber s then numeric ('-' :: s)
  else match s with
    | '-' :: '>' :: rest => (.commentClose,rest)
    | _ => if startsName ('-' :: s) then identLike ('-' :: s) else (.delim '-',s)

def slash : Text → Step Token
  | '*' :: rest => (.comment,afterComment rest)
  | s => (.delim '/',s)

def less : Text → Step Token
  | '!' :: '-' :: '-' :: rest => (.commentOpen,rest)
  | s => (.delim '<',s)

def token (c : Char) (s : Text) : Step Token :=
  if isAsciiBlank c then (.blank,s.dropWhile isAsciiBlank)
  else if isDigit c then numeric (c :: s)
  else if isNameStart c then identLike (c :: s)
  else match c with
  | '"' => string '"' s
  | '\'' => string '\'' s
  | '#' => hash s
  | '$' => orMatch .endMatch c s
  | '*' => orMatch .substringMatch c s
  | '^' => orMatch .startMatch c s
  | '|' => orMatch .dashMatch c s
  | '~' => orMatch .includesMatch c s
  | '(' => (.openParen,s)
  | ')' => (.closeParen,s)
  | '[' => (.openSquare,s)
  | ']' => (.closeSquare,s)
  | '\x7b' => (.openCurly,s)
  | '\x7d' => (.closeCurly,s)
  | ',' => (.comma,s)
  | ':' => (.colon,s)
  | ';' => (.semicolon,s)
  | '+' => if startsNumber s then numeric (c :: s) else (.delim c,s)
  | '.' => if startsNumber (c :: s) then numeric (c :: s) else (.delim c,s)
  | '-' => minus s
  | '/' => slash s
  | '<' => less s
  | '@' => if startsName s then (.atKeyword (name s).1,(name s).2) else (.delim c,s)
  | '\\' => if startsNewline s then (.delim c,s) else identLike (c :: s)
  | _ => (.delim c,s)

-- Reading always takes at least the first character, so lexing comes to an end.
theorem name_advances (begins : startsName (c :: s) = true) : (name (c :: s)).2 <:+ s := by
  unfold name
  split
  · rename_i isEscape
    subst isEscape
    have clear : startsNewline s = false := by simpa [startsName] using begins
    simp only [clear,Bool.false_eq_true,↓reduceIte,Step.push_rest]
    exact (name_suffix _).trans (escape_suffix s)
  · rename_i plain
    have taken : isNameChar c = true := by
      unfold isNameChar
      unfold startsName at begins
      split at begins <;> simp_all
    simp only [taken,↓reduceIte,Step.push_rest]
    exact name_suffix s

theorem identLike_advances (begins : startsName (c :: s) = true) : (identLike (c :: s)).2 <:+ s := by
  have read := name_advances begins
  unfold identLike
  split
  · rename_i value rest same
    rw [same] at read
    have opened := (List.suffix_cons '(' rest).trans read
    split
    · cases found : address? rest with
      | none => exact opened
      | some step => exact (address?_suffix found).trans opened
    · exact opened
  · rename_i same
    rwa [same] at read

theorem afterNumber_within (broken : afterFraction s <:+ t) : afterNumber s <:+ t := by
  refine .trans ?_ broken
  unfold afterNumber
  cases found : exponent? (afterFraction s) with
  | none => exact List.suffix_rfl
  | some r => exact exponent?_suffix found

theorem afterFraction_within (whole : afterWhole s <:+ t) : afterFraction s <:+ t := by
  refine .trans ?_ whole
  unfold afterFraction
  cases found : fraction? (afterWhole s) with
  | none => exact List.suffix_rfl
  | some r => exact fraction?_suffix found

theorem afterNumber_suffix (s : Text) : afterNumber s <:+ s := by
  have signed : afterSign s <:+ s := by
    unfold afterSign; split
    · exact List.drop_suffix 1 s
    · exact List.suffix_rfl
  exact afterNumber_within (afterFraction_within ((afterDigits_suffix _).trans signed))

theorem numeric_within (read : afterNumber s <:+ t) : (numeric s).2 <:+ t := by
  unfold numeric
  split
  · rename_i rest same
    exact (List.suffix_cons _ rest).trans (same ▸ read)
  · split
    · exact (name_suffix _).trans read
    · exact read

theorem numeric_advances_digit (digit : isDigit c = true) : (numeric (c :: s)).2 <:+ s := by
  refine numeric_within (afterNumber_within (afterFraction_within ?_))
  have unsigned : sign? (c :: s) = none := by
    unfold sign?
    split
    · rename_i found; cases found; exact absurd digit (by decide)
    · rename_i found; cases found; exact absurd digit (by decide)
    · rfl
  unfold afterWhole afterSign
  rw [unsigned,afterDigits]
  simp only [Option.isSome_none,Bool.false_eq_true,↓reduceIte,List.dropWhile_cons_of_pos digit]
  exact List.dropWhile_suffix isDigit

theorem numeric_advances_sign (signed : c = '+' ∨ c = '-') : (numeric (c :: s)).2 <:+ s := by
  refine numeric_within (afterNumber_within (afterFraction_within ?_))
  have rest : afterSign (c :: s) = s := by rcases signed with rfl | rfl <;> rfl
  unfold afterWhole
  rw [rest]
  exact afterDigits_suffix s

theorem numeric_advances_point (begins : startsNumber ('.' :: s) = true) : (numeric ('.' :: s)).2 <:+ s := by
  refine numeric_within (afterNumber_within ?_)
  cases s with
  | nil => simp [startsNumber,isDigit] at begins
  | cons c t =>
    have digit : isDigit c = true := by simpa [startsNumber] using begins
    have whole : afterWhole ('.' :: c :: t) = '.' :: c :: t := rfl
    have broken : afterFraction ('.' :: c :: t) = afterDigits t := by
      unfold afterFraction
      rw [whole]
      simp [fraction?,digit]
    rw [broken]
    exact (afterDigits_suffix t).trans (List.suffix_cons c t)

theorem startsName_of_start (start : isNameStart c = true) (s : Text) : startsName (c :: s) = true := by
  unfold startsName
  split
  · rename_i found; cases found; exact absurd start (by decide)
  · rename_i found; cases found; exact absurd start (by decide)
  · rename_i found; cases found; exact start
  · rename_i found; cases found

theorem string_suffix (mark : Char) (s : Text) : (string mark s).2 <:+ s := quoted_suffix mark s

theorem hash_suffix (s : Text) : (hash s).2 <:+ s := by
  unfold hash
  split
  · exact name_suffix s
  · split
    · split
      · exact name_suffix _
      · exact List.suffix_rfl
    · exact List.suffix_rfl

theorem minus_suffix (s : Text) : (minus s).2 <:+ s := by
  unfold minus
  split
  · exact numeric_advances_sign (.inr rfl)
  · split
    · exact within _ (List.suffix_cons _ _)
    · split
      · exact identLike_advances ‹_›
      · exact List.suffix_rfl

theorem slash_suffix (s : Text) : (slash s).2 <:+ s := by
  fun_cases slash s
  · exact within _ (afterComment_suffix _)
  · exact List.suffix_rfl

theorem less_suffix (s : Text) : (less s).2 <:+ s := by
  fun_cases less s
  · exact within _ (within _ (List.suffix_cons _ _))
  · exact List.suffix_rfl

theorem token_suffix (c : Char) (s : Text) : (token c s).2 <:+ s := by
  unfold token
  split
  · exact List.dropWhile_suffix isAsciiBlank
  split
  · exact numeric_advances_digit ‹_›
  split
  · exact identLike_advances (startsName_of_start ‹_› s)
  split
  any_goals exact string_suffix _ s
  any_goals exact orMatch_suffix _ _ s
  any_goals exact List.suffix_rfl
  · exact hash_suffix s
  · split
    · exact numeric_advances_sign (.inl rfl)
    · exact List.suffix_rfl
  · split
    · exact numeric_advances_point ‹_›
    · exact List.suffix_rfl
  · exact minus_suffix s
  · exact slash_suffix s
  · exact less_suffix s
  · split
    · exact name_suffix s
    · exact List.suffix_rfl
  · split
    · exact List.suffix_rfl
    · exact identLike_advances (by simp_all [startsName])

end Scan

-- The lexemes of a text that stands at a place.
def lexFrom (p : Place) (s : Text) : List Lexeme :=
  match s with
  | [] => []
  | c :: s =>
    let rest := (Scan.token c s).2
    let text := c :: frontOf rest s
    ⟨(Scan.token c s).1,text,p⟩ :: lexFrom (p.after text) rest
termination_by s.length
decreasing_by have := (Scan.token_suffix c s).length_le; simp; omega

def lex (s : Text) : List Lexeme := lexFrom .start s

theorem lexFrom_text (p : Place) (s : Text) : ((lexFrom p s).map (·.text)).flatten = s := by
  fun_induction lexFrom p s with
  | case1 => rfl
  | case2 p c s rest text ih =>
    simp only [List.map_cons,List.flatten_cons,ih,text,List.cons_append]
    exact congrArg (c :: ·) (frontOf_append (Scan.token_suffix c s))

end StyleTrim.Css
