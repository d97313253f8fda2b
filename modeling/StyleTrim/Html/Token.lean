import StyleTrim.Html.References
namespace StyleTrim.Html
open Text

-- The tokens of a document. Whether text is markup depends on the tree read so far, so a token is
-- read only when the one before it has found its place.

structure Attribute where
  name : Text
  value : Text
deriving DecidableEq, Repr

structure Doctype where
  name : Option Text
  publicId : Option Text
  systemId : Option Text
  isBroken : Bool
deriving DecidableEq, Repr

structure Tag where
  name : Text
  attributes : List Attribute
  selfClosing : Bool
deriving DecidableEq, Repr

-- Characters come one by one. A null is told apart from the character that replaces it. A fault
-- is a place that breaks the rules of writing; it stands for nothing, but it stands in between.
inductive Token where
  | startTag (tag : Tag)
  | endTag (name : Text)
  | character (c : Char)
  | null
  | comment (text : Text)
  | doctype (d : Doctype)
  | fault
  | finish
deriving DecidableEq, Repr

namespace Scan

def meant (c : Char) : Char := if c = '\x00' then replacement else c
def meantLower (c : Char) : Char := lowerChar (meant c)

def isAlphanumeric (c : Char) : Bool := isAsciiLetter c || isDigit c

-- The code points that are read as if written in an older encoding, from 0x80 on.
def olderEncoding : List Nat :=
  [0x20ac,0x81,0x201a,0x192,0x201e,0x2026,0x2020,0x2021,0x2c6,0x2030,0x160,0x2039,0x152,0x8d,0x17d,
   0x8f,0x90,0x2018,0x2019,0x201c,0x201d,0x2022,0x2013,0x2014,0x2dc,0x2122,0x161,0x203a,0x153,0x9d,
   0x17e,0x178]

def numbered (n : Nat) : Char :=
  if n = 0 then replacement
  else if 0x80 ≤ n ∧ n ≤ 0x9f then Char.ofNat (olderEncoding.getD (n - 0x80) n)
  else (charOf? n).getD replacement

def digitValue? (radix : Nat) (c : Char) : Option Nat :=
  (hexValue? c).filter (· < radix)

def numericReference? (radix : Nat) (s : Text) : Option (Text × Text) :=
  match (s.takeWhile fun c => (digitValue? radix c).isSome).filterMap (digitValue? radix) with
  | [] => none
  | digits =>
    match s.dropWhile fun c => (digitValue? radix c).isSome with
    | ';' :: rest => some ([numbered (valueOf radix digits)],rest)
    | rest => some ([numbered (valueOf radix digits)],rest)

-- The longest known name at the front of the text, with what it stands for.
def longestName (s : Text) : List (String × List Nat) → Option (Text × List Nat)
  | [] => none
  | (name,meaning) :: more =>
    let name : Text := name
    if name.isPrefixOf s then
      match longestName s more with
      | some other => if name.length < other.1.length then some other else some (name,meaning)
      | none => some (name,meaning)
    else longestName s more

-- For old addresses: in an attribute `&copy=1` and `&copyx` are no references.
def continuesAddress : Text → Bool
  | c :: _ => c = '=' || isAlphanumeric c
  | [] => false

def namedReference? (inAttribute : Bool) (s : Text) : Option (Text × Text) :=
  match (s.head?.map referencesOn).bind (longestName s) with
  | none => none
  | some (name,meaning) =>
    if name.getLast? ≠ some ';' && inAttribute && continuesAddress (s.drop name.length) then none
    else some (meaning.map Char.ofNat,s.drop name.length)

def reference? (inAttribute : Bool) (s : Text) : Option (Text × Text) :=
  match s with
  | '#' :: 'x' :: r => numericReference? 16 r
  | '#' :: 'X' :: r => numericReference? 16 r
  | '#' :: r => numericReference? 10 r
  | _ => namedReference? inAttribute s

def reference (inAttribute : Bool) (s : Text) : Text × Text := (reference? inAttribute s).getD (['&'],s)

-- Whether a numeric reference stands here that no semicolon ends.
def isOpenEnded (s : Text) : Bool :=
  let goesOn (radix : Nat) (r : Text) : Bool :=
    (r.dropWhile fun c => (digitValue? radix c).isSome).head? ≠ some ';'
  match s with
  | '#' :: 'x' :: r => goesOn 16 r
  | '#' :: 'X' :: r => goesOn 16 r
  | '#' :: r => goesOn 10 r
  | _ => false

theorem numericReference?_suffix (found : numericReference? radix s = some p) : p.2 <:+ s := by
  have tail := List.dropWhile_suffix (l := s) fun c => (digitValue? radix c).isSome
  unfold numericReference? at found
  split at found
  · cases found
  · split at found
    · rename_i rest same
      cases found
      exact (List.suffix_cons _ rest).trans (same ▸ tail)
    · cases found; exact tail

theorem namedReference?_suffix (found : namedReference? inAttribute s = some p) : p.2 <:+ s := by
  unfold namedReference? at found
  split at found
  · cases found
  · split at found
    · cases found
    · cases found; exact List.drop_suffix _ _

theorem reference_suffix (inAttribute : Bool) (s : Text) : (reference inAttribute s).2 <:+ s := by
  unfold reference
  cases found : reference? inAttribute s with
  | none => exact List.suffix_rfl
  | some p =>
    unfold reference? at found
    split at found
    · exact (numericReference?_suffix found).trans ((List.suffix_cons _ _).trans (List.suffix_cons _ _))
    · exact (numericReference?_suffix found).trans ((List.suffix_cons _ _).trans (List.suffix_cons _ _))
    · exact (numericReference?_suffix found).trans (List.suffix_cons _ _)
    · exact namedReference?_suffix found

def skipBlanks (s : Text) : Text := s.dropWhile isAsciiBlank

-- `none` where the text ends before the value does.
def quotedValue (mark : Char) (s : Text) : Option (Text × Text) :=
  match s with
  | [] => none
  | c :: s =>
    if c = mark then some ([],s)
    else if c = '&' then
      (quotedValue mark (reference true s).2).map fun more => ((reference true s).1 ++ more.1,more.2)
    else (quotedValue mark s).map fun more => (meant c :: more.1,more.2)
termination_by s.length
decreasing_by
  · have := (reference_suffix true s).length_le; simp; omega
  · simp

def pushAll (front : Text) (more : Text × Text) : Text × Text := (front ++ more.1,more.2)

def bareValue (s : Text) : Text × Text :=
  match s with
  | [] => ([],[])
  | c :: s =>
    if isAsciiBlank c || c = '>' then ([],c :: s)
    else if c = '&' then pushAll (reference true s).1 (bareValue (reference true s).2)
    else pushAll [meant c] (bareValue s)
termination_by s.length
decreasing_by
  · have := (reference_suffix true s).length_le; simp; omega
  · simp

theorem quotedValue_suffix (mark : Char) (s : Text) (p : Text × Text) (found : quotedValue mark s = some p) :
    p.2 <:+ s := by
  fun_induction quotedValue mark s generalizing p with
  | case1 => cases found
  | case2 s => cases found; exact List.suffix_cons _ _
  | case3 s _ ih =>
    obtain ⟨more,read,rfl⟩ := Option.map_eq_some_iff.mp found
    exact (ih more read).trans ((reference_suffix true s).trans (List.suffix_cons _ _))
  | case4 c s _ _ ih =>
    obtain ⟨more,read,rfl⟩ := Option.map_eq_some_iff.mp found
    exact (ih more read).trans (List.suffix_cons _ _)

theorem bareValue_suffix (s : Text) : (bareValue s).2 <:+ s := by
  fun_induction bareValue s with
  | case1 => exact List.suffix_rfl
  | case2 => exact List.suffix_rfl
  | case3 s _ ih => exact ih.trans ((reference_suffix true s).trans (List.suffix_cons _ _))
  | case4 c s _ _ ih => exact ih.trans (List.suffix_cons _ _)

def value (s : Text) : Option (Text × Text) :=
  match skipBlanks s with
  | [] => none
  | '"' :: r => quotedValue '"' r
  | '\'' :: r => quotedValue '\'' r
  | r => some (bareValue r)

theorem value_suffix (found : value s = some p) : p.2 <:+ s := by
  have blanks := List.dropWhile_suffix isAsciiBlank (l := s)
  unfold value skipBlanks at found
  split at found
  · cases found
  · rename_i r same
    exact (quotedValue_suffix _ _ _ found).trans ((List.suffix_cons _ r).trans (same ▸ blanks))
  · rename_i r same
    exact (quotedValue_suffix _ _ _ found).trans ((List.suffix_cons _ r).trans (same ▸ blanks))
  · cases found
    exact (bareValue_suffix _).trans blanks

def endsName (c : Char) : Bool := isAsciiBlank c || c = '/' || c = '>'
def endsAttributeName (c : Char) : Bool := endsName c || c = '='

def attributeAt (c : Char) (s : Text) : Option (Attribute × Text) :=
  let name := (c :: s.takeWhile fun d => !endsAttributeName d).map meantLower
  match skipBlanks (s.dropWhile fun d => !endsAttributeName d) with
  | '=' :: r => (value r).map fun read => (⟨name,read.1⟩,read.2)
  | r => some (⟨name,[]⟩,r)

theorem attributeAt_suffix (found : attributeAt c s = some p) : p.2 <:+ s := by
  have tail : skipBlanks (s.dropWhile fun d => !endsAttributeName d) <:+ s :=
    (List.dropWhile_suffix _).trans (List.dropWhile_suffix _)
  unfold attributeAt at found
  dsimp only at found
  split at found
  · rename_i r same
    obtain ⟨read,valued,rfl⟩ := Option.map_eq_some_iff.mp found
    exact (value_suffix valued).trans ((List.suffix_cons _ r).trans (same ▸ tail))
  · cases found; exact tail

-- The attributes of a tag, the first of each name, up to its end; and whether it closes itself.
def attributes (read : List Attribute) (s : Text) : Option (List Attribute × Bool × Text) :=
  match _form : skipBlanks s with
  | [] => none
  | '>' :: r => some (read.reverse,false,r)
  | '/' :: '>' :: r => some (read.reverse,true,r)
  | '/' :: r => attributes read r
  | c :: r =>
    match _found : attributeAt c r with
    | none => none
    | some p => attributes (if read.any (·.name == p.1.name) then read else p.1 :: read) p.2
termination_by s.length
decreasing_by
  all_goals
    have blanks := (List.dropWhile_suffix isAsciiBlank (l := s)).length_le
    unfold skipBlanks at _form
    rw [_form] at blanks
    simp at blanks
  · omega
  · have := (attributeAt_suffix _found).length_le; omega

def tag (s : Text) : Option (Tag × Text) :=
  let name := (s.takeWhile fun c => !endsName c).map meantLower
  (attributes [] (s.dropWhile fun c => !endsName c)).map fun (read,selfClosing,rest) =>
    (⟨name,read,selfClosing⟩,rest)

inductive CommentState where
  | start
  | startDash
  | inside
  | dash
  | dashes
  | bang
deriving DecidableEq

-- The text of a comment and what follows it. Its end is `-->` or `--!>`, and directly after its
-- start also `>` or `->`.
def comment : CommentState → Text → Text × Text
  | _, [] => ([],[])
  | .start, c :: s =>
    if c = '-' then comment .startDash s
    else if c = '>' then ([],s)
    else pushAll [meant c] (comment .inside s)
  | .startDash, c :: s =>
    if c = '-' then comment .dashes s
    else if c = '>' then ([],s)
    else pushAll ['-',meant c] (comment .inside s)
  | .inside, c :: s => if c = '-' then comment .dash s else pushAll [meant c] (comment .inside s)
  | .dash, c :: s => if c = '-' then comment .dashes s else pushAll ['-',meant c] (comment .inside s)
  | .dashes, c :: s =>
    if c = '>' then ([],s)
    else if c = '!' then comment .bang s
    else if c = '-' then pushAll ['-'] (comment .dashes s)
    else pushAll ['-','-',meant c] (comment .inside s)
  | .bang, c :: s =>
    if c = '-' then pushAll "--!" (comment .dash s)
    else if c = '>' then ([],s)
    else pushAll ("--!" ++ [meant c]) (comment .inside s)

-- What is read as a comment for want of a better meaning runs to the next `>`.
def bogusComment (s : Text) : Text × Text :=
  ((s.takeWhile (· ≠ '>')).map meant,(s.dropWhile (· ≠ '>')).drop 1)

theorem comment_suffix (state : CommentState) (s : Text) : (comment state s).2 <:+ s := by
  fun_induction comment state s with
  | case1 => exact List.suffix_rfl
  | case3 | case6 | case12 | case17 => exact List.suffix_cons _ _
  | case2 s ih | case5 s ih | case8 s ih | case10 s ih | case13 s _ ih | case14 s _ _ ih | case16 s ih =>
    exact ih.trans (List.suffix_cons _ s)
  | case4 c s _ _ ih | case7 c s _ _ ih | case9 c s _ ih | case11 c s _ ih | case15 c s _ _ _ ih | case18 c s _ _ ih =>
    exact ih.trans (List.suffix_cons c s)

theorem bogusComment_suffix (s : Text) : (bogusComment s).2 <:+ s :=
  (List.drop_suffix 1 _).trans (List.dropWhile_suffix _)

-- How an identifier of a document type ends: at its mark, or before it.
structure Identifier where
  value : Text
  closed : Bool
  rest : Text

def identifier (mark : Char) (s : Text) : Identifier :=
  let rest := s.dropWhile fun c => !(c = mark || c = '>')
  ⟨(s.takeWhile fun c => !(c = mark || c = '>')).map meant,rest.head? = some mark,rest.drop 1⟩

def pastEnd (s : Text) : Text := (s.dropWhile (· ≠ '>')).drop 1

-- After the system identifier only the end should come.
def afterSystem (d : Doctype) (s : Text) : Doctype × Text :=
  match skipBlanks s with
  | [] => ({d with isBroken := true},[])
  | r => (d,pastEnd r)

def systemPart (d : Doctype) (s : Text) : Doctype × Text :=
  match skipBlanks s with
  | '"' :: r => quoted '"' r
  | '\'' :: r => quoted '\'' r
  | r => ({d with isBroken := true},pastEnd r)
where
  quoted (mark : Char) (r : Text) : Doctype × Text :=
    let read := identifier mark r
    let d := {d with systemId := some read.value}
    if read.closed then afterSystem d read.rest else ({d with isBroken := true},read.rest)

def publicPart (d : Doctype) (s : Text) : Doctype × Text :=
  match skipBlanks s with
  | '"' :: r => quoted '"' r
  | '\'' :: r => quoted '\'' r
  | r => ({d with isBroken := true},pastEnd r)
where
  quoted (mark : Char) (r : Text) : Doctype × Text :=
    let read := identifier mark r
    let d := {d with publicId := some read.value}
    if read.closed then
      match skipBlanks read.rest with
      | '>' :: after => (d,after)
      | after => systemPart d after
    else ({d with isBroken := true},read.rest)

def startsWord (word s : Text) : Bool := sameIgnoringCase word (s.take word.length)

def doctype (s : Text) : Doctype × Text :=
  match skipBlanks s with
  | [] => (⟨none,none,none,true⟩,[])
  | '>' :: r => (⟨none,none,none,true⟩,r)
  | c :: r =>
    let ends := fun d : Char => isAsciiBlank d || d = '>'
    let name := (c :: r.takeWhile fun d => !ends d).map meantLower
    let d : Doctype := ⟨some name,none,none,false⟩
    match skipBlanks (r.dropWhile fun d => !ends d) with
    | [] => ({d with isBroken := true},[])
    | '>' :: after => (d,after)
    | after =>
      if startsWord "public" after then publicPart d (after.drop 6)
      else if startsWord "system" after then systemPart d (after.drop 6)
      else ({d with isBroken := true},pastEnd after)

theorem pastEnd_suffix (s : Text) : pastEnd s <:+ s :=
  (List.drop_suffix 1 _).trans (List.dropWhile_suffix _)
theorem skipBlanks_suffix (s : Text) : skipBlanks s <:+ s := List.dropWhile_suffix _
theorem identifier_suffix (mark : Char) (s : Text) : (identifier mark s).rest <:+ s :=
  (List.drop_suffix 1 _).trans (List.dropWhile_suffix _)

theorem afterSystem_suffix (d : Doctype) (s : Text) : (afterSystem d s).2 <:+ s := by
  unfold afterSystem
  split
  · exact List.nil_suffix
  · exact (pastEnd_suffix _).trans (skipBlanks_suffix s)

theorem systemPart_suffix (d : Doctype) (s : Text) : (systemPart d s).2 <:+ s := by
  have blanks := skipBlanks_suffix s
  have read : ∀ (mark : Char) (r : Text), (systemPart.quoted d mark r).2 <:+ r := by
    intro mark r
    unfold systemPart.quoted
    dsimp only
    split
    · exact (afterSystem_suffix _ _).trans (identifier_suffix mark r)
    · exact identifier_suffix mark r
  unfold systemPart
  split
  · rename_i r same; exact (read _ r).trans ((List.suffix_cons _ r).trans (same ▸ blanks))
  · rename_i r same; exact (read _ r).trans ((List.suffix_cons _ r).trans (same ▸ blanks))
  · exact (pastEnd_suffix _).trans blanks

theorem publicPart_suffix (d : Doctype) (s : Text) : (publicPart d s).2 <:+ s := by
  have blanks := skipBlanks_suffix s
  have read : ∀ (mark : Char) (r : Text), (publicPart.quoted d mark r).2 <:+ r := by
    intro mark r
    unfold publicPart.quoted
    dsimp only
    split
    · have spaced := (skipBlanks_suffix (identifier mark r).rest).trans (identifier_suffix mark r)
      split
      · rename_i after same; exact (List.suffix_cons _ after).trans (same ▸ spaced)
      · exact (systemPart_suffix _ _).trans spaced
    · exact identifier_suffix mark r
  unfold publicPart
  split
  · rename_i r same; exact (read _ r).trans ((List.suffix_cons _ r).trans (same ▸ blanks))
  · rename_i r same; exact (read _ r).trans ((List.suffix_cons _ r).trans (same ▸ blanks))
  · exact (pastEnd_suffix _).trans blanks

theorem doctype_suffix (s : Text) : (doctype s).2 <:+ s := by
  have blanks := skipBlanks_suffix s
  unfold doctype
  split
  · exact List.nil_suffix
  · rename_i r same; exact (List.suffix_cons _ r).trans (same ▸ blanks)
  · rename_i c r _ same
    have spaced : skipBlanks (r.dropWhile fun d => !(isAsciiBlank d || d = '>')) <:+ s :=
      (skipBlanks_suffix _).trans ((List.dropWhile_suffix _).trans ((List.suffix_cons c r).trans (same ▸ blanks)))
    dsimp only
    split
    · exact List.nil_suffix
    · rename_i after found; exact (List.suffix_cons _ after).trans (found ▸ spaced)
    · split
      · exact (publicPart_suffix _ _).trans ((List.drop_suffix 6 _).trans spaced)
      · split
        · exact (systemPart_suffix _ _).trans ((List.drop_suffix 6 _).trans spaced)
        · exact (pastEnd_suffix _).trans spaced

def plain (c : Char) : Token := if c = '\x00' then .null else .character c

def sectionText : Text → Text × Text
  | ']' :: ']' :: '>' :: s => ([],s)
  | c :: s => pushAll [c] (sectionText s)
  | [] => ([],[])

theorem sectionText_suffix (s : Text) : (sectionText s).2 <:+ s := by
  fun_induction sectionText s with
  | case1 s => exact (List.suffix_cons _ s).trans ((List.suffix_cons _ _).trans (List.suffix_cons _ _))
  | case2 c s _ ih => exact ih.trans (List.suffix_cons c s)
  | case3 => exact List.suffix_rfl

def declaration (foreign : Bool) (s : Text) : List Token × Text :=
  if ("--" : Text).isPrefixOf s then
    let read := comment .start (s.drop 2); ([.comment read.1],read.2)
  else if startsWord "doctype" s then
    let read := doctype (s.drop 7); ([.doctype read.1],read.2)
  else if foreign && ("[CDATA[" : Text).isPrefixOf s then
    let read := sectionText (s.drop 7); (read.1.map plain,read.2)
  else let read := bogusComment s; ([.comment read.1],read.2)

def closing (s : Text) : List Token × Text :=
  match s with
  | [] => ([.character '<',.character '/'],[])
  | '>' :: r => ([.fault],r)
  | c :: _ =>
    if isAsciiLetter c then
      match tag s with
      | some (t,rest) => ([.endTag t.name],rest)
      | none => ([],[])
    else let read := bogusComment s; ([.comment read.1],read.2)

def markup (foreign : Bool) (s : Text) : List Token × Text :=
  match s with
  | '!' :: r => declaration foreign r
  | '/' :: r => closing r
  | '?' :: _ => let read := bogusComment s; ([.comment read.1],read.2)
  | c :: _ =>
    if isAsciiLetter c then
      match tag s with
      | some (t,rest) => ([.startTag t],rest)
      | none => ([],[])
    else ([.character '<'],s)
  | [] => ([.character '<'],[])

def faultAt (c : Char) (s : Text) : List Token := if c = '&' && isOpenEnded s then [.fault] else []

-- The tokens that begin with `c`: several for a section or for a reference that stands for two
-- characters, none for markup that the text ends in.
def tokens (foreign : Bool) (c : Char) (s : Text) : List Token × Text :=
  if c = '<' then markup foreign s
  else if c = '&' then (faultAt c s ++ (reference false s).1.map .character,(reference false s).2)
  else ([plain c],s)

theorem attributes_suffix (read : List Attribute) (s : Text) (p : List Attribute × Bool × Text)
    (found : attributes read s = some p) : p.2.2 <:+ s := by
  fun_induction attributes read s generalizing p with
  | case1 => cases found
  | case2 read s r same =>
    cases found
    exact (List.suffix_cons _ r).trans (same ▸ skipBlanks_suffix s)
  | case3 read s r same =>
    cases found
    exact (List.suffix_cons _ r).trans ((List.suffix_cons _ _).trans (same ▸ skipBlanks_suffix s))
  | case4 read s r _ same ih =>
    exact (ih p found).trans ((List.suffix_cons _ r).trans (same ▸ skipBlanks_suffix s))
  | case5 => cases found
  | case6 read s c r _ _ _ same q attributed ih =>
    exact (ih p found).trans ((attributeAt_suffix attributed).trans
      ((List.suffix_cons c r).trans (same ▸ skipBlanks_suffix s)))

theorem tag_suffix (found : tag s = some p) : p.2 <:+ s := by
  unfold tag at found
  obtain ⟨read,attributed,rfl⟩ := Option.map_eq_some_iff.mp found
  exact (attributes_suffix _ _ _ attributed).trans (List.dropWhile_suffix _)

theorem declaration_suffix (foreign : Bool) (s : Text) : (declaration foreign s).2 <:+ s := by
  unfold declaration
  split
  · exact (comment_suffix _ _).trans (List.drop_suffix 2 s)
  · split
    · exact (doctype_suffix _).trans (List.drop_suffix 7 s)
    · split
      · exact (sectionText_suffix _).trans (List.drop_suffix 7 s)
      · exact bogusComment_suffix s

theorem closing_suffix (s : Text) : (closing s).2 <:+ s := by
  unfold closing
  split
  · exact List.suffix_rfl
  · exact List.suffix_cons _ _
  · split
    · split
      · rename_i found; exact tag_suffix found
      · exact List.nil_suffix
    · exact bogusComment_suffix _

theorem markup_suffix (foreign : Bool) (s : Text) : (markup foreign s).2 <:+ s := by
  unfold markup
  split
  · exact (declaration_suffix _ _).trans (List.suffix_cons _ _)
  · exact (closing_suffix _).trans (List.suffix_cons _ _)
  · exact bogusComment_suffix _
  · split
    · split
      · rename_i found; exact tag_suffix found
      · exact List.nil_suffix
    · exact List.suffix_rfl
  · exact List.suffix_rfl

theorem tokens_suffix (foreign : Bool) (c : Char) (s : Text) : (tokens foreign c s).2 <:+ s := by
  unfold tokens
  split
  · exact markup_suffix foreign s
  · split
    · exact reference_suffix false s
    · exact List.suffix_rfl

-- Whether a closing tag of this name begins here, after its `<`.
def closes (name s : Text) : Bool :=
  match s with
  | '/' :: r => startsWord name r && ((r.drop name.length).head?.any endsName)
  | _ => false

def rawText (name : Text) : Text → Text × Text
  | [] => ([],[])
  | c :: s => if c = '<' && closes name s then ([],c :: s) else pushAll [meant c] (rawText name s)

def referredText (name : Text) (s : Text) : Text × Text :=
  match s with
  | [] => ([],[])
  | c :: s =>
    if c = '<' && closes name s then ([],c :: s)
    else if c = '&' then pushAll (reference false s).1 (referredText name (reference false s).2)
    else pushAll [meant c] (referredText name s)
termination_by s.length
decreasing_by
  · have := (reference_suffix false s).length_le; simp; omega
  · simp

-- Inside `<!--` a script may hold a whole script element, whose closing tag does not end it.
inductive ScriptDepth where
  | outside
  | commented
  | nested
deriving DecidableEq

def opensScript (s : Text) : Bool := startsWord "script" s && ((s.drop 6).head?.any endsName)

def scriptText : ScriptDepth → Nat → Text → Text × Text
  | _, _, [] => ([],[])
  | .outside, _, '<' :: '!' :: '-' :: '-' :: s => pushAll "<!--" (scriptText .commented 2 s)
  | depth, dashes, c :: s =>
    if c = '<' then
      if depth ≠ .nested && closes "script" s then ([],c :: s)
      else if depth = .commented && opensScript s then pushAll [c] (scriptText .nested 0 s)
      else if depth = .nested && closes "script" s then pushAll [c] (scriptText .commented 0 s)
      else pushAll [c] (scriptText depth 0 s)
    else if c = '-' then pushAll [c] (scriptText depth (dashes+1) s)
    else if c = '>' && 2 ≤ dashes then pushAll [c] (scriptText .outside 0 s)
    else pushAll [meant c] (scriptText depth 0 s)

theorem rawText_suffix (name s : Text) : (rawText name s).2 <:+ s := by
  fun_induction rawText name s with
  | case1 => exact List.suffix_rfl
  | case2 => exact List.suffix_rfl
  | case3 c s _ ih => exact ih.trans (List.suffix_cons c s)

theorem referredText_suffix (name s : Text) : (referredText name s).2 <:+ s := by
  fun_induction referredText name s with
  | case1 => exact List.suffix_rfl
  | case2 => exact List.suffix_rfl
  | case3 s _ ih => exact ih.trans ((reference_suffix false s).trans (List.suffix_cons _ s))
  | case4 c s _ _ ih => exact ih.trans (List.suffix_cons c s)

theorem scriptText_suffix (depth : ScriptDepth) (dashes : Nat) (s : Text) :
    (scriptText depth dashes s).2 <:+ s := by
  fun_induction scriptText depth dashes s with
  | case1 | case3 => exact List.suffix_rfl
  | case2 _ s ih => exact ih.trans (List.suffix_append ['<','!','-','-'] s)
  | case4 _ _ s _ _ _ ih | case5 _ _ s _ _ _ _ ih | case6 _ _ s _ _ _ _ ih | case7 _ _ s _ _ ih => exact ih.trans (List.suffix_cons _ s)
  | case8 _ _ c s _ _ _ _ ih | case9 _ _ c s _ _ _ _ ih => exact ih.trans (List.suffix_cons c s)

end Scan
end StyleTrim.Html
