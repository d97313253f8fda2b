import StyleTrim.Text
namespace StyleTrim.Css.Selector
open Text

-- Selectors stay text. These are the few lexical questions asked about them; none of them
-- needs to know what the selector would match.

-- Pseudo-classes and pseudo-elements whose state no document shows.
def stateful : List Text :=
  [":link",":visited",":hover",":active",":focus",":focus-within",":focus-visible",":enabled",
   ":disabled",":checked",":indeterminate",":required",":invalid",":valid",":target",":lang",
   ":placeholder-shown","::placeholder","::first-line","::first-letter","::selection","::before",
   "::after",":before",":after",":first-letter",":first-line"]

-- What begins a pseudo of one browser family only.
def vendorMarks : List Text := [":-moz-",":-ms-",":-webkit-",":-o-"]

-- Where a scan stands: how deep in brackets, in which string, and after a backslash or not.
-- Every opening bracket deepens and every closing one lifts, whichever kind they are.
structure Scan where
  depth : Nat
  quote : Option Char
  escaped : Bool
deriving DecidableEq, Repr

namespace Scan

def start : Scan := ⟨0,none,false⟩

-- The state after a character.
def after (s : Scan) (c : Char) : Scan :=
  if s.escaped then {s with escaped := false}
  else if c = '\\' then {s with escaped := true}
  else match s.quote with
    | some mark => if c = mark then {s with quote := none} else s
    | none =>
      if c = '"' || c = '\'' then {s with quote := some c}
      else if c = '(' || c = '[' then {s with depth := s.depth+1}
      else if c = ')' || c = ']' then {s with depth := s.depth-1}
      else s

def isTop (s : Scan) (c : Char) : Bool :=
  !s.escaped && s.quote.isNone && s.depth == 0 &&
  !(c = '\\' || c = '"' || c = '\'' || c = '(' || c = '[' || c = ')' || c = ']')

def cut (s : Scan) : Text → List Text
  | [] => [[]]
  | c :: rest =>
    if c = ',' && s.isTop c then [] :: cut (s.after c) rest
    else match cut (s.after c) rest with
      | [] => [[c]]
      | piece :: more => (c :: piece) :: more

def colon? (s : Scan) : Text → Option (Text × Text)
  | [] => none
  | c :: rest =>
    if c = ':' && s.isTop c then some ([],c :: rest)
    else (colon? (s.after c) rest).map fun split => (c :: split.1,split.2)

end Scan

def branches (selector : Text) : List Text :=
  ((Scan.start.cut selector).map trim).filter fun branch => !branch.isEmpty

def isVendor (selector : Text) : Bool := vendorMarks.any (Text.contains (lower selector))
def hasEscape (selector : Text) : Bool := selector.any (· = '\\')
def hasState (selector : Text) : Bool := stateful.any (Text.contains (lower selector))

def splitPseudo? (selector : Text) : Option (Text × Text) := Scan.start.colon? selector

-- The part of a base that can be asked for: it does not end in a combinator.
def queryable (base : Text) : Text := trimEnd (fun c => isBlank c || c = '>' || c = '+' || c = '~') base

-- A tag that only the component library of the page gives a meaning.
def isComponent (selector : Text) : Bool :=
  4 < selector.length && ("amp-" : Text).isPrefixOf selector &&
  selector.all fun c => isAsciiLower c || isDigit c || c = '-'

inductive LiteralKind where
  | byClass
  | byId
deriving DecidableEq, Repr

structure Literal where
  kind : LiteralKind
  name : Text
deriving DecidableEq, Repr

def continuesName (c : Char) : Bool :=
  isAsciiLetter c || isDigit c || c = '-' || c = '_' || !isAscii c

def hexRun : Nat → Text → List Nat × Text
  | 0, s => ([],s)
  | _ + 1, [] => ([],[])
  | limit + 1, c :: s =>
    match hexValue? c with
    | some v => (v :: (hexRun limit s).1,(hexRun limit s).2)
    | none => ([],c :: s)

def skipBlank : Text → Text
  | c :: s => if isBlank c then s else c :: s
  | [] => []

-- The character an escape stands for, after its backslash. Numbers that are no code point
-- stand for nothing.
def unescape (s : Text) : Option Char × Text :=
  match hexRun 6 s with
  | ([],_) => match s with
    | c :: rest => (some c,rest)
    | [] => (none,[])
  | (digits,rest) => (charOf? (valueOf 16 digits),skipBlank rest)

theorem hexRun_suffix (limit : Nat) (s : Text) : (hexRun limit s).2 <:+ s := by
  fun_induction hexRun limit s with
  | case1 | case2 | case4 => exact List.suffix_rfl
  | case3 limit c s v _ ih => exact ih.trans (List.suffix_cons c s)

theorem skipBlank_suffix (s : Text) : skipBlank s <:+ s := by
  fun_cases skipBlank s
  · exact List.suffix_cons _ _
  · exact List.suffix_rfl
  · exact List.suffix_rfl

theorem unescape_suffix (s : Text) : (unescape s).2 <:+ s := by
  have tail := hexRun_suffix 6 s
  unfold unescape
  split
  · split
    · exact List.suffix_cons _ _
    · exact List.suffix_rfl
  · rename_i same
    rw [same] at tail
    exact (skipBlank_suffix _).trans tail

def literalName (s : Text) : Text :=
  match s with
  | [] => []
  | c :: s =>
    if c = '\\' then (unescape s).1.toList ++ literalName (unescape s).2
    else if continuesName c then c :: literalName s
    else []
termination_by s.length
decreasing_by
  · have := (unescape_suffix s).length_le; simp; omega
  · simp

def literal? (selector : Text) : Option Literal :=
  let named (kind : LiteralKind) (s : Text) : Option Literal :=
    let name := literalName s
    if name.isEmpty then none else some ⟨kind,name⟩
  match trim selector with
  | '.' :: s => named .byClass s
  | '#' :: s => named .byId s
  | _ => none

end StyleTrim.Css.Selector
