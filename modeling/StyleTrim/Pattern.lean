import StyleTrim.Pattern.CharSet
namespace StyleTrim
open Text

-- What is true of a place between characters. A word boundary may hold on one side only.
inductive Edge where
  | textStart
  | textEnd
  | lineStart
  | lineEnd
  -- line ends may also be carriage returns, alone or before a line feed
  | anyLineStart
  | anyLineEnd
  | boundary
  | noBoundary
  | wordStart
  | wordEnd
  | noWordBefore
  | noWordAfter
deriving DecidableEq, Repr

-- A group is told from others by its number. What it holds is of no use here but of some size.
inductive Pattern where
  | nothing
  | literal (s : Text)
  | one (s : CharSet)
  | edge (e : Edge) (word : CharSet)
  | group (number : Nat) (p : Pattern)
  | sequence (parts : List Pattern)
  | choice (branches : List Pattern)
  | repeated (p : Pattern) (least : Nat) (most : Option Nat)
deriving Repr

-- A place in a text: the character before it, how many follow and which they are. The number
-- tells a place of a text from its other places.
structure Cursor where
  before : Option Char
  left : Nat
  rest : Text
deriving DecidableEq, Repr

namespace Cursor

-- This place and the later ones of its text, from left to right.
def onwards (before : Option Char) (left : Nat) : Text → List Cursor
  | [] => [⟨before,left,[]⟩]
  | c :: s => ⟨before,left,c :: s⟩ :: onwards (some c) (left - 1) s

def places (s : Text) : List Cursor := onwards none s.length s

def union : List Cursor → List Cursor → List Cursor
  | [],b => b
  | a,[] => a
  | x :: a,y :: b =>
    if x.left = y.left then x :: union a b
    else if y.left < x.left then x :: union a (y :: b)
    else y :: union (x :: a) b
termination_by a b => a.length + b.length

def without : List Cursor → List Cursor → List Cursor
  | [],_ => []
  | a,[] => a
  | x :: a,y :: b =>
    if x.left = y.left then without a b
    else if y.left < x.left then x :: without a (y :: b)
    else without (x :: a) b
termination_by a b => a.length + b.length

def behind? (s : Text) (at_ : Cursor) : Option Cursor :=
  (withoutStart? at_.rest s).map fun rest => ⟨s.getLast?.orElse fun _ => at_.before,at_.left - s.length,rest⟩

end Cursor

namespace Edge

def looksAtWords : Edge → Bool
  | .boundary | .noBoundary | .wordStart | .wordEnd | .noWordBefore | .noWordAfter => true
  | .textStart | .textEnd | .lineStart | .lineEnd | .anyLineStart | .anyLineEnd => false

def holds (e : Edge) (word : CharSet) (at_ : Cursor) : Bool :=
  let next := at_.rest.head?
  let wordBefore := at_.before.any word.has
  let wordAfter := next.any word.has
  match e with
  | .textStart => at_.before.isNone
  | .textEnd => next.isNone
  | .lineStart => at_.before.isNone || at_.before = some '\n'
  | .lineEnd => next.isNone || next = some '\n'
  | .anyLineStart =>
    at_.before.isNone || at_.before = some '\n' || (at_.before = some '\r' && next ≠ some '\n')
  | .anyLineEnd => next.isNone || next = some '\r' || (next = some '\n' && at_.before ≠ some '\r')
  | .boundary => wordBefore != wordAfter
  | .noBoundary => wordBefore == wordAfter
  | .wordStart => !wordBefore && wordAfter
  | .wordEnd => wordBefore && !wordAfter
  | .noWordBefore => !wordBefore
  | .noWordAfter => !wordAfter

end Edge

namespace Pattern

def spread (step : List Cursor → List Cursor) : Nat → List Cursor → List Cursor → List Cursor
  | 0, seen, _ => seen
  | fuel + 1, seen, latest =>
    match Cursor.without (step latest) seen with
    | [] => seen
    | fresh => spread step fuel (Cursor.union seen fresh) fresh

def times (step : List Cursor → List Cursor) : Nat → List Cursor → List Cursor
  | 0, at_ => at_
  | _ + 1, [] => []
  | n + 1, at_ => times step n (step at_)

-- No text has more new places than this.
def roundsFrom (at_ : List Cursor) : Nat := at_.foldl (fun n c => max n (c.left + 1)) 0

mutual
def ends : Pattern → List Cursor → List Cursor
  | .nothing, at_ => at_
  | .literal s, at_ => at_.filterMap (Cursor.behind? s)
  | .one s, at_ => at_.filterMap fun c => match c.rest with
    | next :: rest => if s.has next then some ⟨some next,c.left - 1,rest⟩ else none
    | [] => none
  | .edge e word, at_ => at_.filter (e.holds word)
  | .group _ p, at_ => p.ends at_
  | .sequence parts, at_ => endsOfAll parts at_
  | .choice branches, at_ => endsOfAny branches at_
  | .repeated p least most, at_ =>
    let start := times p.ends least at_
    let rounds := roundsFrom start
    spread p.ends (match most with
      | some most => min (most - least) rounds
      | none => rounds) start start
def endsOfAll : List Pattern → List Cursor → List Cursor
  | [], at_ => at_
  | p :: more, at_ => endsOfAll more (p.ends at_)
def endsOfAny : List Pattern → List Cursor → List Cursor
  | [], _ => []
  | p :: more, at_ => Cursor.union (p.ends at_) (endsOfAny more at_)
end

def occursIn (p : Pattern) (s : Text) : Bool := !(p.ends (Cursor.places s)).isEmpty

end Pattern
end StyleTrim
