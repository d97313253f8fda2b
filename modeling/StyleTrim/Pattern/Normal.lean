import StyleTrim.Pattern
import StyleTrim.Text.Utf8
namespace StyleTrim.Pattern
open Text

-- Patterns put together so that each is in its simplest form. All that can match stays the same.

mutual
def isZeroWidth : Pattern → Bool
  | .nothing | .edge .. => true
  | .literal _ | .one _ => false
  | .group _ p => p.isZeroWidth
  | .sequence parts | .choice parts => allZeroWidth parts
  | .repeated p _ most => most.isSome && p.isZeroWidth
def allZeroWidth : List Pattern → Bool
  | [] => true
  | p :: more => p.isZeroWidth && allZeroWidth more
end

mutual
def least? : Pattern → Option Nat
  | .nothing | .edge .. => some 0
  | .literal s => some (encode s).length
  | .one s => s.ranges.head?.map fun r => (Char.ofNat r.1).utf8Size
  | .group _ p => p.least?
  | .sequence parts => leastOfAll? parts
  | .choice branches => leastOfAny? branches
  | .repeated p least _ => p.least?.map (· * least)
def leastOfAll? : List Pattern → Option Nat
  | [] => some 0
  | p :: more => do
    let n ← p.least?
    let rest ← leastOfAll? more
    pure (n + rest)
def leastOfAny? : List Pattern → Option Nat
  | [] => none
  | [p] => p.least?
  | p :: q :: more => do
    let n ← p.least?
    let rest ← leastOfAny? (q :: more)
    pure (min n rest)
end

mutual
def isSame : Pattern → Pattern → Bool
  | .nothing,.nothing => true
  | .literal a,.literal b => a == b
  | .one a,.one b => a == b
  | .edge a wordA,.edge b wordB => a == b && wordA == wordB
  | .group n a,.group m b => n == m && a.isSame b
  | .sequence as,.sequence bs | .choice as,.choice bs => areSame as bs
  | .repeated a least most,.repeated b least' most' => least == least' && most == most' && a.isSame b
  | _,_ => false
def areSame : List Pattern → List Pattern → Bool
  | [],[] => true
  | a :: as,b :: bs => a.isSame b && areSame as bs
  | _,_ => false
end

-- How many patterns of a list are the same as those of another in the same places.
def sharedLength : List Pattern → List Pattern → Nat
  | a :: as,b :: bs => if a.isSame b then sharedLength as bs + 1 else 0
  | _,_ => 0

def ofSet (s : CharSet) : Pattern :=
  match s.single? with
  | some c => .literal [c]
  | none => .one s

def flatParts : Pattern → List Pattern
  | .nothing => []
  | .sequence parts => parts
  | p => [p]

-- A part in front of others; two texts become one.
def consPart : Pattern → List Pattern → List Pattern
  | .literal a,.literal b :: more => .literal (a ++ b) :: more
  | p,more => p :: more

def inSequence (parts : List Pattern) : Pattern :=
  match (parts.flatMap flatParts).foldr consPart [] with
  | [] => .nothing
  | [p] => p
  | parts => .sequence parts

def flatBranches : Pattern → List Pattern
  | .choice branches => branches
  | p => [p]

def char? : Pattern → Option Char
  | .literal [c] => some c
  | _ => none

def set? : Pattern → Option CharSet
  | .one s => some s
  | _ => none

-- The set that the branches are one of, if each is one character or each is a set.
def unitedSet? (branches : List Pattern) : Option CharSet :=
  match branches.mapM char?,branches.mapM set? with
  | some cs,_ => some (.ofChars cs)
  | none,some sets => some (sets.foldl .union .empty)
  | none,none => none

def partsOf? : Pattern → Option (List Pattern)
  | .sequence parts => some parts
  | _ => none

-- What all sequences begin with, and what is left of each. None where they have nothing in common.
def lifted? (sequences : List (List Pattern)) : Option (List Pattern × List (List Pattern)) :=
  match sequences with
  | [] => none
  | first :: more =>
    match more.foldl (fun n parts => min n (sharedLength first parts)) first.length with
    | 0 => none
    | n + 1 => some (first.take (n + 1),sequences.map (·.drop (n + 1)))

-- What the branches begin with alike is written once, so that shorter branches are left.
def choiceWithin : Nat → List Pattern → Pattern
  | fuel,branches =>
    match branches.flatMap flatBranches with
    | [] => .one .empty
    | [p] => p
    | branches =>
      match unitedSet? branches with
      | some s => ofSet s
      | none =>
        match fuel,(branches.mapM partsOf?).bind lifted? with
        | fuel + 1,some (shared,rests) => inSequence (shared ++ [choiceWithin fuel (rests.map inSequence)])
        | _,_ => .choice branches

mutual
def size : Pattern → Nat
  | .nothing | .literal _ | .one _ | .edge .. => 1
  | .group _ p | .repeated p .. => p.size + 1
  | .sequence parts | .choice parts => sizeOfAll parts + 1
def sizeOfAll : List Pattern → Nat
  | [] => 0
  | p :: more => p.size + sizeOfAll more
end

def inChoice (branches : List Pattern) : Pattern := choiceWithin (sizeOfAll branches) branches

def inTurns (p : Pattern) (least : Nat) (most : Option Nat) : Pattern :=
  let bounds := if p.isZeroWidth then (min least 1,some ((most.map (min · 1)).getD 1)) else (least,most)
  match bounds with
  | (0,some 0) => .nothing
  | (1,some 1) => p
  | (least,most) => .repeated p least most

end StyleTrim.Pattern
