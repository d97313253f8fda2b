import StyleTrim.Pattern.Normal
import StyleTrim.Text.ByteRoute
import Std.Data.HashMap
namespace StyleTrim.Pattern
open Text

-- How large a machine a pattern needs that reads bytes, forwards or backwards. A pattern is refused
-- where either machine is too large, so its size is a part of what patterns mean.

-- A machine under construction: its states, numbered from zero, and what their branches take.
structure Machine where
  states : Nat
  branchBytes : Nat
deriving DecidableEq, Repr

namespace Machine

def empty : Machine := ⟨0,0⟩

def stateBytes : Nat := 32
def freeBranchBytes : Nat := 4
def rangeBranchBytes : Nat := 8

def bytes (m : Machine) : Nat := stateBytes * m.states + m.branchBytes

def limit : Nat := 10485760

def addStates (n : Nat) (m : Machine) : Machine := {m with states := m.states + n}
def addChoice (ranges : Nat) (m : Machine) : Machine := ⟨m.states + 1,m.branchBytes + rangeBranchBytes * ranges⟩
def addBranches (n : Nat) (m : Machine) : Machine := {m with branchBytes := m.branchBytes + freeBranchBytes * n}

end Machine

-- States of one set that do the same are shared. They are found again in a table of few places, where
-- a later state takes the place of an earlier one.
structure Shared (κ : Type) where
  places : Nat
  found : Std.HashMap Nat (κ × Nat)

namespace Shared

def start (places : Nat) : Shared κ := ⟨places,.emptyWithCapacity 8⟩

def place (t : Shared κ) (numbers : List Nat) : Nat :=
  (numbers.foldl (fun (h : UInt64) n => (h ^^^ n.toUInt64) * 1099511628211) 14695981039346656037).toNat % t.places

def find? [BEq κ] (t : Shared κ) (place : Nat) (key : κ) : Option Nat :=
  match t.found.get? place with
  | some (other,state) => if other == key then some state else none
  | none => none

def put (t : Shared κ) (place : Nat) (key : κ) (state : Nat) : Shared κ :=
  {t with found := t.found.insert place (key,state)}

end Shared

structure Branch where
  range : ByteRange
  next : Nat
deriving DecidableEq, Repr

def Branch.numbers (b : Branch) : List Nat := [b.range.1.toNat,b.range.2.toNat,b.next]

-- The machine with the states of the present set that can be shared.
structure Sharing (κ : Type) where
  machine : Machine
  shared : Shared κ

def gathered : List Route → List (ByteRange × List Route)
  | [] => []
  | [] :: more => gathered more
  | (b :: route) :: more =>
    match gathered more with
    | (c,routes) :: others => if b = c then (b,route :: routes) :: others else (b,[route]) :: (c,routes) :: others
    | [] => [(b,[route])]

def stateFor (target : Nat) : Nat → List Route → Sharing (List Branch) → Sharing (List Branch) × Nat
  | 0,_,s => (s,target)
  | depth + 1,routes,s =>
    let (s,backwards) := (gathered routes).foldl (fun (s,backwards) (range,rests) =>
      let (s,next) := if rests.all (·.isEmpty) then (s,target) else stateFor target depth rests s
      (s,⟨range,next⟩ :: backwards)) (s,([] : List Branch))
    let branches := backwards.reverse
    let place := s.shared.place (branches.flatMap Branch.numbers)
    match s.shared.find? place branches with
    | some state => (s,state)
    | none =>
      let state := s.machine.states
      (⟨s.machine.addChoice branches.length,s.shared.put place branches state⟩,state)

def forwardSet (routes : List Route) (m : Machine) : Machine :=
  let target := m.states
  (stateFor target 4 routes ⟨m.addStates 1,.start 10000⟩).1.machine

def backwardRoute (s : Sharing Branch) (end_ : Nat) : Route → Sharing Branch
  | [] => ⟨s.machine.addBranches 1,s.shared⟩
  | range :: more =>
    let key : Branch := ⟨range,end_⟩
    let place := s.shared.place [end_,range.1.toNat,range.2.toNat]
    match s.shared.find? place key with
    | some state => backwardRoute s state more
    | none =>
      let state := s.machine.states
      backwardRoute ⟨s.machine.addStates 1,s.shared.put place key state⟩ state more

def backwardSet (routes : List Route) (m : Machine) : Machine :=
  (routes.foldl (fun s route => backwardRoute s (m.states + 1) route) ⟨m.addStates 2,.start 1000⟩).machine

def runs : List Bytes → List (List Bytes)
  | [] => [[]]
  | [] :: more => [] :: runs more
  | w :: more =>
    match runs more with
    | run :: others => (w :: run) :: others
    | [] => [[w]]

-- Texts by their first bytes, those with the same first byte together without it.
def byFirst : List Bytes → List (UInt8 × List Bytes)
  | [] => []
  | [] :: more => byFirst more
  | (b :: w) :: more =>
    let others := byFirst more
    match others.lookup b with
    | some same => (b,w :: same) :: others.filter (·.1 ≠ b)
    | none => (b,[w]) :: others

-- Texts that are told apart byte by byte. Where a text ends before others, those that come
-- after it in the list are kept apart from those that came before.
def addTexts : Nat → List Bytes → Machine → Machine
  | 0,_,m => m
  | depth + 1,texts,m =>
    if texts.all (·.isEmpty) then m
    else
      -- A text that ends here again, before any goes on, is nothing new.
      let texts := texts.takeWhile (·.isEmpty) |>.take 1 |>.append (texts.dropWhile (·.isEmpty))
      let full := (runs texts).filter (!·.isEmpty)
      let m := full.foldl (fun m run =>
        let groups := byFirst run
        let m := groups.foldl (fun m group => addTexts depth group.2 m) m
        if groups.length = 1 then m.addStates 1 else m.addChoice groups.length) m
      (m.addStates 1).addBranches (full.length + (texts.filter (·.isEmpty)).length)

def ordered (isForward : Bool) (parts : List α) : List α := if isForward then parts else parts.reverse

-- Whether one of some parts holds, with nothing before it that takes a character.
def holdsEarly : List (Bool × Bool) → Bool
  | [] => false
  | (holds,isZeroWidth) :: more => holds || (isZeroWidth && holdsEarly more)

mutual
def isAnchored (isForward : Bool) : Pattern → Bool
  | .edge e _ => e = if isForward then .textStart else .textEnd
  | .nothing | .literal _ | .one _ => false
  | .group _ p => p.isAnchored isForward
  | .sequence parts => holdsEarly (ordered isForward (anchors isForward parts))
  | .choice branches => (anchors isForward branches).all (·.1)
  | .repeated p least _ => least ≠ 0 && p.isAnchored isForward
def anchors (isForward : Bool) : List Pattern → List (Bool × Bool)
  | [] => []
  | p :: more => (p.isAnchored isForward,p.isZeroWidth) :: anchors isForward more
end

-- A machine to which a part was added, and whether that part ends in a branching state, which
-- takes one branch more to what follows.
structure Extended where
  machine : Machine
  branches : Bool

def Extended.leadOn (e : Extended) : Machine := if e.branches then e.machine.addBranches 1 else e.machine

def settled? (m : Machine) : Option Extended := if m.bytes ≤ Machine.limit then some ⟨m,false⟩ else none

-- How a part is added to a machine, unless that becomes too large.
abbrev Extend := Machine → Option Extended

def inOrder : List Extend → Extend
  | [],m => settled? (m.addStates 1)
  | first :: more,m => do
    let e ← first m
    more.foldlM (fun e next => next e.leadOn) e

def anyOf : List Extend → Extend
  | [],m => settled? m
  | [only],m => only m
  | first :: second :: more,m => do
    let e ← first m
    let e ← second e.leadOn
    let m ← more.foldlM (fun m next => (next m).map fun e => e.leadOn.addBranches 1)
      ((e.leadOn.addStates 2).addBranches 2)
    settled? m

def again (part : Extend) : Nat → Extended → Option Extended
  | 0,e => some e
  | n + 1,e =>
    match part e.leadOn with
    | some e => again part n e
    | none => none

def copies (part : Extend) (n : Nat) (m : Machine) : Option Extended :=
  match n with
  | 0 => settled? (m.addStates 1)
  | n + 1 => (part m).bind (again part n)

def optionals (part : Extend) : Nat → Extended → Option Extended
  | 0,e => some e
  | n + 1,e =>
    match part (e.leadOn.addStates 1) with
    | some e => optionals part n ⟨e.machine.addBranches 2,e.branches⟩
    | none => none

-- Every turn has states of its own, the last of an endless repetition excepted.
def turns (part : Extend) (isNeverEmpty : Bool) (least : Nat) (most : Option Nat) : Extend := fun m =>
  match least,most with
  | 0,some 1 => (part (m.addStates 1)).bind fun e => settled? ((e.leadOn.addStates 1).addBranches 2)
  | 0,none =>
    if isNeverEmpty then (part (m.addStates 1)).map fun e => ⟨e.leadOn.addBranches 1,true⟩
    else (part m).bind fun e => settled? ((e.leadOn.addStates 3).addBranches 4)
  | 1,none => (part m).map fun e => ⟨(e.leadOn.addStates 1).addBranches 1,true⟩
  | n + 2,none => do
    let e ← copies part (n + 1) m
    let e ← part e.leadOn
    pure ⟨(e.leadOn.addStates 1).addBranches 1,true⟩
  | least,some most => do
    let e ← copies part least m
    if most ≤ least then pure e
    else
      let e ← optionals part (most - least) ⟨e.machine.addStates 1,e.branches⟩
      settled? e.leadOn

def ofSetPart (isForward : Bool) (s : CharSet) (m : Machine) : Machine :=
  if s.isAsciiOnly then (m.addStates 1).addChoice s.ranges.length
  else if isForward then forwardSet (routes s.ranges) m
  else backwardSet (routes s.ranges) m

def literal? : Pattern → Option Text
  | .literal s => some s
  | _ => none

def ofTexts (isForward : Bool) (texts : List Text) (m : Machine) : Machine :=
  let written := texts.map fun s => ordered isForward (encode s)
  let longest := written.foldl (fun n w => max n w.length) 0
  addTexts (longest + 1) written (m.addStates 1)

mutual
def part (isForward : Bool) : Pattern → Extend
  | .nothing,m | .edge ..,m => settled? (m.addStates 1)
  | .literal s,m => settled? (m.addStates (encode s).length)
  | .one s,m => settled? (ofSetPart isForward s m)
  | .group _ p,m =>
    -- Only a machine that reads forwards notes where groups begin and end.
    if isForward then (part isForward p (m.addStates 1)).bind fun e => settled? (e.leadOn.addStates 1)
    else part isForward p m
  | .sequence parts,m => inOrder (ordered isForward (partsOf isForward parts)) m
  | .choice branches,m =>
    match branches.mapM literal? with
    | some texts => settled? (ofTexts isForward texts m)
    | none => anyOf (partsOf isForward branches) m
  | .repeated p least most,m => turns (part isForward p) (p.least?.any (0 < ·)) least most m
def partsOf (isForward : Bool) : List Pattern → List Extend
  | [] => []
  | p :: more => part isForward p :: partsOf isForward more
end

-- What comes before the pattern: a way over any bytes, unless a match can begin in one place only.
def prelude (isAnchored : Bool) : Machine :=
  if isAnchored then Machine.empty.addStates 1
  else ((Machine.empty.addStates 2).addChoice 1).addBranches 2

def fits (isForward : Bool) (p : Pattern) : Bool :=
  ((part isForward (.group 0 p) (prelude (p.isAnchored isForward))).bind fun e =>
    settled? (e.leadOn.addStates 1)).isSome

def hasMachines (p : Pattern) : Bool := p.fits true && p.fits false

end StyleTrim.Pattern
