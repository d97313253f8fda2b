import StyleTrim.Text
namespace StyleTrim
open Text

-- A path as it is written. Slashes separate its steps; doubled ones and steps that stay
-- where they are mean nothing, except for a dot at the very beginning.
abbrev Path := Text

namespace Path

def isSlash (c : Char) : Bool := c = '/'

-- Where a path begins: wherever one is, at the root, or with a dot.
inductive Start where
  | here
  | root
  | dot
deriving DecidableEq, Repr

def staysPut (step : Text) : Bool := step.isEmpty || step == ['.']

def cut (p : Path) : Start × List Text :=
  match pieces isSlash p with
  | [] :: first :: more => (.root,first :: more)
  | ['.'] :: more => (.dot,more)
  | steps => (.here,steps)

def ofSteps (start : Start) (steps : List Text) : Path :=
  match start, steps with
  | .here, _ => join "/" steps
  | .root, _ => '/' :: join "/" steps
  | .dot, [] => "."
  | .dot, _ => ("./" : Text) ++ join "/" steps

-- The path and the directories above it, from the inside out, when the steps are given from
-- the last to the first.
def upwards (start : Start) : List Text → List Path
  | [] => if start = .here then [] else [ofSteps start []]
  | step :: above =>
    if staysPut step then upwards start above
    else ofSteps start (step :: above).reverse :: upwards start above

def directoriesOf (p : Path) : List Path :=
  let (start,steps) := cut p
  (upwards start steps.reverse).drop 1

def bare (p : Path) : Path := if p.all isSlash then p else trimEnd isSlash p

def parent? (p : Path) : Option Path :=
  let (start,steps) := cut p
  match upwards start steps.reverse with
  | [] => none
  | [_] => if start = .root then none else some []
  | _ :: above :: _ => some above

def fileName? (p : Path) : Option Text :=
  match (cut p).2.reverse.dropWhile staysPut with
  | [] => none
  | name :: _ => if name == ['.','.'] then none else some name

-- A name up to its last dot, and what follows the dot. A dot at the beginning does not count.
def splitName (name : Text) : Text × Option Text :=
  let tail := name.reverse.takeWhile (· ≠ '.')
  let head := (name.reverse.drop (tail.length + 1)).reverse
  if head.isEmpty then (name,none) else (head,some tail.reverse)

def within (directory p : Path) : Path :=
  if p.head? = some '/' || directory.isEmpty then p
  else if directory.getLast? = some '/' then directory ++ p
  else directory ++ '/' :: p

end Path
end StyleTrim
