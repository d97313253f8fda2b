import StyleTrim.Text
namespace StyleTrim.Css
open Text

namespace Query

inductive Relation where
  | descendant
  | child
  | next
  | later
deriving DecidableEq, Repr

inductive Comparison where
  | equals
  | includes
  | dashed
  | starts
  | ends
  | contains
deriving DecidableEq, Repr

-- How letters are compared: as they are, without their case, or without it on HTML elements only.
inductive CaseRule where
  | exact
  | folded
  | foldedOnHtml
deriving DecidableEq, Repr

structure ValueTest where
  comparison : Comparison
  value : Text
  letters : CaseRule
deriving DecidableEq, Repr

structure AttributeTest where
  inAnySpace : Bool
  name : Text
  value : Option ValueTest
deriving DecidableEq, Repr

structure Formula where
  step : Int
  offset : Int
deriving DecidableEq, Repr

structure PositionTest where
  fromEnd : Bool
  ofType : Bool
  formula : Formula
deriving DecidableEq, Repr

mutual
inductive Test where
  | any
  | never
  | tag (name : Text)
  | id (name : Text)
  | hasClass (name : Text)
  | attribute (test : AttributeTest)
  | position (test : PositionTest)
  | root
  | empty
  | oneOf (chains : List Chain)
  | noneOf (chains : List Chain)
  | having (chains : List Chain)
-- Tests joined by relations, the last ones outermost: those are asked of the element itself.
-- A chain within `having` begins at the element that has to have something.
inductive Chain where
  | anchor
  | only (tests : List Test)
  | link (left : Chain) (relation : Relation) (tests : List Test)
end

-- Whether a position, counted from one, is among the numbers of a formula. Distances beyond
-- 32 bits are not among them.
def Formula.holds (f : Formula) (position : Nat) : Bool :=
  let distance : Int := position - f.offset
  if 2147483647 < distance then false
  else if f.step = 0 then distance = 0
  else 0 ≤ distance.tdiv f.step && f.step * distance.tdiv f.step = distance

def caselessAttributes : List Text :=
  Text.ofStrings ["accept","accept-charset","align","alink","axis","bgcolor","charset","checked","clear",
    "codetype","color","compact","declare","defer","dir","direction","disabled","enctype","face",
    "frame","hreflang","http-equiv","lang","language","link","media","method","multiple","nohref",
    "noresize","noshade","nowrap","readonly","rel","rev","rules","scope","scrolling","selected",
    "shape","target","text","type","valign","valuetype","vlink"]

end Query

abbrev Query := List Query.Chain

end StyleTrim.Css
