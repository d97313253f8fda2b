import StyleTrim.Css.Query.Reader
import StyleTrim.Html.Focus
namespace StyleTrim.Css.Query
open Text Html

-- Compares the value of an attribute with the one that is asked for. An empty one is a part
-- of nothing.
def Comparison.holds (comparison : Comparison) (exact : Bool) (value asked : Text) : Bool :=
  let value := if exact then value else lower value
  let asked := if exact then asked else lower asked
  match comparison with
  | .equals => value == asked
  | .includes => !asked.isEmpty && (pieces isAsciiBlank value).contains asked
  | .dashed => value == asked || (asked ++ ['-']).isPrefixOf value
  | .starts => !asked.isEmpty && asked.isPrefixOf value
  | .ends => !asked.isEmpty && asked.isSuffixOf value
  | .contains => !asked.isEmpty && Text.contains value asked

def CaseRule.isExact (isHtml : Bool) : CaseRule → Bool
  | .exact => true
  | .folded => false
  | .foldedOnHtml => !isHtml

def ValueTest.holds (test : ValueTest) (isHtml : Bool) (value : Text) : Bool :=
  test.comparison.holds (test.letters.isExact isHtml) value test.value

end Query
end StyleTrim.Css

namespace StyleTrim.Html.Focus
open Text Css.Query

def isHtml (f : Focus) : Bool := f.name.space = .html

-- Elements of HTML know their names in lower case only.
def named (f : Focus) (name : Text) : Text := if f.isHtml then lower name else name

def hasTag (f : Focus) (name : Text) : Bool := f.name.tag == f.named name

-- The first attribute of this name, of whatever vocabulary.
def anyProperty? (f : Focus) (name : Text) : Option Text :=
  (f.properties.find? fun p => p.name == name).map (·.value)

def hasId (f : Focus) (name : Text) : Bool := (f.anyProperty? "id").any (· == name)

def hasClass (f : Focus) (name : Text) : Bool :=
  f.properties.any fun p => p.name == ("class" : Text) && (words isBlank p.value).contains name

def passes (f : Focus) (test : AttributeTest) : Bool :=
  f.properties.any fun p =>
    (test.inAnySpace || p.space = .plain) && p.name == f.named test.name &&
      test.value.all fun v => v.holds f.isHtml p.value

def position (f : Focus) (test : PositionTest) : Nat :=
  let others := if test.fromEnd then f.later else f.earlier
  (if test.ofType then others.filter fun o => o.name == f.name else others).length + 1

end StyleTrim.Html.Focus

namespace StyleTrim.Css.Query
open Text Html

def isAnchor (anchor : Option Nat) (f : Focus) : Bool := anchor = some f.serial

def Relation.lefts : Relation → Focus → List Focus
  | .descendant, f => f.ancestors
  | .child, f => f.outer?.toList
  | .next, f => f.earlier.take 1
  | .later, f => f.earlier

-- Whether what is on the left of something on the left is on the left as well.
def Relation.isTransitive : Relation → Bool
  | .descendant | .later => true
  | .child | .next => false

def isAmong (f : Focus) (all : List Focus) : Bool := all.any (·.serial = f.serial)

-- The elements that may be on the left of a relation to one of several, each once. Beyond an
-- element found before, all there is was found with it.
def Relation.leftsOfAll (relation : Relation) (fs : List Focus) : List Focus :=
  fs.foldl (fun found f =>
    if relation.isTransitive && isAmong f found then found
    else found ++ (relation.lefts f).takeWhile fun g => !isAmong g found) []

def candidates (f : Focus) : List Focus := f.beneath ++ f.later.flatMap fun g => g :: g.beneath

mutual
def Test.holds : Test → Option Nat → Focus → Bool
  | .any, _, _ => true
  | .never, _, _ => false
  | .tag name, _, f => f.hasTag name
  | .id name, _, f => f.hasId name
  | .hasClass name, _, f => f.hasClass name
  | .attribute test, _, f => f.passes test
  | .position test, _, f => test.formula.holds (f.position test)
  | .root, _, f => f.isRoot
  | .empty, _, f => f.isEmpty
  | .oneOf chains, anchor, f => anyEnds chains anchor [f]
  | .noneOf chains, anchor, f => !anyEnds chains anchor [f]
  | .having chains, _, f => anyEnds chains (some f.serial) (candidates f)
def allHold : List Test → Option Nat → Focus → Bool
  | [], _, _ => true
  | t :: more, anchor, f => t.holds anchor f && allHold more anchor f
def Chain.ends : Chain → Option Nat → List Focus → Bool
  | .anchor, anchor, fs => fs.any (isAnchor anchor)
  | .only tests, anchor, fs => fs.any (allHold tests anchor)
  | .link left relation tests, anchor, fs =>
    left.ends anchor (relation.leftsOfAll (fs.filter (allHold tests anchor)))
def anyEnds : List Chain → Option Nat → List Focus → Bool
  | [], _, _ => false
  | c :: more, anchor, fs => c.ends anchor fs || anyEnds more anchor fs
end

def finds (q : Query) (f : Focus) : Bool := anyEnds q none [f]

end Query

def Query.on (q : Query) (page : Html.Page) : List Html.Focus := page.elements.filter q.finds

end StyleTrim.Css
