import StyleTrim.Css.Sheet
import StyleTrim.Css.Selector
namespace StyleTrim.Css
open Text

inductive Strategy where
  -- ask for the selector itself
  | plain (selector : Text)
  -- ask for the component tag in the document as written
  | component (tag : Text)
  -- ask for what stands before the first pseudo
  | stateful (base modifier : Text)
  -- look for the class or id it begins with
  | escaped (selector : Text)
  -- keep: no document shows it
  | vendor (selector : Text)
  -- keep while some branch is used
  | anyOf (selector : Text) (branches : List Text)
  -- keep while a declaration names it
  | animation (name : Text)
deriving DecidableEq, Repr

inductive Category where
  | empty
  | plain
  | component
  | stateful
  | escaped
  | vendor
  | anyOf
  | animation
deriving DecidableEq, Repr

namespace Category

def name : Category → Text
  | .empty => "emptySelectors"
  | .plain => "general"
  | .component => "ampElement"
  | .stateful => "pseudo"
  | .escaped => "escapedPseudo"
  | .vendor => "polyfill"
  | .anyOf => "commaGroup"
  | .animation => "keyframes"

def all : List Category := [.empty,.plain,.component,.stateful,.escaped,.vendor,.anyOf,.animation]

def ofName? (name : Text) : Option Category := all.find? (·.name == name)

end Category

namespace Strategy

def category : Strategy → Category
  | .plain _ => .plain
  | .component _ => .component
  | .stateful .. => .stateful
  | .escaped _ => .escaped
  | .vendor _ => .vendor
  | .anyOf .. => .anyOf
  | .animation _ => .animation

def text : Strategy → Text
  | .plain s | .component s | .escaped s | .vendor s | .anyOf s _ => s
  | .stateful base modifier => base ++ modifier
  | .animation name => "@keyframes " ++ name

-- The first that applies of: list, vendor, escaped, stateful, component, plain.
def ofSelector (selector : Text) : Strategy :=
  let branches := Selector.branches selector
  if 1 < branches.length then .anyOf selector branches
  else if Selector.isVendor selector then .vendor selector
  else if Selector.hasEscape selector then .escaped selector
  else match (if Selector.hasState selector then Selector.splitPseudo? selector else none) with
    | some (base,modifier) => .stateful base modifier
    | none => if Selector.isComponent selector then .component selector else .plain selector

end Strategy

inductive AtRuleUse where
  | ignored
  | walked
  | animation
deriving DecidableEq, Repr

-- What is done with an at-rule: animations count whatever their block is.
def Node.atRuleUse : Node → AtRuleUse
  | .rule _ => .ignored
  | .statement name _ | .block name _ _ => if isKeyframesName name then .animation else .ignored
  | .group name _ _ =>
    if isKeyframesName name then .animation else if isGroupName name then .walked else .ignored

mutual
def Node.strategies : Node → List Strategy
  | .rule r => [.ofSelector r.selector]
  | .statement name params | .block name params _ =>
    if isKeyframesName name then [.animation (animationName params)] else []
  | .group name params children =>
    if isKeyframesName name then [.animation (animationName params)]
    else if isGroupName name then Sheet.strategies children
    else []
def Sheet.strategies : Sheet → List Strategy
  | [] => []
  | n :: more => n.strategies ++ Sheet.strategies more
end

namespace Sheet

def firstSeen (seen : List Text) : List Strategy → List Strategy
  | [] => []
  | s :: more => if seen.contains s.text then firstSeen seen more else s :: firstSeen (s.text :: seen) more

def classify (sheet : Sheet) : List Strategy := firstSeen [] (strategies sheet)

end Sheet
end StyleTrim.Css
