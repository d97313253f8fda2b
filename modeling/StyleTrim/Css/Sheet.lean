import StyleTrim.Text
namespace StyleTrim.Css
open Text

-- A style sheet as a tree of rules. Selectors and values stay text; only their blanks are settled.

structure Declaration where
  name : Text
  value : Text
  important : Bool
deriving DecidableEq, Repr

-- What a style block holds: a declaration, or source text that is kept as written.
inductive Entry where
  | declaration (d : Declaration)
  | verbatim (text : Text)
deriving DecidableEq, Repr

structure Rule where
  selector : Text
  entries : List Entry
deriving DecidableEq, Repr

-- Only a group holds rules of its own; the block of any other at-rule is plain text.
inductive Node where
  | rule (r : Rule)
  | statement (name params : Text)
  | block (name params body : Text)
  | group (name params : Text) (children : List Node)

abbrev Sheet := List Node

def Rule.isEmpty (r : Rule) : Bool := r.entries.isEmpty

def Rule.declarations (r : Rule) : List Declaration :=
  r.entries.filterMap fun
    | .declaration d => some d
    | .verbatim _ => none

-- The at-rules whose block is a list of rules, read under a condition or in a layer.
def isGroupName (name : Text) : Bool :=
  isOneOf name ["media","supports","document","-moz-document","container","layer","scope"]

def isKeyframesName (name : Text) : Bool :=
  name == ("keyframes" : Text) ||
  (("-" : Text).isPrefixOf name && ("-keyframes" : Text).isSuffixOf name)

def isQuoteMark (c : Char) : Bool := c = '"' || c = '\''

-- The animation that a keyframes prelude names, without its quotes.
def animationName (params : Text) : Text := trimBy isQuoteMark (trim params)

namespace Node

def atRule? : Node → Option (Text × Text)
  | .rule _ => none
  | .statement name params | .block name params _ | .group name params _ => some (name,params)

def declaresAnimation (animation : Text) (n : Node) : Bool :=
  match n.atRule? with
  | some (name,params) => isKeyframesName name && animationName params == animation
  | none => false

mutual
def same : Node → Node → Bool
  | .rule r, .rule s => r == s
  | .statement n p, .statement m q => n == m && p == q
  | .block n p b, .block m q c => n == m && p == q && b == c
  | .group n p cs, .group m q ds => n == m && p == q && sameAll cs ds
  | _, _ => false
def sameAll : List Node → List Node → Bool
  | [], [] => true
  | n :: ns, m :: ms => same n m && sameAll ns ms
  | _, _ => false
end
instance : BEq Node := ⟨same⟩

end Node

mutual
def Node.rules : Node → List Rule
  | .rule r => [r]
  | .group _ _ children => Sheet.rules children
  | _ => []
def Sheet.rules : Sheet → List Rule
  | [] => []
  | n :: more => n.rules ++ Sheet.rules more
end

mutual
def Node.without (drop : Node → Bool) : Node → List Node
  | .group name params children =>
    if drop (.group name params children) then [] else [.group name params (Sheet.without drop children)]
  | n => if drop n then [] else [n]
def Sheet.without (drop : Node → Bool) : Sheet → Sheet
  | [] => []
  | n :: more => n.without drop ++ Sheet.without drop more
end

mutual
def Node.dropped (drop : Node → Bool) : Node → List Node
  | .group name params children =>
    if drop (.group name params children) then [.group name params children] else Sheet.dropped drop children
  | n => if drop n then [n] else []
def Sheet.dropped (drop : Node → Bool) : Sheet → List Node
  | [] => []
  | n :: more => n.dropped drop ++ Sheet.dropped drop more
end

mutual
def Node.pruned : Node → List Node
  | .group name params children =>
    match Sheet.pruned children with
    | [] => []
    | kept => [.group name params kept]
  | n => [n]
-- The sheet without groups that hold nothing, or nothing but such groups.
def Sheet.pruned : Sheet → Sheet
  | [] => []
  | n :: more => n.pruned ++ Sheet.pruned more
end

mutual
def Node.prunedCount : Node → Nat
  | .group _ _ children => (if (Sheet.pruned children).isEmpty then 1 else 0) + Sheet.prunedCount children
  | _ => 0
def Sheet.prunedCount : Sheet → Nat
  | [] => 0
  | n :: more => n.prunedCount + Sheet.prunedCount more
end

namespace Sheet

def onRule (p : Rule → Bool) : Node → Bool
  | .rule r => p r
  | _ => false

def withoutRules (p : Rule → Bool) (sheet : Sheet) : Sheet := without (onRule p) sheet
def removedRules (p : Rule → Bool) (sheet : Sheet) : List Rule :=
  (dropped (onRule p) sheet).filterMap fun
    | .rule r => some r
    | _ => none

def withoutSelector (selector : Text) (sheet : Sheet) : Sheet := withoutRules (·.selector == selector) sheet
def countSelector (selector : Text) (sheet : Sheet) : Nat := (removedRules (·.selector == selector) sheet).length

def withoutEmptyRules (sheet : Sheet) : Sheet := withoutRules Rule.isEmpty sheet
def emptySelectors (sheet : Sheet) : List Text := (removedRules Rule.isEmpty sheet).map (·.selector)

def withoutAnimation (animation : Text) (sheet : Sheet) : Sheet := without (Node.declaresAnimation animation) sheet
def countAnimation (animation : Text) (sheet : Sheet) : Nat := (dropped (Node.declaresAnimation animation) sheet).length

-- Whether a value names the animation as one of its blank- or comma-separated words.
def mentions (animation value : Text) : Bool :=
  (pieces (fun c => isBlank c || c = ',') value).any fun word => trimBy isQuoteMark word == animation

def referencesAnimation (animation : Text) (sheet : Sheet) : Bool :=
  (rules sheet).any fun r => r.declarations.any fun d =>
    Text.contains d.name "animation" && mentions animation d.value

end Sheet
end StyleTrim.Css
