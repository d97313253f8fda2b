import StyleTrim.Html.Tree
namespace StyleTrim.Html
open Text

-- A tree in its surroundings: what stands before it (nearest first) and behind it among its
-- siblings, and the element it lies in. Nothing but an element counts as surrounding: what lies
-- directly in a document or in the contents of a template is at the top.
inductive Focus where
  | top (isRoot : Bool) (tree : Tree) (before after : List Tree)
  | within (outer : Focus) (tree : Tree) (before after : List Tree)

namespace Focus

def tree : Focus → Tree
  | .top _ t _ _ | .within _ t _ _ => t

def before : Focus → List Tree
  | .top _ _ s _ | .within _ _ s _ => s

def after : Focus → List Tree
  | .top _ _ _ s | .within _ _ _ s => s

-- Whether it lies directly in the document.
def isRoot : Focus → Bool
  | .top root .. => root
  | .within .. => false

def outer? : Focus → Option Focus
  | .top .. => none
  | .within f .. => some f

def ancestors : Focus → List Focus
  | .top .. => []
  | .within f .. => f :: f.ancestors

def isElement (f : Focus) : Bool := f.tree.isElement

def serial (f : Focus) : Nat :=
  match f.tree with
  | .element n .. => n
  | _ => 0

def name (f : Focus) : Name :=
  match f.tree with
  | .element _ n .. => n
  | _ => ⟨.html,[]⟩

def properties (f : Focus) : List Property :=
  match f.tree with
  | .element _ _ p .. => p
  | _ => []

def children (f : Focus) : List Tree :=
  match f.tree with
  | .element _ _ _ _ c => c
  | _ => []

def property? (f : Focus) (name : Text) : Option Text :=
  (f.properties.find? fun p => p.space = .plain && p.name == name).map (·.value)

def isEmpty (f : Focus) : Bool := f.children.all fun t => !t.isElement && !t.isText

-- How a tree with its siblings on both sides is put into surroundings.
abbrev Place := Tree → List Tree → List Tree → Focus

def place : Focus → Place
  | .top root .. => .top root
  | .within f .. => .within f

-- From `after` leftwards: each tree of `before` in its turn.
def leftwards (put : Place) : List Tree → List Tree → List Focus
  | [], _ => []
  | t :: before, after => put t before after :: leftwards put before (t :: after)

def rightwards (put : Place) (before : List Tree) : List Tree → List Focus
  | [] => []
  | t :: after => put t before after :: rightwards put (t :: before) after

def earlier (f : Focus) : List Focus := (leftwards f.place f.before (f.tree :: f.after)).filter isElement
def later (f : Focus) : List Focus := (rightwards f.place (f.tree :: f.before) f.after).filter isElement
def inside (f : Focus) : List Focus := (rightwards (.within f) [] f.children).filter isElement

mutual
def all (f : Focus) : Tree → List Focus
  | .element _ _ _ contents children =>
    f :: (allIn (.top false) [] contents ++ allIn (.within f) [] children)
  | _ => []
def allIn (put : Place) (before : List Tree) : List Tree → List Focus
  | [] => []
  | t :: after => all (put t before after) t ++ allIn put (t :: before) after
end

mutual
def beneathIn (put : Place) (before : List Tree) : List Tree → List Focus
  | [] => []
  | t :: after => beneathFrom (put t before after) t ++ beneathIn put (t :: before) after
def beneathFrom (f : Focus) : Tree → List Focus
  | .element _ _ _ _ children => f :: beneathIn (.within f) [] children
  | _ => []
end

def beneath (f : Focus) : List Focus := beneathIn (.within f) [] f.children

end Focus

-- The elements of a document that can be asked for, in the order in which they were made.
structure Page where
  elements : List Focus

namespace Page

-- What lies in an element that was taken out of the document can be asked for, itself it cannot.
def ofLoose (t : Tree) : List Focus := (Focus.all (.top false t [] []) t).drop 1

def read (source : Text) : Page :=
  let b := build .page source
  ⟨(Focus.allIn (.top true) [] b.trees ++ b.loose.flatMap ofLoose).mergeSort fun f g => f.serial ≤ g.serial⟩

end Page
end StyleTrim.Html
