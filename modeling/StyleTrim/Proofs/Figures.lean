import StyleTrim.Dom.Printer
import StyleTrim.Dom.Reader
namespace StyleTrim
open Text

-- A document as it is seen from outside: its nodes in order, whatever store they lie in.
inductive Figure where
  | document (children : List Figure)
  | doctype (name : Text)
  | text (value : Text)
  | comment (value : Text)
  | element (tag : Text) (attributes : List Attribute) (children : List Figure)

namespace Figure

def isText : Figure → Bool
  | .text _ => true
  | _ => false

mutual
-- The markup of a node; `raw` says whether text is written as it is.
def markup (raw : Bool) : Figure → Text
  | .document children => markupAll false children
  | .doctype name => "<!DOCTYPE " ++ name ++ ">"
  | .comment value => "<!--" ++ value ++ "-->"
  | .text value => if raw then value else value.flatMap Dom.escapedTextChar
  | .element tag attributes children =>
    Dom.openTag tag attributes ++
      (if Dom.isVoid tag then [] else markupAll (Dom.isRawText tag) children ++ Dom.closeTag tag)
def markupAll (raw : Bool) : List Figure → Text
  | [] => []
  | t :: more => markup raw t ++ markupAll raw more
end

theorem markup_document (raw : Bool) (children : List Figure) : (document children).markup raw = markupAll false children := rfl
theorem markup_doctype (raw : Bool) (name : Text) : (doctype name).markup raw = "<!DOCTYPE " ++ name ++ ">" := rfl
theorem markup_plain (value : Text) : (text value).markup true = value := rfl
theorem markup_escaped (value : Text) : (text value).markup false = value.flatMap Dom.escapedTextChar := rfl
theorem markup_element (raw : Bool) (tag : Text) (attributes : List Attribute) (children : List Figure) :
    (element tag attributes children).markup raw = Dom.openTag tag attributes ++
      (if Dom.isVoid tag then [] else markupAll (Dom.isRawText tag) children ++ Dom.closeTag tag) := rfl
theorem markupAll_nil (raw : Bool) : markupAll raw [] = [] := rfl
theorem markupAll_cons (raw : Bool) (t : Figure) (more : List Figure) :
    markupAll raw (t :: more) = t.markup raw ++ markupAll raw more := rfl

theorem markupAll_append (raw : Bool) (ts us : List Figure) : markupAll raw (ts ++ us) = markupAll raw ts ++ markupAll raw us := by
  induction ts with
  | nil => rfl
  | cons t more ih => rw [List.cons_append,markupAll_cons,markupAll_cons,ih,List.append_assoc]

mutual
def same : Figure → Figure → Bool
  | .document ts, .document us => sameAll ts us
  | .doctype name, .doctype name' => name == name'
  | .text value, .text value' => value == value'
  | .comment value, .comment value' => value == value'
  | .element tag attributes ts, .element tag' attributes' us => tag == tag' && attributes == attributes' && sameAll ts us
  | _, _ => false
def sameAll : List Figure → List Figure → Bool
  | [], [] => true
  | t :: ts, u :: us => same t u && sameAll ts us
  | _, _ => false
end

mutual
theorem same_iff (t u : Figure) : same t u = true ↔ t = u := by
  cases t with
  | document ts => cases u <;> simp [same,sameAll_iff ts]
  | element tag attributes ts => cases u <;> simp [same,sameAll_iff ts,and_assoc]
  | _ => cases u <;> simp [same]
theorem sameAll_iff (ts us : List Figure) : sameAll ts us = true ↔ ts = us := by
  match ts, us with
  | [], [] | [], _ :: _ | _ :: _, [] => simp [sameAll]
  | t :: ts, u :: us => simp [sameAll,same_iff t u,sameAll_iff ts us]
end

instance : DecidableEq Figure := fun t u => decidable_of_iff (same t u = true) (same_iff t u)

end Figure

namespace Html

mutual
-- What is seen of a tree that was read. The contents of a template are its children.
def Tree.figure : Tree → Figure
  | .doctype name => .doctype name
  | .text value => .text value
  | .comment value => .comment value
  | .element _ name properties contents children =>
    .element name.tag (properties.map Dom.attributeOf) (Tree.figures contents ++ Tree.figures children)
def Tree.figures : List Tree → List Figure
  | [] => []
  | t :: more => Tree.figure t :: Tree.figures more
end

end Html
end StyleTrim
