import StyleTrim.Html.Rules
namespace StyleTrim.Html
open Text

-- A document as it is read. A template has its contents apart from its children. Elements are
-- numbered in the order in which they were made, which need not be their order in the document.
inductive Tree where
  | doctype (name : Text)
  | text (value : Text)
  | comment (value : Text)
  | element (serial : Nat) (name : Name) (properties : List Property) (contents children : List Tree)

def Tree.isElement : Tree → Bool
  | .element .. => true
  | _ => false

def Tree.isText : Tree → Bool
  | .text _ => true
  | _ => false

namespace Builder

def content? (b : Builder) (id : NodeId) : Option Content := (b.cell? id).map (·.content)
def childrenOf (b : Builder) (id : NodeId) : List NodeId := ((b.cell? id).map (·.lastFirst.reverse)).getD []

def tree? (b : Builder) : Nat → NodeId → Option Tree
  | 0, _ => none
  | height + 1, id =>
    let below (parent : NodeId) : List Tree := (b.childrenOf parent).filterMap (tree? b height)
    match b.content? id with
    | some (.doctype name) => some (.doctype name)
    | some (.text backwards) => some (.text backwards.reverse)
    | some (.comment value) => some (.comment value)
    | some (.element name properties contents) =>
      some (.element id name properties ((contents.map below).getD []) (below id))
    | some .document | none => none

def treeOf? (b : Builder) (id : NodeId) : Option Tree := b.tree? b.cells.size id

def trees (b : Builder) : List Tree := (b.childrenOf root).filterMap b.treeOf?

def isLoose (b : Builder) (id : NodeId) : Bool :=
  match b.cell? id with
  | some ⟨.element ..,none,_⟩ => true
  | _ => false

-- Elements that were taken out of the document on the way and never put back.
def loose (b : Builder) : List Tree := ((List.range b.cells.size).filter b.isLoose).filterMap b.treeOf?

end Builder

def build (conventions : Conventions) (source : Text) : Builder :=
  let arrived := Delivery.ofText conventions.blockSize source
  Builder.run arrived.seams (.start conventions) arrived.text

def parse (source : Text) : List Tree := (build .document source).trees

end StyleTrim.Html
