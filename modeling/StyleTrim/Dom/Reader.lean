import StyleTrim.Dom.Edit
import StyleTrim.Html.Tree
namespace StyleTrim.Dom
open Text

def attributeOf (p : Html.Property) : Attribute := ⟨p.fullName,p.value⟩

mutual
-- Adds a tree as the last child of a node. The contents of a template come before its children.
def plant (d : Dom) (parent : NodeId) : Html.Tree → Dom
  | .doctype name => put d parent ⟨.doctype name,[]⟩
  | .text value => put d parent (.text value)
  | .comment value => put d parent ⟨.comment value,[]⟩
  | .element _ name properties contents children =>
    let (d,id) := d.create (.element name.tag (properties.map attributeOf))
    plantAll (plantAll (d.appendChild parent id) id contents) id children
def plantAll (d : Dom) (parent : NodeId) : List Html.Tree → Dom
  | [] => d
  | t :: more => plantAll (plant d parent t) parent more
def put (d : Dom) (parent : NodeId) (p : Payload) : Dom :=
  let (d,id) := d.create p
  d.appendChild parent id
end

def ofTrees (trees : List Html.Tree) : Dom := plantAll empty root trees

def read (source : Text) : Dom := ofTrees (Html.parse source)

end StyleTrim.Dom
