import StyleTrim.Text
namespace StyleTrim
open Text

inductive NodeKind where
  | document
  | doctype (name : Text)
  | element (tag : Text)
  | text (value : Text)
  | comment (value : Text)
deriving DecidableEq, Repr

structure Attribute where
  name : Text
  value : Text
deriving DecidableEq, Repr

structure Payload where
  kind : NodeKind
  attributes : List Attribute
deriving DecidableEq, Repr

-- A node is named by its place in the store and by how often that place was given out before.
-- Reading and editing look at the place alone; only comparison of names sees the count.
structure NodeId where
  slot : Nat
  stamp : Nat
deriving DecidableEq, Repr

-- A place that was freed keeps its links until it is given out again.
structure Slot where
  payload : Payload
  stamp : Nat
  live : Bool
  parent : Option NodeId
  children : List NodeId
deriving DecidableEq, Repr

structure Dom where
  slots : Array Slot
  free : List Nat
deriving DecidableEq, Repr

namespace Payload

def element (tag : Text) (attributes : List Attribute) : Payload := ⟨.element tag,attributes⟩
def text (value : Text) : Payload := ⟨.text value,[]⟩

def tag? (p : Payload) : Option Text :=
  match p.kind with
  | .element tag => some tag
  | _ => none

end Payload

-- The attributes of a node that is there are changed; a free place has none.
def Slot.painted (s : Slot) (f : List Attribute → List Attribute) : Slot :=
  if s.live then {s with payload := {s.payload with attributes := f s.payload.attributes}} else s

namespace Slot
variable (s : Slot) (f : List Attribute → List Attribute)

@[simp] theorem painted_parent : (s.painted f).parent = s.parent := by unfold painted; split <;> rfl
@[simp] theorem painted_children : (s.painted f).children = s.children := by unfold painted; split <;> rfl
@[simp] theorem painted_live : (s.painted f).live = s.live := by unfold painted; split <;> rfl
@[simp] theorem painted_stamp : (s.painted f).stamp = s.stamp := by unfold painted; split <;> rfl

end Slot

namespace Dom

def root : NodeId := ⟨0,0⟩

def empty : Dom := ⟨#[⟨⟨.document,[]⟩,0,true,none,[]⟩],[]⟩

def slot? (d : Dom) (id : NodeId) : Option Slot := d.slots[id.slot]?

def node? (d : Dom) (id : NodeId) : Option Payload :=
  match d.slot? id with
  | some s => if s.live then some s.payload else none
  | none => none

def isCurrent (d : Dom) (id : NodeId) : Bool := (d.slot? id).any fun s => s.live && s.stamp == id.stamp

def tag? (d : Dom) (id : NodeId) : Option Text := (d.node? id).bind Payload.tag?
def isElement (d : Dom) (id : NodeId) : Bool := (d.tag? id).isSome

def attribute? (d : Dom) (id : NodeId) (name : Text) : Option Text :=
  (d.node? id).bind fun p => (p.attributes.find? (·.name == name)).map (·.value)

def hasAttribute (d : Dom) (id : NodeId) (name : Text) : Bool := (d.attribute? id name).isSome

def classTokens (value : Text) : List Text := words isAsciiBlank value

def hasClass (d : Dom) (id : NodeId) (name : Text) : Bool :=
  (d.attribute? id "class").any fun value => (classTokens value).contains name

def children (d : Dom) (id : NodeId) : List NodeId := ((d.slot? id).map (·.children)).getD []
def parent? (d : Dom) (id : NodeId) : Option NodeId := (d.slot? id).bind (·.parent)

def elementChildren (d : Dom) (id : NodeId) : List NodeId := (d.children id).filter d.isElement
def childrenByTag (d : Dom) (id : NodeId) (tag : Text) : List NodeId :=
  (d.children id).filter fun child => d.tag? child = some tag

-- No path in a document is longer than this.
def height (d : Dom) : Nat := d.slots.size + 1

def below (d : Dom) : Nat → NodeId → List NodeId
  | 0, _ => []
  | h + 1, id => id :: (d.children id).flatMap (below d h)

def descendants (d : Dom) (id : NodeId) : List NodeId := d.below d.height id

def above (d : Dom) : Nat → NodeId → List NodeId
  | 0, _ => []
  | h + 1, id => id :: match d.parent? id with
    | some parent => above d h parent
    | none => []

def ancestors (d : Dom) (id : NodeId) : List NodeId := d.above d.height id

def elementsUnder (d : Dom) (id : NodeId) : List NodeId := (d.descendants id).filter d.isElement
def elements (d : Dom) : List NodeId := d.elementsUnder root

def isAttached (d : Dom) (id : NodeId) : Bool := (d.node? id).isSome && (d.ancestors id).contains root

def elementsByTag (d : Dom) (tag : Text) : List NodeId := d.elements.filter fun id => d.tag? id = some tag
def elementById? (d : Dom) (value : Text) : Option NodeId :=
  d.elements.find? fun id => d.attribute? id "id" = some value

-- Inserts into a list in ascending order, once.
def insertSorted (name : Text) : List Text → List Text
  | [] => [name]
  | other :: more =>
    if name == other then other :: more
    else if before name other then name :: other :: more
    else other :: insertSorted name more

def tagNames (d : Dom) : List Text :=
  (d.elements.filterMap d.tag?).foldl (fun names tag => insertSorted tag names) []

def textOf? (d : Dom) (id : NodeId) : Option Text :=
  match d.node? id with
  | some ⟨.text value,_⟩ => some value
  | _ => none

def textContent (d : Dom) (id : NodeId) : Text := ((d.descendants id).filterMap d.textOf?).flatten

def customStyles (d : Dom) : List NodeId :=
  (d.elementsByTag "style").filter fun id =>
    !d.hasAttribute id "amp-boilerplate" && !d.hasAttribute id "amp-keyframes"

def customStyleText (d : Dom) : Text := (d.customStyles.map d.textContent).flatten

def hasChildWithClass (d : Dom) (id : NodeId) (name : Text) : Bool :=
  (d.elementChildren id).any fun child => d.hasClass child name

end Dom
end StyleTrim
