import StyleTrim.Dom
namespace StyleTrim.Dom
open Text

-- A move that makes no sense is passed over. What else is edited must be there.

def update (d : Dom) (id : NodeId) (f : Slot → Slot) : Dom := {d with slots := d.slots.modify id.slot f}

def create (d : Dom) (p : Payload) : Dom × NodeId :=
  match d.free with
  | slot :: free =>
    let stamp := ((d.slots[slot]?).map (·.stamp)).getD 0 + 1
    ({slots := d.slots.modify slot fun _ => ⟨p,stamp,true,none,[]⟩,free},⟨slot,stamp⟩)
  | [] => ({d with slots := d.slots.push ⟨p,0,true,none,[]⟩},⟨d.slots.size,0⟩)

def createElement (d : Dom) (tag : Text) (attributes : List Attribute) : Dom × NodeId :=
  d.create (.element tag attributes)

def detach (d : Dom) (id : NodeId) : Dom :=
  match d.parent? id with
  | none => d
  | some parent =>
    (d.update parent fun s => {s with children := s.children.filter (·.slot ≠ id.slot)}).update id
      fun s => {s with parent := none}

-- Whether `id` is the anchor or stands above it, so that it cannot move there.
def wouldCycle (d : Dom) (anchor id : NodeId) : Bool := (d.ancestors anchor).contains id

def areLive (d : Dom) (a b : NodeId) : Bool := (d.node? a).isSome && (d.node? b).isSome

def link (d : Dom) (parent id : NodeId) (place : List NodeId → List NodeId) : Dom :=
  (d.update parent fun s => {s with children := place s.children}).update id
    fun s => {s with parent := some parent}

def appendChild (d : Dom) (parent child : NodeId) : Dom :=
  if d.wouldCycle parent child then d
  else
    let d := d.detach child
    if d.areLive parent child then d.link parent child (· ++ [child]) else d

def prependChild (d : Dom) (parent child : NodeId) : Dom :=
  if d.wouldCycle parent child then d
  else
    let d := d.detach child
    if d.areLive parent child then d.link parent child (child :: ·) else d

def placeAfter (sibling id : NodeId) : List NodeId → List NodeId
  | [] => []
  | n :: more => if n.slot = sibling.slot then n :: id :: more else n :: placeAfter sibling id more

def insertAfter (d : Dom) (sibling id : NodeId) : Dom :=
  if d.wouldCycle sibling id then d
  else
    let d := d.detach id
    if d.areLive sibling id then
      match d.parent? sibling with
      | some parent => d.link parent id (placeAfter sibling id)
      | none => d
    else d

def freeSlot (d : Dom) (id : NodeId) : Dom :=
  match d.node? id with
  | some _ => {d.update id (fun s => {s with live := false}) with free := d.free ++ [id.slot]}
  | none => d

def removeSubtree (d : Dom) (id : NodeId) : Dom :=
  let d := d.detach id
  (d.descendants id).foldl freeSlot d

def remove (d : Dom) (id : NodeId) : Dom := if (d.node? id).isSome then d.removeSubtree id else d

def putAttribute (name value : Text) : List Attribute → List Attribute
  | [] => [⟨name,value⟩]
  | a :: more => if a.name == name then ⟨name,value⟩ :: more else a :: putAttribute name value more

def editAttributes (d : Dom) (id : NodeId) (f : List Attribute → List Attribute) : Dom := d.update id (·.painted f)

def setAttribute (d : Dom) (id : NodeId) (name value : Text) : Dom := d.editAttributes id (putAttribute name value)
def removeAttribute (d : Dom) (id : NodeId) (name : Text) : Dom :=
  d.editAttributes id fun as => as.filter (·.name != name)

def addClass (d : Dom) (id : NodeId) (name : Text) : Dom :=
  if d.hasClass id name then d
  else
    let present := trim ((d.attribute? id "class").getD [])
    d.setAttribute id "class" (if present.isEmpty then name else present ++ ' ' :: name)

def setText (d : Dom) (id : NodeId) (value : Text) : Dom :=
  let d := (d.children id).foldl removeSubtree d
  let (d,text) := d.create (.text value)
  d.appendChild id text

def cloneTo (d : Dom) (id : NodeId) : Nat → Dom × Option NodeId
  | 0 => (d,none)
  | h + 1 =>
    match d.node? id with
    | none => (d,none)
    | some payload =>
      let (d,copy) := d.create payload
      let d := (d.children id).foldl (fun d child =>
        match cloneTo d child h with
        | (d,some childCopy) => d.link copy childCopy (· ++ [childCopy])
        | (d,none) => d) d
      (d,some copy)

def clone (d : Dom) (id : NodeId) : Dom × Option NodeId := d.cloneTo id d.height

def wrapChildren (d : Dom) (parent wrapper : NodeId) : Dom :=
  ((d.children parent).foldl (fun d child => d.appendChild wrapper child) d).appendChild parent wrapper

-- Puts `css` into the first of the author's style elements and removes the others.
def replaceStyles (d : Dom) (css : Text) : Dom × Bool :=
  match d.customStyles with
  | [] => (d,false)
  | first :: extra => (extra.foldl remove (d.setText first css),true)

inductive Edit where
  | create (payload : Payload)
  | append (parent child : NodeId)
  | prepend (parent child : NodeId)
  | after (sibling id : NodeId)
  | wrap (parent wrapper : NodeId)
  | remove (id : NodeId)
  | setAttribute (id : NodeId) (name value : Text)
  | removeAttribute (id : NodeId) (name : Text)
  | addClass (id : NodeId) (name : Text)
  | setText (id : NodeId) (value : Text)
  | clone (id : NodeId)

-- A place that was given out and is free again.
def isFree (d : Dom) (id : NodeId) : Bool := (d.slot? id).any (!·.live)

-- A place that can be taken away from where it is: if it is free, no parent is left in it.
def isLoose (d : Dom) (id : NodeId) : Bool := (d.slot? id).any fun s => s.live || s.parent.isNone

-- A place whose children are its own: those that a free one goes on listing may be others by now.
def hasOwnChildren (d : Dom) (id : NodeId) : Bool := (d.slot? id).any fun s => s.live || s.children.isEmpty

namespace Edit

def apply (d : Dom) : Edit → Dom
  | create payload => (d.create payload).1
  | append parent child => d.appendChild parent child
  | prepend parent child => d.prependChild parent child
  | after sibling id => d.insertAfter sibling id
  | wrap parent wrapper => d.wrapChildren parent wrapper
  | remove id => d.remove id
  | setAttribute id name value => d.setAttribute id name value
  | removeAttribute id name => d.removeAttribute id name
  | addClass id name => d.addClass id name
  | setText id value => d.setText id value
  | clone id => (d.clone id).1

-- Whether an edit finds what it changes. A free place has no attributes, and its links may lead to nodes that have to
-- do with others by now. Nothing comes to lie next to a removed node, so that one may be named there.
def isFounded (d : Dom) : Edit → Bool
  | create _ | remove _ | clone _ => true
  | append anchor id | prepend anchor id | after anchor id => (d.slot? anchor).isSome && d.isLoose id
  | wrap parent wrapper => d.hasOwnChildren parent && d.isLoose wrapper
  | setAttribute id _ _ | removeAttribute id _ | addClass id _ => !d.isFree id
  | setText id _ => d.hasOwnChildren id

-- What comes of an edit. One that does not find what it changes breaks off or spoils the links, and has no result here.
def result? (d : Dom) (e : Edit) : Option Dom := if e.isFounded d then some (e.apply d) else none

end Edit
end StyleTrim.Dom
