import StyleTrim.Html.Element
namespace StyleTrim.Html
open Text

-- The tree that grows while a document is read, with all that the rules for the next token ask of it.

abbrev NodeId := Nat

-- Text under construction is kept backwards, and children last first, so that adding is cheap.
inductive Content where
  | document
  | doctype (name : Text)
  | text (backwards : Text)
  | comment (text : Text)
  | element (name : Name) (properties : List Property) (contents : Option NodeId)

structure Cell where
  content : Content
  parent : Option NodeId
  lastFirst : List NodeId

inductive Mode where
  | initial
  | beforeHtml
  | beforeHead
  | inHead
  | afterHead
  | inBody
  | text
  | inTable
  | inTableText
  | inCaption
  | inColumnGroup
  | inTableBody
  | inRow
  | inCell
  | inSelect
  | inSelectInTable
  | inTemplate
  | afterBody
  | inFrameset
  | afterFrameset
  | afterAfterBody
  | afterAfterFrameset
deriving DecidableEq, Repr

-- A formatting element with the tag it came from, which later copies repeat.
inductive Formatting where
  | marker
  | element (node : NodeId) (tag : Tag)

def Formatting.node? : Formatting → Option NodeId
  | .marker => none
  | .element node _ => some node

-- What readers may differ in: whether a mathematical annotation can declare that it holds ordinary
-- elements, whether a template can be the shadow of the element it lies in, so that it stands
-- nowhere itself, and the bytes in a block, where the source comes in blocks.
structure Conventions where
  heedsAnnotations : Bool
  attachesShadows : Bool
  blockSize : Option Nat
deriving DecidableEq, Repr

namespace Conventions

def document : Conventions := ⟨true,false,some 4096⟩
def page : Conventions := ⟨false,true,none⟩

end Conventions

-- The stack of open elements is innermost first, the formatting list latest first.
structure Builder where
  conventions : Conventions
  cells : Array Cell
  mode : Mode
  returnMode : Mode
  opened : List NodeId
  formatting : List Formatting
  templateModes : List Mode
  head : Option NodeId
  form : Option NodeId
  framesetOk : Bool
  fostering : Bool
  skipLineFeed : Bool
  legacy : Bool
  pendingBackwards : Text

namespace Builder

def start (conventions : Conventions) : Builder where
  conventions := conventions
  cells := #[⟨.document,none,[]⟩]
  mode := .initial
  returnMode := .initial
  opened := []
  formatting := []
  templateModes := []
  head := none
  form := none
  framesetOk := true
  fostering := false
  skipLineFeed := false
  legacy := false
  pendingBackwards := []

def root : NodeId := 0

def cell? (b : Builder) (id : NodeId) : Option Cell := b.cells[id]?

def name (b : Builder) (id : NodeId) : Name :=
  match b.cell? id with
  | some ⟨.element n _ _,_,_⟩ => n
  | _ => ⟨.html,[]⟩

def isHtml (b : Builder) (tag : Text) (id : NodeId) : Bool := (b.name id).isHtml tag

def update (b : Builder) (id : NodeId) (f : Cell → Cell) : Builder :=
  {b with cells := b.cells.modify id f}

def add (b : Builder) (content : Content) : Builder × NodeId :=
  ({b with cells := b.cells.push ⟨content,none,[]⟩},b.cells.size)

-- A new element. A template gets a document of its own for its contents.
def create (b : Builder) (n : Name) (properties : List Property) : Builder × NodeId :=
  if n.isHtml "template" then
    let (b,contents) := b.add .document
    b.add (.element n properties (some contents))
  else b.add (.element n properties none)

def detach (b : Builder) (id : NodeId) : Builder :=
  match (b.cell? id).bind (·.parent) with
  | none => b
  | some parent =>
    (b.update parent fun c => {c with lastFirst := c.lastFirst.filter (· ≠ id)}).update id
      fun c => {c with parent := none}

def attach (b : Builder) (parent id : NodeId) : Builder :=
  ((b.detach id).update parent fun c => {c with lastFirst := id :: c.lastFirst}).update id
    fun c => {c with parent := some parent}

def putBefore (sibling id : NodeId) : List NodeId → List NodeId
  | [] => []
  | n :: earlier => if n = sibling then n :: id :: earlier else n :: putBefore sibling id earlier

def attachBefore (b : Builder) (sibling id : NodeId) : Builder :=
  let b := b.detach id
  match (b.cell? sibling).bind (·.parent) with
  | none => b
  | some parent =>
    (b.update parent fun c => {c with lastFirst := putBefore sibling id c.lastFirst}).update id
      fun c => {c with parent := some parent}

-- A character goes on with the text node before it, if there is one.
def extend? (b : Builder) (before : Option NodeId) (c : Char) : Option Builder :=
  match before with
  | none => none
  | some id =>
    match b.cell? id with
    | some ⟨.text backwards,_,_⟩ => some (b.update id fun cell => {cell with content := .text (c :: backwards)})
    | _ => none

def attachChar (b : Builder) (parent : NodeId) (c : Char) : Builder :=
  match b.extend? ((b.cell? parent).bind (·.lastFirst.head?)) c with
  | some b => b
  | none => let (b,id) := b.add (.text [c]); b.attach parent id

def sibling? (sibling : NodeId) (lastFirst : List NodeId) : Option NodeId :=
  ((lastFirst.dropWhile (· ≠ sibling)).drop 1).head?

def attachCharBefore (b : Builder) (sibling : NodeId) (c : Char) : Builder :=
  let before := ((b.cell? sibling).bind (·.parent)).bind fun parent =>
    (b.cell? parent).bind fun cell => sibling? sibling cell.lastFirst
  match b.extend? before c with
  | some b => b
  | none => let (b,id) := b.add (.text [c]); b.attachBefore sibling id

def moveChildren (b : Builder) (source target : NodeId) : Builder :=
  let moved := ((b.cell? source).map (·.lastFirst)).getD []
  let b := b.update source fun c => {c with lastFirst := []}
  let b := b.update target fun c => {c with lastFirst := moved ++ c.lastFirst}
  moved.foldl (fun b id => b.update id fun c => {c with parent := some target}) b

def addMissing (b : Builder) (id : NodeId) (attributes : List Attribute) : Builder :=
  b.update id fun c => match c.content with
    | .element n properties contents =>
      let missing := attributes.filter fun a => !properties.any (·.name == a.name)
      {c with content := .element n (properties ++ missing.map plainProperty) contents}
    | _ => c

def current? (b : Builder) : Option NodeId := b.opened.head?
def currentIs (b : Builder) (p : Name → Bool) : Bool := b.current?.any fun id => p (b.name id)
def currentIsHtml (b : Builder) (tag : Text) : Bool := b.currentIs (Name.isHtml tag)

def push (b : Builder) (id : NodeId) : Builder := {b with opened := id :: b.opened}
def pop (b : Builder) : Builder := {b with opened := b.opened.drop 1}
def enter (b : Builder) (mode : Mode) : Builder := {b with mode := mode}
def blockFrameset (b : Builder) : Builder := {b with framesetOk := false}
def close (b : Builder) (id : NodeId) : Builder := {b with opened := b.opened.filter (· ≠ id)}

def isOpen (b : Builder) (tag : Text) : Bool := b.opened.any (b.isHtml tag)
def inTemplate (b : Builder) : Bool := b.isOpen "template"

-- Whether an open element satisfies `p` with no limit met before it, which may be the limit itself.
def reaches (b : Builder) (limit : Name → Bool) (p : NodeId → Bool) : List NodeId → Bool
  | [] => false
  | id :: outer => p id || (!limit (b.name id) && reaches b limit p outer)

def inScope (b : Builder) (limit : Name → Bool) (tag : Text) : Bool :=
  b.reaches limit (b.isHtml tag) b.opened

def popTo (b : Builder) (p : Name → Bool) : Builder :=
  {b with opened := b.opened.dropWhile fun id => !p (b.name id)}
def popThrough (b : Builder) (p : Name → Bool) : Builder := (b.popTo p).pop
def popThroughHtml (b : Builder) (tag : Text) : Builder := b.popThrough (Name.isHtml tag)

-- Closes current elements whose end may be left out, except those of one tag.
def closeImplied (b : Builder) (except : Text) : Builder :=
  {b with opened := b.opened.dropWhile fun id =>
    (b.name id).isIn Name.impliedEnds && !b.isHtml except id}

def closeParagraph (b : Builder) : Builder :=
  if b.inScope Name.limitsButtonScope "p" then b.popThroughHtml "p" else b

def body? (b : Builder) : Option NodeId :=
  match b.opened.reverse with
  | _ :: id :: _ => if b.isHtml "body" id then some id else none
  | _ => none

inductive Spot where
  | inside (parent : NodeId)
  | beforeTable (table outer : NodeId)

def contentsOf (b : Builder) (id : NodeId) : NodeId :=
  match b.cell? id with
  | some ⟨.element _ _ (some contents),_,_⟩ => contents
  | _ => id

-- The nearest open template or table, with where misplaced content goes on its account.
def fosterSpot (b : Builder) : List NodeId → Spot
  | [] => .inside ((b.opened.getLast?).getD root)
  | id :: outer =>
    if b.isHtml "template" id then .inside (b.contentsOf id)
    else if b.isHtml "table" id then .beforeTable id (outer.head?.getD root)
    else fosterSpot b outer

def spot (b : Builder) (target : NodeId) : Spot :=
  if b.fostering && (b.name target).isTablePart then b.fosterSpot b.opened
  else if b.isHtml "template" target then .inside (b.contentsOf target)
  else .inside target

def putNode (b : Builder) (s : Spot) (id : NodeId) : Builder :=
  match s with
  | .inside parent => b.attach parent id
  | .beforeTable table outer =>
    if ((b.cell? table).bind (·.parent)).isSome then b.attachBefore table id else b.attach outer id

def putChar (b : Builder) (s : Spot) (c : Char) : Builder :=
  match s with
  | .inside parent => b.attachChar parent c
  | .beforeTable table outer =>
    if ((b.cell? table).bind (·.parent)).isSome then b.attachCharBefore table c else b.attachChar outer c

def insertChar (b : Builder) (c : Char) : Builder := b.putChar (b.spot (b.current?.getD root)) c

def insertComment (b : Builder) (s : Text) : Builder :=
  let (b,id) := b.add (.comment s)
  b.putNode (b.spot (b.current?.getD root)) id

def commentIn (b : Builder) (parent : NodeId) (s : Text) : Builder :=
  let (b,id) := b.add (.comment s)
  b.attach parent id

def insertNode (b : Builder) (n : Name) (properties : List Property) : Builder × NodeId :=
  let (b,id) := b.create n properties
  (b.putNode (b.spot (b.current?.getD root)) id,id)

def insertOpen (b : Builder) (n : Name) (properties : List Property) : Builder × NodeId :=
  let (b,id) := b.insertNode n properties
  (b.push id,id)

def htmlName (tag : Text) : Name := ⟨.html,tag⟩

def insertFor (b : Builder) (tag : Tag) : Builder × NodeId :=
  b.insertOpen (htmlName tag.name) (tag.attributes.map plainProperty)
def insert (b : Builder) (tag : Tag) : Builder := (b.insertFor tag).1
def insertVoid (b : Builder) (tag : Tag) : Builder :=
  (b.insertNode (htmlName tag.name) (tag.attributes.map plainProperty)).1
def insertNamed (b : Builder) (tag : Text) : Builder := (b.insertOpen (htmlName tag) []).1

def entriesToMarker (b : Builder) : List Formatting := b.formatting.takeWhile (·.node?.isSome)

def clearToMarker (b : Builder) : Builder :=
  {b with formatting := (b.formatting.dropWhile (·.node?.isSome)).drop 1}

def mark (b : Builder) : Builder := {b with formatting := .marker :: b.formatting}

def forget (b : Builder) (id : NodeId) : Builder :=
  {b with formatting := b.formatting.filter fun f => f.node? ≠ some id}

def isFormatting (b : Builder) (id : NodeId) : Bool := b.formatting.any fun f => f.node? = some id

-- Opens copies of the formatting elements that were closed along with something else.
def reopen : Builder → List Formatting → Builder
  | b, [] => b
  | b, .marker :: more => reopen b more
  | b, .element _ tag :: more =>
    let (b,id) := b.insertFor tag
    reopen {b with formatting := .element id tag :: b.formatting} more

def reconstruct (b : Builder) : Builder :=
  let isStale := fun f : Formatting => match f.node? with
    | some id => !b.opened.contains id
    | none => false
  let stale := b.formatting.takeWhile isStale
  reopen {b with formatting := b.formatting.dropWhile isStale} stale.reverse

def sameTag (a b : Tag) : Bool :=
  a.name == b.name && a.attributes.length == b.attributes.length && a.attributes.all b.attributes.contains

def Formatting.isLike (tag : Tag) : Formatting → Bool
  | .marker => false
  | .element _ other => sameTag tag other

def insertFormatting (b : Builder) (tag : Tag) : Builder :=
  let alike := b.entriesToMarker.filter (Formatting.isLike tag)
  let b := if 3 ≤ alike.length then
      match alike.getLast?.bind (·.node?) with
      | some id => b.forget id
      | none => b
    else b
  let (b,id) := b.insertFor tag
  {b with formatting := .element id tag :: b.formatting}

-- Where the copy of a formatting element comes in the list: in place of it, or later than a node.
inductive Bookmark where
  | inPlace
  | laterThan (node : NodeId)

def replaceEntry (old : NodeId) (new : Formatting) (entries : List Formatting) : List Formatting :=
  entries.map fun f => if f.node? = some old then new else f

def putLater (node : NodeId) (new : Formatting) : List Formatting → List Formatting
  | [] => []
  | f :: earlier => if f.node? = some node then new :: f :: earlier else f :: putLater node new earlier

structure Lifting where
  builder : Builder
  kept : List NodeId
  last : NodeId
  bookmark : Bookmark

-- Goes outward over the open elements between the furthest block and the formatting element.
-- Of the first three, formatting ones are copied around the last node; all others are closed.
def lift (furthest : NodeId) (count : Nat) (state : Lifting) : List NodeId → Lifting
  | [] => state
  | node :: outer =>
    let b := state.builder
    if 3 ≤ count then lift furthest (count+1) {state with builder := b.forget node} outer
    else
      match b.formatting.find? fun f => f.node? = some node with
      | some (.element _ tag) =>
        let (b,copy) := b.create (htmlName tag.name) (tag.attributes.map plainProperty)
        let b := {b with formatting := replaceEntry node (.element copy tag) b.formatting}
        let bookmark := if state.last = furthest then .laterThan copy else state.bookmark
        lift furthest (count+1) ⟨b.attach copy state.last,copy :: state.kept,copy,bookmark⟩ outer
      | _ => lift furthest (count+1) state outer

def closeOther (b : Builder) (tag : Text) : Builder :=
  match b.opened.dropWhile fun id => !(b.isHtml tag id || (b.name id).isSpecial) with
  | id :: outer => if b.isHtml tag id then {b with opened := outer} else b
  | [] => b

-- One round of closing a formatting element around whatever is still open inside of it, and
-- whether another round follows.
def adoptOnce (b : Builder) (subject : Text) : Builder × Bool :=
  match b.entriesToMarker.find? fun f => match f with
    | .element _ tag => tag.name == subject
    | .marker => false with
  | some (.element element tag) =>
    if !b.opened.contains element then (b.forget element,false)
    else if !b.reaches Name.limitsScope (· = element) b.opened then (b,false)
    else
      let inner := b.opened.takeWhile (· ≠ element)
      let outer := (b.opened.dropWhile (· ≠ element)).drop 1
      match inner.reverse.find? fun id => (b.name id).isSpecial with
      | none => ({b with opened := outer}.forget element,false)
      | some furthest =>
        let within := inner.takeWhile (· ≠ furthest)
        let between := (inner.dropWhile (· ≠ furthest)).drop 1
        let lifted := lift furthest 0 ⟨b,[],furthest,.inPlace⟩ between
        let b := lifted.builder.detach lifted.last
        let b := b.putNode (b.spot (outer.head?.getD root)) lifted.last
        let (b,copy) := b.create (htmlName tag.name) (tag.attributes.map plainProperty)
        let b := (b.moveChildren furthest copy).attach furthest copy
        let entry := Formatting.element copy tag
        let b := match lifted.bookmark with
          | .inPlace => {b with formatting := replaceEntry element entry b.formatting}
          | .laterThan node => {b with formatting := putLater node entry b.formatting}.forget element
        ({b with opened := within ++ copy :: furthest :: lifted.kept.reverse ++ outer},true)
  | _ => (b.closeOther subject,false)

def adoptRounds (subject : Text) : Nat → Builder → Builder
  | 0, b => b
  | n + 1, b =>
    match b.adoptOnce subject with
    | (b,true) => adoptRounds subject n b
    | (b,false) => b

def adopt (b : Builder) (subject : Text) : Builder :=
  match b.current? with
  | some id => if b.isHtml subject id && !b.isFormatting id then b.pop else adoptRounds subject 8 b
  | none => adoptRounds subject 8 b

def modeFor (b : Builder) : List NodeId → Mode
  | [] => .inBody
  | id :: outer =>
    let n := b.name id
    if n.space ≠ .html then modeFor b outer
    else if n.isHtml "select" then
      match outer.find? fun o => b.isHtml "template" o || b.isHtml "table" o with
      | some o => if b.isHtml "table" o then .inSelectInTable else .inSelect
      | none => .inSelect
    else if n.isCell && !outer.isEmpty then .inCell
    else if n.isHtml "tr" then .inRow
    else if n.isIn ["tbody","thead","tfoot"] then .inTableBody
    else if n.isHtml "caption" then .inCaption
    else if n.isHtml "colgroup" then .inColumnGroup
    else if n.isHtml "table" then .inTable
    else if n.isHtml "template" then b.templateModes.head?.getD .inBody
    else if n.isHtml "head" && !outer.isEmpty then .inHead
    else if n.isHtml "body" then .inBody
    else if n.isHtml "frameset" then .inFrameset
    else if n.isHtml "html" then (if b.head.isSome then .afterHead else .beforeHead)
    else modeFor b outer

def resetMode (b : Builder) : Mode := b.modeFor b.opened

end Builder
end StyleTrim.Html
