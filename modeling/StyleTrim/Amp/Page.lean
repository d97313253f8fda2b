import StyleTrim.Amp.Component
import StyleTrim.Amp.Copies
namespace StyleTrim.Amp
open Text

def drawAs (draw : Draw) (d : Dom) (id : NodeId) : Drawing → Option Dom
  | .image => some (drawImage d id)
  | .video => some (drawVideo d id)
  | .audio => some (drawAudio d id)
  | .frame => some (drawFrame d id)
  | .carousel => some (drawCarousel d id)
  | .accordion => drawAccordion draw d id
  | .sidebar => drawSidebar draw d id
  | .fillBox => some (drawFillBox d id)
  | .fitText => some (drawFitText d id)
  | .lightbox => some (drawLightbox d id)
  | .items => drawItems draw d id

def drawingOf? (d : Dom) (id : NodeId) : Option Drawing := (d.tag? id).bind drawing?

def drawComponent (draw : Draw) (d : Dom) (id : NodeId) : Option Dom :=
  match drawingOf? d id with
  | some drawing => drawAs draw d id drawing
  | none => some d

def drawElement (draw : Draw) (d : Dom) (id : NodeId) : Option Dom :=
  if d.isElement id then do
    let d ← drawComponent draw d id
    pure (if d.hasAttribute id "layout" then applyLayout d id else d)
  else some d

-- The elements are listed before the first of them is drawn: what is added on the way is drawn
-- only by the component that adds it. A list whose template holds that list has no drawing, so
-- copies within copies are followed to a limited depth.
def drawUnder : Nat → Draw
  | 0, _, _ => none
  | depth + 1, d, id => (d.elementsUnder id).foldlM (drawElement (drawUnder depth)) d

-- Copies lie within copies only as deep as components are written into each other.
def copyDepth (d : Dom) : Nat := 2 * d.height

def drawSubtree (d : Dom) (id : NodeId) : Option Dom := drawUnder (copyDepth d) d id

def drawOne (d : Dom) (id : NodeId) : Option Dom := drawComponent (drawUnder (copyDepth d)) d id

-- Draws all components of the page, as long as no copies lie deeper than some depth.
def drawPageTo (depth : Nat) (d : Dom) : Option Dom :=
  d.elements.foldlM (fun now id =>
    if now.isAttached id then drawElement (drawUnder depth) now id else some now) d

def drawPage (d : Dom) : Option Dom := drawPageTo (copyDepth d) d

def dataTagsOf (d : Dom) : List Text := d.tagNames.filter followsData

end StyleTrim.Amp
