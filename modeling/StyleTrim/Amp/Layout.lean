import StyleTrim.Dom.Edit
import StyleTrim.Binary64
namespace StyleTrim.Amp
open Text

-- The box that an element takes as soon as its layout is known: marks, sizes, and what keeps
-- the ratio of its sides.

def definesSize (layout : Text) : Bool :=
  isOneOf layout ["fill","fixed","fixed-height","flex-item","fluid","intrinsic","responsive"]

-- The layout that an element asks for; a blank one asks for nothing.
def layoutOf? (d : Dom) (id : NodeId) : Option Text :=
  ((d.attribute? id "layout").map fun value => lower (trim value)).filter (!·.isEmpty)

def dimension? (d : Dom) (id : NodeId) (name : Text) : Option Binary64 :=
  (d.attribute? id name).bind fun value => Binary64.positive? (withoutEnds (trim value) "px")

def sizerTag : Text := "i-amphtml-sizer"

def hasSizer (d : Dom) (id : NodeId) : Bool :=
  (d.elementChildren id).any (fun child => d.tag? child = some sizerTag) || d.hasChildWithClass id sizerTag

def ratioStyle (d : Dom) (id : NodeId) : Text :=
  match dimension? d id "width", dimension? d id "height" with
  | some width, some height => ("display:block;padding-top:" : Text) ++ ((height.divide width).times (.round 100 1)).text ++ "%"
  | _, _ => "display:block"

def blankImage (d : Dom) (id : NodeId) : Text :=
  let side (name : Text) : Text := ((dimension? d id name).getD Binary64.zero).text
  ("data:image/svg+xml;charset=utf-8,<svg height=\"" : Text) ++ side "height" ++ "\" width=\"" ++ side "width" ++
    "\" xmlns=\"http://www.w3.org/2000/svg\" version=\"1.1\"/>"

def ratioSizer (d : Dom) (id : NodeId) : Dom × NodeId :=
  d.createElement sizerTag [⟨"class",sizerTag⟩,⟨"style",ratioStyle d id⟩]

def imageSizer (d : Dom) (id : NodeId) : Dom × NodeId :=
  let source := blankImage d id
  let (d,sizer) := d.createElement sizerTag [⟨"class",sizerTag⟩]
  let (d,image) := d.createElement "img" [⟨"alt",[]⟩,⟨"aria-hidden","true"⟩,
    ⟨"class","i-amphtml-intrinsic-sizer"⟩,⟨"role","presentation"⟩,⟨"src",source⟩]
  (d.appendChild sizer image,sizer)

def applyLayout (d : Dom) (id : NodeId) : Dom :=
  match layoutOf? d id with
  | none => d
  | some layout =>
    let d := (d.addClass id "i-amphtml-element").addClass id (("i-amphtml-layout-" : Text) ++ layout)
    let d := if definesSize layout then d.addClass id "i-amphtml-layout-size-defined" else d
    if hasSizer d id then d
    else if isOneOf layout ["responsive"] then
      let (d,sizer) := ratioSizer d id
      d.prependChild id sizer
    else if isOneOf layout ["intrinsic"] then
      let (d,sizer) := imageSizer d id
      d.prependChild id sizer
    else d

end StyleTrim.Amp
