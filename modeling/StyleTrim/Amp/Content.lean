import StyleTrim.Amp.Layout
namespace StyleTrim.Amp
open Text

-- Components that draw inside themselves. Each leaves a mark and draws only where the mark is missing.

def copyAttributes (source target : NodeId) (names : List String) (d : Dom) : Dom :=
  (ofStrings names).foldl (fun d name =>
    match d.attribute? source name with
    | some value => d.setAttribute target name value
    | none => d) d

def adoptSources (d : Dom) (id player : NodeId) : Dom :=
  (d.elementChildren id).foldl (fun d child =>
    if (d.tag? child).any (isOneOf · ["source","track"]) then d.appendChild player child else d) d

def box (d : Dom) (name : Text) : Dom × NodeId := d.createElement "div" [⟨"class",name⟩]

def replacedMark : Text := "i-amphtml-replaced-content"
def replacedClasses : Text := "i-amphtml-fill-content i-amphtml-replaced-content"

def drawImage (d : Dom) (id : NodeId) : Dom :=
  if d.hasChildWithClass id replacedMark then d
  else
    let (d,image) := d.createElement "img" [⟨"class",replacedClasses⟩]
    let d := copyAttributes id image ["src","srcset","sizes","alt","title"] d
    (d.setAttribute image "decoding" "async").appendChild id image

def drawVideo (d : Dom) (id : NodeId) : Dom :=
  if d.hasChildWithClass id replacedMark then d
  else
    let (d,video) := d.createElement "video" [⟨"class",replacedClasses⟩]
    let d := copyAttributes id video
      ["src","poster","controls","autoplay","loop","muted","playsinline","preload"] d
    (adoptSources d id video).appendChild id video

def drawAudio (d : Dom) (id : NodeId) : Dom :=
  if !(d.childrenByTag id "audio").isEmpty then d
  else
    let (d,audio) := d.createElement "audio" [⟨"controls",[]⟩]
    let d := copyAttributes id audio ["src","autoplay","loop","muted","preload"] d
    (adoptSources d id audio).appendChild id audio

def scrollerTag : Text := "i-amphtml-scroll-container"

def drawFrame (d : Dom) (id : NodeId) : Dom :=
  if !(d.childrenByTag id scrollerTag).isEmpty then d
  else
    let (d,scroller) := d.createElement scrollerTag []
    let (d,frame) := d.createElement "iframe" [⟨"class","i-amphtml-fill-content"⟩]
    let d := copyAttributes id frame ["src","srcdoc","frameborder","allowfullscreen","sandbox","scrolling"] d
    (d.appendChild scroller frame).appendChild id scroller

-- Children that are shown in place of the slides stay where they are.
def isSlide (d : Dom) (id : NodeId) : Bool :=
  !d.hasAttribute id "placeholder" && !d.hasAttribute id "fallback"

def slideTrack : Text := "i-amphtml-slides-container"
def scrollTrack : Text := "i-amphtml-scrollable-carousel-container"

def drawButton (id : NodeId) (classes label : Text) (d : Dom) : Dom :=
  let (d,button) := d.createElement "div"
    [⟨"class",classes⟩,⟨"role","button"⟩,⟨"tabindex","0"⟩,⟨"aria-label",label⟩]
  d.appendChild id button

def placeSlide (oneAtATime : Bool) (track : NodeId) (d : Dom) (slide : NodeId) : Dom :=
  let d := d.addClass slide "amp-carousel-slide"
  if oneAtATime then
    let (d,item) := box d "i-amphtml-slide-item"
    (d.appendChild item slide).appendChild track item
  else d.appendChild track slide

def drawCarousel (d : Dom) (id : NodeId) : Dom :=
  if d.hasChildWithClass id slideTrack || d.hasChildWithClass id scrollTrack then d
  else
    let oneAtATime := (d.attribute? id "type").any fun kind => isOneOf (trim kind) ["slides"]
    let loops := d.hasAttribute id "loop"
    let slides := (d.elementChildren id).filter (isSlide d)
    let (d,track) := d.createElement "div"
      (if oneAtATime then [⟨"class",slideTrack⟩,⟨"aria-live","polite"⟩] else [⟨"class",scrollTrack⟩])
    let d := (slides.foldl (placeSlide oneAtATime track) d).appendChild id track
    let back : Text := "amp-carousel-button amp-carousel-button-prev"
    let d := drawButton id (if loops then back else back ++ " amp-disabled") "Previous item in carousel" d
    drawButton id "amp-carousel-button amp-carousel-button-next" "Next item in carousel" d

-- A box that fills its parent is drawn only where the layout gives the size.
def drawFillBox (d : Dom) (id : NodeId) : Dom :=
  if !(layoutOf? d id).any definesSize || d.hasChildWithClass id "i-amphtml-fill-content" then d
  else
    let (d,wrapper) := box d "i-amphtml-fill-content"
    d.wrapChildren id wrapper

def drawFitText (d : Dom) (id : NodeId) : Dom :=
  if d.hasChildWithClass id "i-amphtml-fit-text-content" then d
  else
    let (d,content) := box d "i-amphtml-fit-text-content"
    let (d,inner) := box d "i-amphtml-fit-text-content-inner"
    let d := (d.children id).foldl (fun d child => d.appendChild inner child) d
    (d.appendChild content inner).appendChild id content

def captionName (d : Dom) (id : NodeId) : Text :=
  match d.attribute? id "id" with
  | some name => name ++ "-caption"
  | none => "amp-image-lightbox-caption"

def drawLightbox (d : Dom) (id : NodeId) : Dom :=
  if d.hasChildWithClass id "i-amphtml-image-lightbox-container" then d
  else
    let name := captionName d id
    let (d,container) := box d "i-amphtml-image-lightbox-container"
    let (d,viewer) := box d "i-amphtml-image-lightbox-viewer"
    let (d,image) := d.createElement "img" [⟨"class","i-amphtml-image-lightbox-viewer-image"⟩,⟨"src",[]⟩]
    let d := (d.appendChild viewer image).appendChild container viewer
    let (d,caption) := d.createElement "div"
      [⟨"class","i-amphtml-image-lightbox-caption amp-image-lightbox-caption"⟩,⟨"id",name⟩]
    let d := d.appendChild container caption
    let (d,close) := d.createElement "button"
      [⟨"class","i-amphtml-screen-reader"⟩,⟨"aria-label","Close the lightbox"⟩]
    (d.appendChild id container).appendChild id close

end StyleTrim.Amp
