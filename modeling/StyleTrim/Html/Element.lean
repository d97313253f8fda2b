import StyleTrim.Html.Token
namespace StyleTrim.Html
open Text

inductive Space where
  | html
  | svg
  | mathml
deriving DecidableEq, Repr

-- Foreign elements may have attributes of these vocabularies, written with their marks.
inductive AttributeSpace where
  | plain
  | xlink
  | xml
  | xmlns
deriving DecidableEq, Repr

structure Name where
  space : Space
  tag : Text
deriving DecidableEq, Repr

-- An attribute with the vocabulary of its name; the name is without the mark of that.
structure Property where
  space : AttributeSpace
  name : Text
  value : Text
deriving DecidableEq, Repr

namespace Name

def isHtml (tag : Text) (n : Name) : Bool := n.space = .html && n.tag == tag
@[inline] def isIn (tags : List String) (n : Name) : Bool := n.space = .html && isOneOf n.tag tags

def isMathText (n : Name) : Bool :=
  n.space = .mathml && isOneOf n.tag ["mi","mo","mn","ms","mtext"]
def isSvgHost (n : Name) : Bool :=
  n.space = .svg && isOneOf n.tag ["foreignObject","desc","title"]

def headings : List String := ["h1","h2","h3","h4","h5","h6"]

def special : List String :=
  headings ++
  ["address","applet","area","article","aside","base","basefont","bgsound","blockquote","body","br",
   "button","caption","center","col","colgroup","dd","details","dir","div","dl","dt","embed",
   "fieldset","figcaption","figure","footer","form","frame","frameset","head","header","hgroup","hr",
   "html","iframe","img","input","isindex","li","link","listing","main","marquee","menu","meta","nav",
   "noembed","noframes","noscript","object","ol","p","param","plaintext","pre","script","section",
   "select","source","style","summary","table","tbody","td","template","textarea","tfoot","th","thead",
   "title","tr","track","ul","wbr","xmp"]

def isSpecial (n : Name) : Bool := n.isIn special

def impliedEnds : List String := ["dd","dt","li","option","optgroup","p","rb","rp","rt","rtc"]

def limits : List String := ["applet","caption","html","table","td","th","marquee","object","template"]
def limitsScope (n : Name) : Bool := n.isIn limits || n.isMathText || n.isSvgHost
def limitsListScope (n : Name) : Bool := n.limitsScope || n.isIn ["ol","ul"]
def limitsButtonScope (n : Name) : Bool := n.limitsScope || n.isHtml "button"
def limitsTableScope (n : Name) : Bool := n.isIn ["html","table","template"]
def limitsSelectScope (n : Name) : Bool := !n.isIn ["optgroup","option"]

def isTableBodyContext (n : Name) : Bool := n.isIn ["tbody","tfoot","thead","template","html"]
def isTableRowContext (n : Name) : Bool := n.isIn ["tr","template","html"]
def isCell (n : Name) : Bool := n.isIn ["td","th"]
-- Where ordinary content is out of place, so that it moves in front of the table.
def isTablePart (n : Name) : Bool := n.isIn ["table","tbody","tfoot","thead","tr"]

end Name

def svgTags : List (Text × Text) :=
  (ofStrings ["altGlyph","altGlyphDef","altGlyphItem","animateColor","animateMotion","animateTransform","clipPath",
    "feBlend","feColorMatrix","feComponentTransfer","feComposite","feConvolveMatrix","feDiffuseLighting",
    "feDisplacementMap","feDistantLight","feDropShadow","feFlood","feFuncA","feFuncB","feFuncG","feFuncR",
    "feGaussianBlur","feImage","feMerge","feMergeNode","feMorphology","feOffset","fePointLight",
    "feSpecularLighting","feSpotLight","feTile","feTurbulence","foreignObject","glyphRef",
    "linearGradient","radialGradient","textPath"]).map fun name => (lower name,name)

def svgAttributes : List (Text × Text) :=
  (ofStrings ["attributeName","attributeType","baseFrequency","baseProfile","calcMode","clipPathUnits",
    "diffuseConstant","edgeMode","filterUnits","glyphRef","gradientTransform","gradientUnits",
    "kernelMatrix","kernelUnitLength","keyPoints","keySplines","keyTimes","lengthAdjust",
    "limitingConeAngle","markerHeight","markerUnits","markerWidth","maskContentUnits","maskUnits",
    "numOctaves","pathLength","patternContentUnits","patternTransform","patternUnits","pointsAtX",
    "pointsAtY","pointsAtZ","preserveAlpha","preserveAspectRatio","primitiveUnits","refX","refY",
    "repeatCount","repeatDur","requiredExtensions","requiredFeatures","specularConstant",
    "specularExponent","spreadMethod","startOffset","stdDeviation","stitchTiles","surfaceScale",
    "systemLanguage","tableValues","targetX","targetY","textLength","viewBox","viewTarget",
    "xChannelSelector","yChannelSelector","zoomAndPan"]).map fun name => (lower name,name)

def recased (table : List (Text × Text)) (name : Text) : Text := (table.lookup name).getD name

def foreignSpace (name : Text) : AttributeSpace :=
  if isOneOf name ["xlink:actuate","xlink:arcrole","xlink:href","xlink:role","xlink:show",
      "xlink:title","xlink:type"] then .xlink
  else if isOneOf name ["xml:lang","xml:space"] then .xml
  else if isOneOf name ["xmlns","xmlns:xlink"] then .xmlns
  else .plain

def unmarked (name : Text) : Text :=
  match name.dropWhile (· ≠ ':') with
  | _ :: rest => rest
  | [] => name

def foreignTag (space : Space) (tag : Text) : Text :=
  if space = .svg then recased svgTags tag else tag

def foreignProperty (space : Space) (a : Attribute) : Property :=
  match foreignSpace a.name with
  | .plain =>
    let name := match space with
      | .svg => recased svgAttributes a.name
      | .mathml => if a.name == ("definitionurl" : Text) then "definitionURL" else a.name
      | .html => a.name
    ⟨.plain,name,a.value⟩
  | other => ⟨other,unmarked a.name,a.value⟩

def plainProperty (a : Attribute) : Property := ⟨.plain,a.name,a.value⟩

-- The mark of the vocabulary. That of the attribute `xmlns` itself is empty.
def Property.mark? (p : Property) : Option Text :=
  match p.space with
  | .plain => none
  | .xlink => some "xlink"
  | .xml => some "xml"
  | .xmlns => some (if p.name == ("xmlns" : Text) then [] else "xmlns")

def Property.fullName (p : Property) : Text :=
  match p.mark? with
  | none => p.name
  | some mark => mark ++ ':' :: p.name

end StyleTrim.Html
