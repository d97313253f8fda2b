import StyleTrim.Proofs.Figures
import StyleTrim.Proofs.Written
namespace StyleTrim.Html
open Text

-- Which documents are written so that every node is read again where it stands.

section classes
variable {α β : Type} {tags : α → List String} {ordered : List α} {other k : α} {tag : Text}

-- The first class that a tag is of.
def classOf (tags : α → List String) (ordered : List α) (other : α) (tag : Text) : α :=
  (ordered.find? fun k => isOneOf tag (tags k)).getD other

theorem classOf_mem (isClass : classOf tags ordered other tag = k) (known : k ≠ other) : isOneOf tag (tags k) = true := by
  rw [classOf] at isClass
  cases found : ordered.find? fun k => isOneOf tag (tags k) with
  | none =>
    rw [found] at isClass
    exact absurd isClass.symm known
  | some k' =>
    rw [found] at isClass
    cases isClass
    exact List.find?_some (p := fun k : α => isOneOf tag (tags k)) found

-- What is asked of the class is asked of one class after the other.
theorem classOf_fold (f : α → β) (ordered : List α) (tag : Text) : f (classOf tags ordered other tag) =
    ordered.foldr (fun k rest => if isOneOf tag (tags k) then f k else rest) (f other) := by
  rw [classOf]
  induction ordered with
  | nil => rfl
  | cons k more ih =>
    rw [List.foldr_cons,List.find?_cons]
    cases isOneOf tag (tags k) with
    | true => rfl
    | false => exact ih

end classes

-- The classes of tags that the rules of the body go by, in the order in which they are asked for.
inductive Kind where
  | html
  | head
  | body
  | frameset
  | block
  | heading
  | preformatted
  | form
  | item
  | term
  | plaintext
  | button
  | link
  | formatting
  | unbroken
  | object
  | table
  | void
  | input
  | source
  | rule
  | image
  | textarea
  | verbatim
  | frame
  | fallback
  | select
  | option
  | ruby
  | rubyText
  | math
  | svg
  | part
  | other
deriving DecidableEq

namespace Kind

def tags : Kind → List String
  | html => ["html"]
  | head => Builder.headTags
  | body => ["body"]
  | frameset => ["frameset"]
  | block => ["address","article","aside","blockquote","center","details","dialog","dir","div","dl",
      "fieldset","figcaption","figure","footer","header","hgroup","main","menu","nav","ol","p","search",
      "section","summary","ul"]
  | heading => Name.headings
  | preformatted => ["pre","listing"]
  | form => ["form"]
  | item => ["li"]
  | term => ["dd","dt"]
  | plaintext => ["plaintext"]
  | button => ["button"]
  | link => ["a"]
  | formatting => ["b","big","code","em","font","i","s","small","strike","strong","tt","u"]
  | unbroken => ["nobr"]
  | object => ["applet","marquee","object"]
  | table => ["table"]
  | void => ["area","br","embed","img","keygen","wbr"]
  | input => ["input"]
  | source => ["param","source","track"]
  | rule => ["hr"]
  | image => ["image"]
  | textarea => ["textarea"]
  | verbatim => ["xmp"]
  | frame => ["iframe"]
  | fallback => ["noembed","noscript"]
  | select => ["select"]
  | option => ["optgroup","option"]
  | ruby => ["rb","rtc"]
  | rubyText => ["rp","rt"]
  | math => ["math"]
  | svg => ["svg"]
  | part => ["caption","col","colgroup","frame","head","tbody","td","tfoot","th","thead","tr"]
  | other => []

def ordered : List Kind :=
  [html,head,body,frameset,block,heading,preformatted,form,item,term,plaintext,button,link,formatting,unbroken,
   object,table,void,input,source,rule,image,textarea,verbatim,frame,fallback,select,option,ruby,rubyText,math,svg,part]

-- The kind of a tag, the first that it is of.
def of (tag : Text) : Kind := classOf tags ordered other tag

theorem of_mem {tag : Text} {k : Kind} (isKind : of tag = k) (known : k ≠ other) : isOneOf tag k.tags = true :=
  classOf_mem isKind known

-- The kinds that are told from the others outside of the rules of the body.
def telling : List Kind := [html,head,body,frameset,table,select,math,svg,part]

-- Their tags are of no kind that is asked for before them.
theorem of_tags : (telling.all fun k => (ofStrings k.tags).all fun w => of w = k) = true := by decide +kernel

theorem of_iff {tag : Text} {k : Kind} (tells : k ∈ telling) : of tag = k ↔ isOneOf tag k.tags = true := by
  refine ⟨fun isKind => of_mem isKind ?_,fun inside => ?_⟩
  · rintro rfl
    exact absurd tells (by decide)
  · rw [isOneOf,List.contains_iff_mem] at inside
    exact of_decide_eq_true (List.all_eq_true.mp (List.all_eq_true.mp of_tags k tells) tag inside)

theorem mem_ordered (k : Kind) (known : k ≠ other) : k ∈ ordered := by
  cases k <;> first | exact absurd rfl known | decide

end Kind

-- What the rules for the next token ask of the nodes that are open: their names, innermost first,
-- the tags of the formatting elements, latest first and none for a marker, and whether a form is open.
structure Place where
  names : List Name
  formatting : List (Option Tag)
  hasForm : Bool

-- Whether an open element satisfies `p` with no limit met before it, which may be the limit itself.
def reachesName (limit p : Name → Bool) : List Name → Bool
  | [] => false
  | n :: outer => p n || (!limit n && reachesName limit p outer)

-- The mode that the open elements call for, with that of a template left open.
def modeOf : List Name → Mode
  | [] => .inBody
  | n :: outer =>
    if n.space ≠ .html then modeOf outer
    else if n.isHtml "select" then
      match outer.find? fun o => o.isHtml "template" || o.isHtml "table" with
      | some o => if o.isHtml "table" then .inSelectInTable else .inSelect
      | none => .inSelect
    else if n.isCell && !outer.isEmpty then .inCell
    else if n.isHtml "tr" then .inRow
    else if n.isIn ["tbody","thead","tfoot"] then .inTableBody
    else if n.isHtml "caption" then .inCaption
    else if n.isHtml "colgroup" then .inColumnGroup
    else if n.isHtml "table" then .inTable
    else if n.isHtml "template" then .inTemplate
    else if n.isHtml "head" && !outer.isEmpty then .inHead
    else if n.isHtml "body" then .inBody
    else if n.isHtml "frameset" then .inFrameset
    else if n.isHtml "html" then .afterHead
    else modeOf outer

-- What the modes come to for a node that is not out of place.
inductive Ground where
  | flow
  | select
  | table
  | rows
  | cells
  | columns
  | head
  | gap
deriving DecidableEq

-- How an element is read where it stands: as one that holds nothing, one whose text is no markup,
-- or one that holds further nodes. Of the last two some pass over a line feed at their beginning.
inductive Manner where
  | leaf
  | raw (kind : RawKind) (skips : Bool)
  | within (inner : Place) (skips : Bool)

namespace Place

-- The innermost open element.
def current? (p : Place) : Option Name := p.names.head?
def currentIs (p : Place) (q : Name → Bool) : Bool := p.current?.any q

def ground? (p : Place) : Option Ground :=
  if p.currentIs (Name.isHtml "table") then some .table
  else if p.currentIs (Name.isIn ["tbody","tfoot","thead"]) then some .rows
  else if p.currentIs (Name.isHtml "tr") then some .cells
  else if p.currentIs (Name.isHtml "colgroup") then some .columns
  else match modeOf p.names with
    | .inBody | .inCell | .inCaption | .inTemplate => some .flow
    | .inSelect | .inSelectInTable => some .select
    | .inHead => some .head
    | .afterHead => some .gap
    | _ => none

def inTemplate (p : Place) : Bool := p.names.any (Name.isHtml "template")
def hasParagraph (p : Place) : Bool := reachesName Name.limitsButtonScope (Name.isHtml "p") p.names
def reaches (p : Place) (tag : Text) : Bool := reachesName Name.limitsScope (Name.isHtml tag) p.names

-- Whether an item that begins here closes none before it.
def endsNone (p : Place) (items : List String) : Bool :=
  !(p.names.find? fun n => n.isIn items || (n.isSpecial && !n.isIn ["address","div","p"])).any (Name.isIn items)

-- Whether three formatting elements like this one are open.
def isCrowded (p : Place) (tag : Tag) : Bool :=
  3 ≤ ((p.formatting.takeWhile Option.isSome).filter fun f => f.any (Builder.sameTag tag)).length

-- Whether a ruby text that begins here closes nothing.
def standsOpen (p : Place) (except : Text) : Bool :=
  !p.reaches "ruby" || !p.currentIs fun n => n.isIn Name.impliedEnds && !n.isHtml except

def inside (p : Place) (n : Name) : Place := {p with names := n :: p.names}
def marked (p : Place) (n : Name) : Place := {p.inside n with formatting := none :: p.formatting}
def listed (p : Place) (tag : Tag) : Place :=
  {p.inside ⟨.html,tag.name⟩ with formatting := some tag :: p.formatting}

def html (p : Place) (tag : Tag) : Manner := .within (p.inside ⟨.html,tag.name⟩) false
def markedHtml (p : Place) (tag : Tag) : Manner := .within (p.marked ⟨.html,tag.name⟩) false

-- Whether a start tag is read here as that of a foreign element.
def readsForeign (p : Place) (tag : Text) : Bool :=
  p.currentIs fun n => n.space ≠ .html && !n.isSvgHost && !(n.isMathText && !isOneOf tag ["mglyph","malignmark"])

def space (p : Place) : Space := (p.current?.map (·.space)).getD .html

-- The name of the element of a start tag.
def nameOf (p : Place) (tag : Text) : Name :=
  if p.readsForeign tag then ⟨p.space,foreignTag p.space tag⟩
  else if isOneOf tag ["math"] then ⟨.mathml,tag⟩
  else if isOneOf tag ["svg"] then ⟨.svg,tag⟩
  else ⟨.html,tag⟩

def propertiesOf (n : Name) (attributes : List Attribute) : List Property :=
  if n.space = .html then attributes.map plainProperty else attributes.map (foreignProperty n.space)

-- Elements that stand in foreign ones.
def foreignManner (p : Place) (tag : Tag) : Option Manner :=
  if Builder.breaksOut tag || isOneOf tag.name ["annotation-xml"] then none
  else some (.within (p.inside (p.nameOf tag.name)) false)

-- The elements that are read by the rules of the head wherever they stand.
def headManner (p : Place) (tag : Tag) : Option Manner :=
  if isOneOf tag.name ["base","basefont","bgsound","link","meta"] then some .leaf
  else if isOneOf tag.name ["title"] then some (.raw .referred false)
  else if isOneOf tag.name ["noframes","style","noscript"] then some (.raw .plain false)
  else if isOneOf tag.name ["script"] then some (.raw .script false)
  else if isOneOf tag.name ["template"] then
    if tag.attributes.any (·.name == ("shadowrootmode" : Text)) then none else some (p.markedHtml tag)
  else none

def barring (condition : Bool) (m : Manner) : Option Manner := if condition then none else some m

def flowManner (p : Place) (tag : Tag) : Option Manner :=
  match Kind.of tag.name with
  | .head => p.headManner tag
  | .block => barring p.hasParagraph (p.html tag)
  | .heading => barring (p.hasParagraph || p.currentIs (Name.isIn Name.headings)) (p.html tag)
  | .preformatted => barring p.hasParagraph (.within (p.inside ⟨.html,tag.name⟩) true)
  | .form =>
    barring ((p.hasForm && !p.inTemplate) || p.hasParagraph)
      (.within {p.inside ⟨.html,tag.name⟩ with hasForm := p.hasForm || !p.inTemplate} false)
  | .item => barring (p.hasParagraph || !p.endsNone ["li"]) (p.html tag)
  | .term => barring (p.hasParagraph || !p.endsNone ["dd","dt"]) (p.html tag)
  | .button => barring (p.reaches "button") (p.html tag)
  | .link => barring (p.names.any (Name.isHtml "a") || p.isCrowded tag) (.within (p.listed tag) false)
  | .formatting => barring (p.isCrowded tag) (.within (p.listed tag) false)
  | .unbroken => barring (p.reaches "nobr" || p.isCrowded tag) (.within (p.listed tag) false)
  | .object => some (p.markedHtml tag)
  | .table => barring p.hasParagraph (p.html tag)
  | .void | .input | .source => some .leaf
  | .rule => barring p.hasParagraph .leaf
  | .textarea => some (.raw .referred true)
  | .verbatim => barring p.hasParagraph (.raw .plain false)
  | .frame | .fallback => some (.raw .plain false)
  | .select =>
    barring (modeOf (⟨.html,tag.name⟩ :: p.names) ≠ Builder.selectMode (modeOf p.names)) (p.html tag)
  | .option => barring (p.currentIs (Name.isHtml "option")) (p.html tag)
  | .ruby => barring (!p.standsOpen []) (p.html tag)
  | .rubyText => barring (!p.standsOpen "rtc") (p.html tag)
  | .math | .svg => some (.within (p.inside (p.nameOf tag.name)) false)
  | .other => some (p.html tag)
  | .html | .body | .frameset | .plaintext | .image | .part => none

def selectManner (p : Place) (tag : Tag) : Option Manner :=
  if isOneOf tag.name ["option"] then barring (p.currentIs (Name.isHtml "option")) (p.html tag)
  else if isOneOf tag.name ["optgroup"] then barring (p.currentIs (Name.isIn ["option","optgroup"])) (p.html tag)
  else if isOneOf tag.name ["hr"] then barring (p.currentIs (Name.isIn ["option","optgroup"])) .leaf
  else if isOneOf tag.name ["script","template"] then p.headManner tag
  else none

-- What may stand in any part of a table.
def partManner (p : Place) (tag : Tag) : Option Manner :=
  if isOneOf tag.name ["style","script","template"] then p.headManner tag else none

def mannerOn (p : Place) (tag : Tag) : Ground → Option Manner
  | .flow => p.flowManner tag
  | .select => p.selectManner tag
  | .table =>
    if isOneOf tag.name ["caption"] then some (p.markedHtml tag)
    else if isOneOf tag.name ["colgroup"] || isOneOf tag.name ["tbody","tfoot","thead"] then some (p.html tag)
    else p.partManner tag
  | .rows => if isOneOf tag.name ["tr"] then some (p.html tag) else p.partManner tag
  | .cells => if isOneOf tag.name ["th","td"] then some (p.markedHtml tag) else p.partManner tag
  | .columns =>
    if isOneOf tag.name ["col"] then some .leaf
    else if isOneOf tag.name ["template"] then p.headManner tag
    else none
  | .head => p.headManner tag
  | .gap => none

-- How the element of a start tag is read here; none if it would be read elsewhere, or not at all.
def manner (p : Place) (tag : Tag) : Option Manner :=
  if p.readsForeign tag.name then p.foreignManner tag else p.ground?.bind (p.mannerOn tag)

-- Whether text is written as it is.
def isRaw (p : Place) : Bool := p.currentIs fun n => Dom.isRawText n.tag

-- Whether text other than blanks may stand here.
def takesWords (p : Place) : Bool := p.ground? = some .flow || p.ground? = some .select

def takesText (p : Place) (value : Text) : Bool :=
  !value.isEmpty && Scan.hasNoNull value && (p.takesWords || (p.ground?.isSome && value.all isAsciiBlank)) &&
    (!p.isRaw || value.all fun c => c ≠ '<' && c ≠ '&')

def takesComment (p : Place) (value : Text) : Bool := Scan.isComment value && p.ground?.isSome

end Place

namespace Figure

-- Text that the printer writes below an element of this tag, and that is read there as no markup.
def isReadRaw (kind : RawKind) (tag value : Text) : Bool :=
  match kind with
  | .referred => !Dom.isRawText tag && Scan.hasNoNull value
  | .plain => Dom.isRawText tag && Scan.rawText tag (value ++ Dom.closeTag tag) == (value,Dom.closeTag tag)
  | .script =>
    tag == ("script" : Text) && Scan.scriptText .outside 0 (value ++ Dom.closeTag tag) == (value,Dom.closeTag tag)

def beginsLine : Figure → Bool
  | .text ('\n' :: _) => true
  | _ => false

def startsLine : List Figure → Bool
  | t :: _ => beginsLine t
  | [] => false

def startsText : List Figure → Bool
  | t :: _ => t.isText
  | [] => false

-- An element of the given tag and attributes that is read as the one it is at its place.
def isReadAs (p : Place) (tag : Text) (attributes : List StyleTrim.Attribute) : Bool :=
  Scan.isTagName tag && attributes.all Scan.isAttribute && Scan.areApart attributes &&
    (p.nameOf (lower tag)).tag == tag &&
    (Place.propertiesOf (p.nameOf (lower tag)) (attributes.map Scan.readAttribute)).map Dom.attributeOf == attributes

mutual
-- A node that is read again where it stands.
def fits (p : Place) : Figure → Bool
  | .document _ | .doctype _ => false
  | .text value => p.takesText value
  | .comment value => p.takesComment value
  | .element tag attributes children =>
    isReadAs p tag attributes &&
    match p.manner (Scan.readTag tag attributes) with
    | none => false
    | some .leaf => Dom.isVoid tag && children.isEmpty
    | some (.raw kind skips) => !Dom.isVoid tag && (!skips || !startsLine children) &&
      match children with
      | [] => isReadRaw kind tag []
      | [.text value] => !value.isEmpty && isReadRaw kind tag value
      | _ => false
    | some (.within inner skips) => !Dom.isVoid tag && (!skips || !startsLine children) && allFit inner children
def allFit (p : Place) : List Figure → Bool
  | [] => true
  | t :: more => fits p t && !(t.isText && startsText more) && allFit p more
end

end Figure
end StyleTrim.Html
