import StyleTrim.Html.Builder
import StyleTrim.Html.Delivery
namespace StyleTrim.Html
open Text

-- Where each token of a document goes. Every document has a tree, however broken it is.

inductive RawKind where
  | referred
  | plain
  | script
deriving DecidableEq, Repr

-- What follows the rules for one token: the next token, the same token in a mode, or text that
-- is not read as markup, up to an end tag or to the end of the document.
inductive Next where
  | done
  | again (mode : Mode)
  | raw (kind : RawKind)
  | plaintext
deriving DecidableEq, Repr

namespace Builder

abbrev Ruled := Builder × Next

def done (b : Builder) : Ruled := (b,.done)
def again (b : Builder) (mode : Mode) : Ruled := (b,.again mode)

def insertRaw (b : Builder) (tag : Tag) (kind : RawKind) : Ruled :=
  ({b.insert tag with returnMode := b.mode,mode := .text},.raw kind)

def createRoot (b : Builder) (attributes : List Attribute) : Builder :=
  let (b,id) := b.create (htmlName "html") (attributes.map plainProperty)
  (b.attach root id).push id

def isBlankChar : Token → Bool
  | .character c => isAsciiBlank c
  | _ => false

-- The tags whose rules are those of the head wherever they stand.
def headTags : List String :=
  ["base","basefont","bgsound","link","meta","noframes","script","style","template","title"]

def legacyStarts : List Text :=
  ofStrings
  ["-//advasoft ltd//dtd html 3.0 aswedit + extensions//","-//as//dtd html 3.0 aswedit + extensions//",
   "-//ietf//dtd html 2.0 level 1//","-//ietf//dtd html 2.0 level 2//",
   "-//ietf//dtd html 2.0 strict level 1//","-//ietf//dtd html 2.0 strict level 2//",
   "-//ietf//dtd html 2.0 strict//","-//ietf//dtd html 2.0//","-//ietf//dtd html 2.1e//",
   "-//ietf//dtd html 3.0//","-//ietf//dtd html 3.2 final//","-//ietf//dtd html 3.2//",
   "-//ietf//dtd html 3//","-//ietf//dtd html level 0//","-//ietf//dtd html level 1//",
   "-//ietf//dtd html level 2//","-//ietf//dtd html level 3//","-//ietf//dtd html strict level 0//",
   "-//ietf//dtd html strict level 1//","-//ietf//dtd html strict level 2//",
   "-//ietf//dtd html strict level 3//","-//ietf//dtd html strict//","-//ietf//dtd html//",
   "-//metrius//dtd metrius presentational//","-//microsoft//dtd internet explorer 2.0 html strict//",
   "-//microsoft//dtd internet explorer 2.0 html//","-//microsoft//dtd internet explorer 2.0 tables//",
   "-//microsoft//dtd internet explorer 3.0 html strict//","-//microsoft//dtd internet explorer 3.0 html//",
   "-//microsoft//dtd internet explorer 3.0 tables//","-//netscape comm. corp.//dtd html//",
   "-//netscape comm. corp.//dtd strict html//","-//o'reilly and associates//dtd html 2.0//",
   "-//o'reilly and associates//dtd html extended 1.0//",
   "-//o'reilly and associates//dtd html extended relaxed 1.0//",
   "-//softquad software//dtd hotmetal pro 6.0::19990601::extensions to html 4.0//",
   "-//softquad//dtd hotmetal pro 4.0::19971010::extensions to html 4.0//",
   "-//spyglass//dtd html 2.0 extended//","-//sq//dtd html 2.0 hotmetal + extensions//",
   "-//sun microsystems corp.//dtd hotjava html//","-//sun microsystems corp.//dtd hotjava strict html//",
   "-//w3c//dtd html 3 1995-03-24//","-//w3c//dtd html 3.2 draft//","-//w3c//dtd html 3.2 final//",
   "-//w3c//dtd html 3.2//","-//w3c//dtd html 3.2s draft//","-//w3c//dtd html 4.0 frameset//",
   "-//w3c//dtd html 4.0 transitional//","-//w3c//dtd html experimental 19960712//",
   "-//w3c//dtd html experimental 970421//","-//w3c//dtd w3 html//","-//w3o//dtd w3 html 3.0//",
   "-//webtechs//dtd mozilla html 2.0//","-//webtechs//dtd mozilla html//"]

def isLegacy (d : Doctype) : Bool :=
  let publicId := d.publicId.map lower
  let systemId := d.systemId.map lower
  d.isBroken || d.name ≠ some "html" ||
  publicId.any (isOneOf · ["-//w3o//dtd w3 html strict 3.0//en//","-/w3c/dtd html 4.0 transitional/en","html"]) ||
  systemId.any (isOneOf · ["http://www.ibm.com/data/dtd/v11/ibmxhtml1-transitional.dtd"]) ||
  publicId.any (fun p => legacyStarts.any (·.isPrefixOf p)) ||
  (systemId.isNone && publicId.any fun p =>
    (ofStrings ["-//w3c//dtd html 4.01 frameset//","-//w3c//dtd html 4.01 transitional//"]).any (·.isPrefixOf p))

def htmlAgain (b : Builder) (tag : Tag) : Ruled :=
  if b.inTemplate then b.done
  else match b.opened.getLast? with
    | some id => (b.addMissing id tag.attributes).done
    | none => b.done

def closeTemplate (b : Builder) : Builder :=
  if b.inTemplate then
    let b := (b.popThroughHtml "template").clearToMarker
    let b := {b with templateModes := b.templateModes.drop 1}
    b.enter b.resetMode
  else b

-- Whether a template here belongs to the element it lies in as its shadow.
def isShadow (b : Builder) (tag : Tag) : Bool :=
  b.conventions.attachesShadows && b.opened.length ≠ 1 &&
  tag.attributes.any fun a => a.name == ("shadowrootmode" : Text) && isOneOf a.value ["open","close"]

def headStart (b : Builder) (tag : Tag) : Ruled :=
  if isOneOf tag.name ["base","basefont","bgsound","link","meta"] then (b.insertVoid tag).done
  else if isOneOf tag.name ["title"] then b.insertRaw tag .referred
  else if isOneOf tag.name ["noframes","style","noscript"] then b.insertRaw tag .plain
  else if isOneOf tag.name ["script"] then b.insertRaw tag .script
  else if isOneOf tag.name ["template"] then
    let b := ((if b.isShadow tag then b else b.insert tag).mark.blockFrameset).enter .inTemplate
    done {b with templateModes := .inTemplate :: b.templateModes}
  else b.done

def initial (b : Builder) (t : Token) : Ruled :=
  match t with
  | .comment s => (b.commentIn root s).done
  | t => if isBlankChar t then b.done else {b with legacy := true}.again .beforeHtml

def beforeHtml (b : Builder) (t : Token) : Ruled :=
  let otherwise : Ruled := (b.createRoot []).again .beforeHead
  match t with
  | .comment s => (b.commentIn root s).done
  | .startTag tag =>
    if isOneOf tag.name ["html"] then ((b.createRoot tag.attributes).enter .beforeHead).done else otherwise
  | .endTag name => if isOneOf name ["head","body","html","br"] then otherwise else b.done
  | t => if isBlankChar t then b.done else otherwise

def beforeHead (b : Builder) (t : Token) : Ruled :=
  let otherwise : Ruled :=
    let (b,id) := b.insertOpen (htmlName "head") []
    {b with head := some id}.again .inHead
  match t with
  | .comment s => (b.insertComment s).done
  | .startTag tag =>
    if isOneOf tag.name ["html"] then b.htmlAgain tag
    else if isOneOf tag.name ["head"] then
      let (b,id) := b.insertFor tag
      ({b with head := some id}.enter .inHead).done
    else otherwise
  | .endTag name => if isOneOf name ["head","body","html","br"] then otherwise else b.done
  | t => if isBlankChar t then b.done else otherwise

def inHead (b : Builder) (t : Token) : Ruled :=
  let otherwise : Ruled := b.pop.again .afterHead
  match t with
  | .character c => if isAsciiBlank c then (b.insertChar c).done else otherwise
  | .comment s => (b.insertComment s).done
  | .startTag tag =>
    if isOneOf tag.name ["html"] then b.htmlAgain tag
    else if isOneOf tag.name ("noscript" :: headTags) then b.headStart tag
    else if isOneOf tag.name ["head"] then b.done
    else otherwise
  | .endTag name =>
    if isOneOf name ["head"] then (b.pop.enter .afterHead).done
    else if isOneOf name ["body","html","br"] then otherwise
    else if isOneOf name ["template"] then b.closeTemplate.done
    else b.done
  | _ => otherwise

def afterHead (b : Builder) (t : Token) : Ruled :=
  let otherwise : Ruled := (b.insertNamed "body").again .inBody
  match t with
  | .character c => if isAsciiBlank c then (b.insertChar c).done else otherwise
  | .comment s => (b.insertComment s).done
  | .startTag tag =>
    if isOneOf tag.name ["html"] then b.htmlAgain tag
    else if isOneOf tag.name ["body"] then ((b.insert tag).blockFrameset.enter .inBody).done
    else if isOneOf tag.name ["frameset"] then ((b.insert tag).enter .inFrameset).done
    else if isOneOf tag.name headTags then
      match b.head with
      | some head =>
        let (b,next) := (b.push head).headStart tag
        (b.close head,next)
      | none => b.headStart tag
    else if isOneOf tag.name ["head"] then b.done
    else otherwise
  | .endTag name =>
    if isOneOf name ["template"] then b.closeTemplate.done
    else if isOneOf name ["body","html","br"] then otherwise
    else b.done
  | _ => otherwise

def templateFinish (b : Builder) : Ruled :=
  if b.inTemplate then
    let b := (b.popThroughHtml "template").clearToMarker
    let b := {b with templateModes := b.templateModes.drop 1}
    b.again b.resetMode
  else b.done

def isHidden (tag : Tag) : Bool :=
  tag.attributes.any fun a => a.name == ("type" : Text) && sameIgnoringCase a.value "hidden"

def closeItem (b : Builder) (items : List String) : Builder :=
  let stops := fun id : NodeId =>
    (b.name id).isIn items || ((b.name id).isSpecial && !(b.name id).isIn ["address","div","p"])
  match b.opened.find? stops with
  | some id => if (b.name id).isIn items then b.popThroughHtml (b.name id).tag else b
  | none => b

def foreignElement (b : Builder) (space : Space) (name : Text) (tag : Tag) : Ruled :=
  let properties := tag.attributes.map (foreignProperty space)
  if tag.selfClosing then (b.insertNode ⟨space,name⟩ properties).1.done
  else (b.insertOpen ⟨space,name⟩ properties).1.done

def voidElement (b : Builder) (tag : Tag) : Builder := b.reconstruct.insertVoid tag

-- A link inside a link ends it.
def closeLink (b : Builder) : Builder :=
  let link? := b.entriesToMarker.find? fun f => f.node?.any (b.isHtml "a")
  match link?.bind (·.node?) with
  | some id => ((b.adopt "a").forget id).close id
  | none => b

def selectMode (mode : Mode) : Mode :=
  if mode = .inTable || mode = .inCaption || mode = .inTableBody || mode = .inRow || mode = .inCell then
    .inSelectInTable
  else .inSelect

def rubyText (b : Builder) (tag : Tag) (except : Text) : Ruled :=
  ((if b.inScope Name.limitsScope "ruby" then b.closeImplied except else b).insert tag).done

def bodyStart (b : Builder) (tag : Tag) : Ruled :=
  let n := tag.name
  if isOneOf n ["html"] then b.htmlAgain tag
  else if isOneOf n headTags then b.headStart tag
  else if isOneOf n ["body"] then
    match b.body? with
    | some id => if b.inTemplate then b.done else (b.blockFrameset.addMissing id tag.attributes).done
    | none => b.done
  else if isOneOf n ["frameset"] then
    match b.body? with
    | some id =>
      if b.framesetOk then
        let b := b.detach id
        (({b with opened := b.opened.drop (b.opened.length - 1)}.insert tag).enter .inFrameset).done
      else b.done
    | none => b.done
  else if isOneOf n ["address","article","aside","blockquote","center","details","dialog","dir","div","dl",
      "fieldset","figcaption","figure","footer","header","hgroup","main","menu","nav","ol","p","search",
      "section","summary","ul"] then
    (b.closeParagraph.insert tag).done
  else if isOneOf n Name.headings then
    let b := b.closeParagraph
    ((if b.currentIs (Name.isIn Name.headings) then b.pop else b).insert tag).done
  else if isOneOf n ["pre","listing"] then
    done {(b.closeParagraph.insert tag).blockFrameset with skipLineFeed := true}
  else if isOneOf n ["form"] then
    if b.form.isSome && !b.inTemplate then b.done
    else
      let (b,id) := b.closeParagraph.insertFor tag
      done (if b.inTemplate then b else {b with form := some id})
  else if isOneOf n ["li"] then ((b.blockFrameset.closeItem ["li"]).closeParagraph.insert tag).done
  else if isOneOf n ["dd","dt"] then
    ((b.blockFrameset.closeItem ["dd","dt"]).closeParagraph.insert tag).done
  else if isOneOf n ["plaintext"] then (b.closeParagraph.insert tag,.plaintext)
  else if isOneOf n ["button"] then
    let b := if b.inScope Name.limitsScope "button" then b.popThroughHtml "button" else b
    (b.reconstruct.insert tag).blockFrameset.done
  else if isOneOf n ["a"] then (b.closeLink.reconstruct.insertFormatting tag).done
  else if isOneOf n ["b","big","code","em","font","i","s","small","strike","strong","tt","u"] then
    (b.reconstruct.insertFormatting tag).done
  else if isOneOf n ["nobr"] then
    let b := b.reconstruct
    let b := if b.inScope Name.limitsScope "nobr" then (b.adopt "nobr").reconstruct else b
    (b.insertFormatting tag).done
  else if isOneOf n ["applet","marquee","object"] then
    (b.reconstruct.insert tag).mark.blockFrameset.done
  else if isOneOf n ["table"] then
    ((((if b.legacy then b else b.closeParagraph).insert tag).blockFrameset).enter .inTable).done
  else if isOneOf n ["area","br","embed","img","keygen","wbr"] then (b.voidElement tag).blockFrameset.done
  else if isOneOf n ["input"] then
    let b := b.voidElement tag
    done (if isHidden tag then b else b.blockFrameset)
  else if isOneOf n ["param","source","track"] then (b.insertVoid tag).done
  else if isOneOf n ["hr"] then (b.closeParagraph.insertVoid tag).blockFrameset.done
  else if isOneOf n ["image"] then (b.voidElement {tag with name := "img"}).blockFrameset.done
  else if isOneOf n ["textarea"] then
    {b.blockFrameset with skipLineFeed := true}.insertRaw tag .referred
  else if isOneOf n ["xmp"] then b.closeParagraph.reconstruct.blockFrameset.insertRaw tag .plain
  else if isOneOf n ["iframe"] then b.blockFrameset.insertRaw tag .plain
  else if isOneOf n ["noembed","noscript"] then b.insertRaw tag .plain
  else if isOneOf n ["select"] then
    ((b.reconstruct.insert tag).blockFrameset.enter (selectMode b.mode)).done
  else if isOneOf n ["optgroup","option"] then
    ((if b.currentIsHtml "option" then b.pop else b).reconstruct.insert tag).done
  else if isOneOf n ["rb","rtc"] then b.rubyText tag []
  else if isOneOf n ["rp","rt"] then b.rubyText tag "rtc"
  else if isOneOf n ["math"] then b.foreignElement .mathml n tag
  else if isOneOf n ["svg"] then b.foreignElement .svg n tag
  else if isOneOf n ["caption","col","colgroup","frame","head","tbody","td","tfoot","th","thead","tr"] then
    b.done
  else (b.reconstruct.insert tag).done

def bodyEnd (b : Builder) (n : Text) : Ruled :=
  if isOneOf n ["template"] then b.closeTemplate.done
  else if isOneOf n ["body"] then
    done (if b.inScope Name.limitsScope "body" then b.enter .afterBody else b)
  else if isOneOf n ["html"] then
    if b.inScope Name.limitsScope "body" then b.again .afterBody else b.done
  else if isOneOf n ["address","article","aside","blockquote","button","center","details","dialog","dir",
      "div","dl","fieldset","figcaption","figure","footer","header","hgroup","listing","main","menu","nav",
      "ol","pre","search","section","summary","ul"] then
    done (if b.inScope Name.limitsScope n then b.popThroughHtml n else b)
  else if isOneOf n ["form"] then
    if b.inTemplate then
      done (if b.inScope Name.limitsScope "form" then b.popThroughHtml "form" else b)
    else match b.form with
      | none => b.done
      | some id =>
        let b := {b with form := none}
        done (if b.reaches Name.limitsScope (· = id) b.opened then (b.closeImplied []).close id else b)
  else if isOneOf n ["p"] then
    (if b.inScope Name.limitsButtonScope "p" then b else b.insertNamed "p").closeParagraph.done
  else if isOneOf n ["li"] then
    done (if b.inScope Name.limitsListScope n then b.popThroughHtml n else b)
  else if isOneOf n ["dd","dt"] then
    done (if b.inScope Name.limitsScope n then b.popThroughHtml n else b)
  else if isOneOf n Name.headings then
    let isHeading := fun id => (b.name id).isIn Name.headings
    done (if b.reaches Name.limitsScope isHeading b.opened then b.popThrough (Name.isIn Name.headings) else b)
  else if isOneOf n ["a","b","big","code","em","font","i","nobr","s","small","strike","strong","tt","u"] then
    (b.adopt n).done
  else if isOneOf n ["applet","marquee","object"] then
    done (if b.inScope Name.limitsScope n then (b.popThroughHtml n).clearToMarker else b)
  else if isOneOf n ["br"] then (b.voidElement ⟨n,[],false⟩).blockFrameset.done
  else (b.closeOther n).done

def inBody (b : Builder) (t : Token) : Ruled :=
  match t with
  | .character c =>
    let b := b.reconstruct
    ((if isAsciiBlank c then b else b.blockFrameset).insertChar c).done
  | .comment s => (b.insertComment s).done
  | .startTag tag => b.bodyStart tag
  | .endTag name => b.bodyEnd name
  | .finish => if b.templateModes.isEmpty then b.done else b.templateFinish
  | .null | .doctype _ | .fault => b.done

def inText (b : Builder) (t : Token) : Ruled :=
  match t with
  | .character c => (b.insertChar c).done
  | .endTag _ => (b.pop.enter b.returnMode).done
  | .finish => b.pop.again b.returnMode
  | _ => b.done

-- By the rules of the body, with what does not belong in a table put in front of it.
def foster (b : Builder) (t : Token) : Ruled :=
  let (b,next) := {b with fostering := true}.inBody t
  ({b with fostering := false},next)

def tableText (b : Builder) (t : Token) : Ruled :=
  if b.currentIs Name.isTablePart then {b with returnMode := b.mode}.again .inTableText else b.foster t

def tableContext (b : Builder) : Builder := b.popTo Name.limitsTableScope

def inTable (b : Builder) (t : Token) : Ruled :=
  match t with
  | .character _ | .null => b.tableText t
  | .comment s => (b.insertComment s).done
  | .startTag tag =>
    let n := tag.name
    if isOneOf n ["caption"] then ((b.tableContext.mark.insert tag).enter .inCaption).done
    else if isOneOf n ["colgroup"] then ((b.tableContext.insert tag).enter .inColumnGroup).done
    else if isOneOf n ["col"] then (b.tableContext.insertNamed "colgroup").again .inColumnGroup
    else if isOneOf n ["tbody","tfoot","thead"] then ((b.tableContext.insert tag).enter .inTableBody).done
    else if isOneOf n ["td","th","tr"] then (b.tableContext.insertNamed "tbody").again .inTableBody
    else if isOneOf n ["table"] then
      if b.inScope Name.limitsTableScope "table" then
        let b := b.popThroughHtml "table"
        b.again b.resetMode
      else b.done
    else if isOneOf n ["style","script","template"] then b.headStart tag
    else if isOneOf n ["input"] && isHidden tag then (b.insertVoid tag).done
    else if isOneOf n ["form"] then
      if !b.inTemplate && b.form.isNone then
        let (b,id) := b.insertNode (htmlName n) (tag.attributes.map plainProperty)
        done {b with form := some id}
      else b.done
    else b.foster t
  | .endTag n =>
    if isOneOf n ["table"] then
      if b.inScope Name.limitsTableScope "table" then
        let b := b.popThroughHtml "table"
        (b.enter b.resetMode).done
      else b.done
    else if isOneOf n ["body","caption","col","colgroup","html","tbody","td","tfoot","th","thead","tr"] then
      b.done
    else if isOneOf n ["template"] then b.closeTemplate.done
    else b.foster t
  | .finish => b.inBody t
  | .doctype _ | .fault => b.done

-- Text between the parts of a table: blanks stay, and anything else moves all of it out.
def inTableText (b : Builder) (t : Token) : Ruled :=
  match t with
  | .null => b.done
  | .character c => done {b with pendingBackwards := c :: b.pendingBackwards}
  | _ =>
    let pending := b.pendingBackwards.reverse
    let b := {b with pendingBackwards := []}
    let b :=
      if pending.all isAsciiBlank then pending.foldl insertChar b
      else pending.foldl (fun b c => (b.foster (.character c)).1) b
    b.again b.returnMode

def inCaption (b : Builder) (t : Token) : Ruled :=
  let leave (b : Builder) : Builder := (b.popThroughHtml "caption").clearToMarker
  let hasCaption := b.inScope Name.limitsTableScope "caption"
  match t with
  | .startTag tag =>
    if isOneOf tag.name ["caption","col","colgroup","tbody","td","tfoot","th","thead","tr"] then
      if hasCaption then (leave b).again .inTable else b.done
    else b.inBody t
  | .endTag n =>
    if isOneOf n ["caption"] then done (if hasCaption then (leave b).enter .inTable else b)
    else if isOneOf n ["table"] then if hasCaption then (leave b).again .inTable else b.done
    else if isOneOf n ["body","col","colgroup","html","tbody","td","tfoot","th","thead","tr"] then b.done
    else b.inBody t
  | _ => b.inBody t

def inColumnGroup (b : Builder) (t : Token) : Ruled :=
  let otherwise : Ruled := if b.currentIsHtml "colgroup" then b.pop.again .inTable else b.done
  match t with
  | .character c => if isAsciiBlank c then (b.insertChar c).done else otherwise
  | .comment s => (b.insertComment s).done
  | .startTag tag =>
    if isOneOf tag.name ["html"] then b.htmlAgain tag
    else if isOneOf tag.name ["col"] then (b.insertVoid tag).done
    else if isOneOf tag.name ["template"] then b.headStart tag
    else otherwise
  | .endTag n =>
    if isOneOf n ["colgroup"] then
      done (if b.currentIsHtml "colgroup" then b.pop.enter .inTable else b)
    else if isOneOf n ["col"] then b.done
    else if isOneOf n ["template"] then b.closeTemplate.done
    else otherwise
  | .finish => b.inBody t
  | _ => otherwise

def bodyContext (b : Builder) : Builder := b.popTo Name.isTableBodyContext
def rowContext (b : Builder) : Builder := b.popTo Name.isTableRowContext

def inTableBody (b : Builder) (t : Token) : Ruled :=
  let leave : Ruled :=
    if b.reaches Name.limitsTableScope (fun id => (b.name id).isIn ["table","tbody","tfoot"]) b.opened then
      b.bodyContext.pop.again .inTable
    else b.done
  match t with
  | .startTag tag =>
    if isOneOf tag.name ["tr"] then ((b.bodyContext.insert tag).enter .inRow).done
    else if isOneOf tag.name ["th","td"] then (b.bodyContext.insertNamed "tr").again .inRow
    else if isOneOf tag.name ["caption","col","colgroup","tbody","tfoot","thead"] then leave
    else b.inTable t
  | .endTag n =>
    if isOneOf n ["tbody","tfoot","thead"] then
      done (if b.inScope Name.limitsTableScope n then b.bodyContext.pop.enter .inTable else b)
    else if isOneOf n ["table"] then leave
    else if isOneOf n ["body","caption","col","colgroup","html","td","th","tr"] then b.done
    else b.inTable t
  | _ => b.inTable t

def inRow (b : Builder) (t : Token) : Ruled :=
  let hasRow := b.inScope Name.limitsTableScope "tr"
  let leave : Ruled := if hasRow then b.rowContext.pop.again .inTableBody else b.done
  match t with
  | .startTag tag =>
    if isOneOf tag.name ["th","td"] then (((b.rowContext.insert tag).enter .inCell).mark).done
    else if isOneOf tag.name ["caption","col","colgroup","tbody","tfoot","thead","tr"] then leave
    else b.inTable t
  | .endTag n =>
    if isOneOf n ["tr"] then done (if hasRow then b.rowContext.pop.enter .inTableBody else b)
    else if isOneOf n ["table"] then leave
    else if isOneOf n ["tbody","tfoot","thead"] then
      if b.inScope Name.limitsTableScope n then leave else b.done
    else if isOneOf n ["body","caption","col","colgroup","html","td","th"] then b.done
    else b.inTable t
  | _ => b.inTable t

def closeCell (b : Builder) : Builder :=
  ((b.closeImplied []).popThrough Name.isCell).clearToMarker

def inCell (b : Builder) (t : Token) : Ruled :=
  match t with
  | .startTag tag =>
    if isOneOf tag.name ["caption","col","colgroup","tbody","td","tfoot","th","thead","tr"] then
      if b.reaches Name.limitsTableScope (fun id => (b.name id).isCell) b.opened then
        b.closeCell.again .inRow
      else b.done
    else b.inBody t
  | .endTag n =>
    if isOneOf n ["td","th"] then
      done (if b.inScope Name.limitsTableScope n then ((b.popThroughHtml n).clearToMarker).enter .inRow else b)
    else if isOneOf n ["body","caption","col","colgroup","html"] then b.done
    else if isOneOf n ["table","tbody","tfoot","thead","tr"] then
      if b.inScope Name.limitsTableScope n then b.closeCell.again .inRow else b.done
    else b.inBody t
  | _ => b.inBody t

def inSelect (b : Builder) (t : Token) : Ruled :=
  let hasSelect := b.inScope Name.limitsSelectScope "select"
  let popOption (b : Builder) : Builder := if b.currentIsHtml "option" then b.pop else b
  let popGroup (b : Builder) : Builder := if b.currentIsHtml "optgroup" then b.pop else b
  match t with
  | .character c => (b.insertChar c).done
  | .comment s => (b.insertComment s).done
  | .startTag tag =>
    let n := tag.name
    if isOneOf n ["html"] then b.htmlAgain tag
    else if isOneOf n ["option"] then ((popOption b).insert tag).done
    else if isOneOf n ["optgroup"] then ((popGroup (popOption b)).insert tag).done
    else if isOneOf n ["select"] then
      if hasSelect then
        let b := b.popThroughHtml "select"
        (b.enter b.resetMode).done
      else b.done
    else if isOneOf n ["input","keygen","textarea"] then
      if hasSelect then
        let b := b.popThroughHtml "select"
        b.again b.resetMode
      else b.done
    else if isOneOf n ["hr"] then ((popGroup (popOption b)).insertVoid tag).done
    else if isOneOf n ["script","template"] then b.headStart tag
    else b.done
  | .endTag n =>
    if isOneOf n ["optgroup"] then
      let inGroup := match b.opened with
        | id :: outer :: _ => b.isHtml "option" id && b.isHtml "optgroup" outer
        | _ => false
      (popGroup (if inGroup then b.pop else b)).done
    else if isOneOf n ["option"] then (popOption b).done
    else if isOneOf n ["select"] then
      if hasSelect then
        let b := b.popThroughHtml "select"
        (b.enter b.resetMode).done
      else b.done
    else if isOneOf n ["template"] then b.closeTemplate.done
    else b.done
  | .finish => b.inBody t
  | .null | .doctype _ | .fault => b.done

def inSelectInTable (b : Builder) (t : Token) : Ruled :=
  let parts := ["caption","table","tbody","tfoot","thead","tr","td","th"]
  let leave : Ruled :=
    let b := b.popThroughHtml "select"
    b.again b.resetMode
  match t with
  | .startTag tag => if isOneOf tag.name parts then leave else b.inSelect t
  | .endTag n =>
    if isOneOf n parts then if b.inScope Name.limitsTableScope n then leave else b.done
    else b.inSelect t
  | _ => b.inSelect t

def templateGoesOn (b : Builder) (mode : Mode) : Ruled :=
  {b with templateModes := mode :: b.templateModes.drop 1}.again mode

def inTemplateContents (b : Builder) (t : Token) : Ruled :=
  match t with
  | .character _ | .comment _ => b.inBody t
  | .startTag tag =>
    let n := tag.name
    if isOneOf n headTags then b.headStart tag
    else if isOneOf n ["caption","colgroup","tbody","tfoot","thead"] then b.templateGoesOn .inTable
    else if isOneOf n ["col"] then b.templateGoesOn .inColumnGroup
    else if isOneOf n ["tr"] then b.templateGoesOn .inTableBody
    else if isOneOf n ["td","th"] then b.templateGoesOn .inRow
    else b.templateGoesOn .inBody
  | .endTag n => if isOneOf n ["template"] then b.closeTemplate.done else b.done
  | .finish => b.templateFinish
  | .null | .doctype _ | .fault => b.done

def afterBody (b : Builder) (t : Token) : Ruled :=
  match t with
  | .comment s => (b.commentIn (b.opened.getLast?.getD root) s).done
  | .startTag tag => if isOneOf tag.name ["html"] then b.htmlAgain tag else b.again .inBody
  | .endTag n => if isOneOf n ["html"] then (b.enter .afterAfterBody).done else b.again .inBody
  | .finish => b.done
  | t => if isBlankChar t then b.inBody t else b.again .inBody

def inFrameset (b : Builder) (t : Token) : Ruled :=
  match t with
  | .character c => done (if isAsciiBlank c then b.insertChar c else b)
  | .comment s => (b.insertComment s).done
  | .startTag tag =>
    if isOneOf tag.name ["html"] then b.htmlAgain tag
    else if isOneOf tag.name ["frameset"] then (b.insert tag).done
    else if isOneOf tag.name ["frame"] then (b.insertVoid tag).done
    else if isOneOf tag.name ["noframes"] then b.headStart tag
    else b.done
  | .endTag n =>
    if isOneOf n ["frameset"] && b.opened.length ≠ 1 then
      let b := b.pop
      done (if b.currentIsHtml "frameset" then b else b.enter .afterFrameset)
    else b.done
  | _ => b.done

def afterFrameset (b : Builder) (t : Token) : Ruled :=
  match t with
  | .character c => done (if isAsciiBlank c then b.insertChar c else b)
  | .comment s => (b.insertComment s).done
  | .startTag tag =>
    if isOneOf tag.name ["html"] then b.htmlAgain tag
    else if isOneOf tag.name ["noframes"] then b.headStart tag
    else b.done
  | .endTag n => done (if isOneOf n ["html"] then b.enter .afterAfterFrameset else b)
  | _ => b.done

def afterAfterBody (b : Builder) (t : Token) : Ruled :=
  match t with
  | .comment s => (b.commentIn root s).done
  | .startTag tag => if isOneOf tag.name ["html"] then b.htmlAgain tag else b.again .inBody
  | .finish => b.done
  | t => if isBlankChar t then b.inBody t else b.again .inBody

def afterAfterFrameset (b : Builder) (t : Token) : Ruled :=
  match t with
  | .comment s => (b.commentIn root s).done
  | .startTag tag =>
    if isOneOf tag.name ["html"] then b.htmlAgain tag
    else if isOneOf tag.name ["noframes"] then b.headStart tag
    else b.done
  | t => if isBlankChar t then b.inBody t else b.done

def rules (b : Builder) (t : Token) : Mode → Ruled
  | .initial => b.initial t
  | .beforeHtml => b.beforeHtml t
  | .beforeHead => b.beforeHead t
  | .inHead => b.inHead t
  | .afterHead => b.afterHead t
  | .inBody => b.inBody t
  | .text => b.inText t
  | .inTable => b.inTable t
  | .inTableText => b.inTableText t
  | .inCaption => b.inCaption t
  | .inColumnGroup => b.inColumnGroup t
  | .inTableBody => b.inTableBody t
  | .inRow => b.inRow t
  | .inCell => b.inCell t
  | .inSelect => b.inSelect t
  | .inSelectInTable => b.inSelectInTable t
  | .inTemplate => b.inTemplateContents t
  | .afterBody => b.afterBody t
  | .inFrameset => b.inFrameset t
  | .afterFrameset => b.afterFrameset t
  | .afterAfterBody => b.afterAfterBody t
  | .afterAfterFrameset => b.afterAfterFrameset t

-- Tags that cannot stand in foreign elements and so end them.
def breaksOut (tag : Tag) : Bool :=
  isOneOf tag.name ["b","big","blockquote","body","br","center","code","dd","div","dl","dt","em","embed",
    "h1","h2","h3","h4","h5","h6","head","hr","i","img","li","listing","menu","meta","nobr","ol","p","pre",
    "ruby","s","small","span","strong","strike","sub","sup","table","tt","u","ul","var"] ||
  (isOneOf tag.name ["font"] && tag.attributes.any fun a => isOneOf a.name ["color","face","size"])

def isBoundary (n : Name) : Bool := n.space = .html || n.isMathText || n.isSvgHost

def breakOut (b : Builder) (t : Token) : Ruled := (b.popTo isBoundary).rules t b.mode

-- An end tag among foreign elements: it closes the nearest of its name, in any letter case, and
-- at the first ordinary element the rules of the mode take over. The root is never closed.
def foreignEnd (b : Builder) (tag : Text) : Bool → List NodeId → Ruled
  | _, [] | _, [_] => b.done
  | isFirst, id :: outer =>
    if !isFirst && (b.name id).space = .html then b.rules (.endTag tag) b.mode
    else if sameIgnoringCase (b.name id).tag tag then done {b with opened := outer}
    else foreignEnd b tag false outer

def foreign (b : Builder) (t : Token) : Ruled :=
  match t with
  | .null => (b.insertChar replacement).done
  | .character c => ((if isAsciiBlank c then b else b.blockFrameset).insertChar c).done
  | .comment s => (b.insertComment s).done
  | .startTag tag =>
    if breaksOut tag then b.breakOut t
    else
      let space := (b.current?.map fun id => (b.name id).space).getD .html
      b.foreignElement space (foreignTag space tag.name) tag
  | .endTag n => if isOneOf n ["br","p"] then b.breakOut t else b.foreignEnd n true b.opened
  | .doctype _ | .fault | .finish => b.done

-- Whether an annotation holds ordinary elements, by its declared encoding.
def isHtmlAnnotation (b : Builder) (id : NodeId) : Bool :=
  match b.cell? id with
  | some ⟨.element _ properties _,_,_⟩ =>
    properties.any fun p => p.name == ("encoding" : Text) &&
      (sameIgnoringCase p.value "text/html" || sameIgnoringCase p.value "application/xhtml+xml")
  | _ => false

def isForeign (b : Builder) (t : Token) : Bool :=
  match b.current? with
  | none => false
  | some id =>
    let n := b.name id
    let isText := match t with
      | .character _ | .null => true
      | _ => false
    let start? : Option Text := match t with
      | .startTag tag => some tag.name
      | _ => none
    if t = .finish || n.space = .html then false
    else if n.isMathText && (isText || start?.any fun s => !isOneOf s ["mglyph","malignmark"]) then false
    else if n.isSvgHost && (isText || start?.isSome) then false
    else if n.space = .mathml && n.tag == ("annotation-xml" : Text) && (isText || start?.isSome) then
      start? ≠ some "svg" && !(b.conventions.heedsAnnotations && b.isHtmlAnnotation id)
    else true

-- Rules apply until the token is used up. Each repetition moves on to a later part of the
-- document or closes an element, so there is always fuel enough.
def process (t : Token) : Nat → Builder → Ruled
  | 0, b => b.done
  | fuel + 1, b =>
    match (if b.isForeign t then b.foreign t else b.rules t b.mode) with
    | (b,.again mode) => process t fuel (b.enter mode)
    | ruled => ruled

def setDoctype (b : Builder) (d : Doctype) : Builder :=
  if b.mode = .initial then
    let (b,id) := b.add (.doctype (d.name.getD []))
    {(b.attach root id) with legacy := isLegacy d,mode := .beforeHtml}
  else b

-- One token. A line feed directly after some start tags is no text; a fault between them counts.
def feed (b : Builder) (t : Token) : Ruled :=
  let skip := b.skipLineFeed && t = .character '\n'
  let b := {b with skipLineFeed := false}
  if skip then b.done
  else match t with
    | .doctype d => (b.setDoctype d).done
    | .fault => b.done
    | t => process t (16 + 4 * b.opened.length) b

def feedAll (b : Builder) (ts : List Token) : Builder := ts.foldl (fun b t => (b.feed t).1) b

def inForeign (b : Builder) : Bool := b.currentIs fun n => n.space ≠ .html

def rawSplit (kind : RawKind) (tag : Text) (s : Text) : Text × Text :=
  match kind with
  | .referred => Scan.referredText tag s
  | .plain => Scan.rawText tag s
  | .script => Scan.scriptText .outside 0 s

theorem rawSplit_suffix (kind : RawKind) (tag s : Text) : (rawSplit kind tag s).2 <:+ s := by
  cases kind with
  | referred => exact Scan.referredText_suffix tag s
  | plain => exact Scan.rawText_suffix tag s
  | script => exact Scan.scriptText_suffix _ _ s

def rawTokens (kind : RawKind) (tag : Text) (s : Text) : List Token :=
  (match kind,s with
    | .referred,c :: r => Scan.faultAt c r
    | _,_ => []) ++ (rawSplit kind tag s).1.map .character

-- Whether a script ends here, which its reader could run before it goes on.
def endsScript (b : Builder) (ts : List Token) : Bool :=
  b.mode = .text && ts = [.endTag "script"]

def run (seams : List Nat) (b : Builder) (s : Text) : Builder :=
  match s with
  | [] => (b.feed .finish).1
  | c :: s =>
    match _read : Scan.tokens b.inForeign c s with
    | ([.startTag tag],rest) =>
      match b.feed (.startTag tag) with
      | (next,.raw kind) =>
        run seams (next.feedAll (rawTokens kind tag.name rest)) (rawSplit kind tag.name rest).2
      | (next,.plaintext) => ((next.feedAll (rest.map fun c => .character (Scan.meant c))).feed .finish).1
      | (next,_) => run seams next rest
    | (ts,rest) => run seams (b.feedAll ts) (if b.endsScript ts then Delivery.pastMark seams rest else rest)
termination_by s.length
decreasing_by
  all_goals
    have advanced := Scan.tokens_suffix b.inForeign c s
    rw [_read] at advanced
  · have := ((rawSplit_suffix kind tag.name rest).trans advanced).length_le
    simp; omega
  · have : rest.length ≤ s.length := advanced.length_le
    simp; omega
  · have : rest.length ≤ s.length := advanced.length_le
    have := (Delivery.pastMark_suffix seams rest).length_le
    split <;> simp <;> omega

end Builder
end StyleTrim.Html
