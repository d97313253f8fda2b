import StyleTrim.Dom
import StyleTrim.Text.Quoted
namespace StyleTrim.Dom
open Text

-- Elements that are written without children and without an end tag.
def isVoid (tag : Text) : Bool :=
  isOneOf tag ["area","base","br","col","embed","hr","img","input","link","meta","param","source","track",
    "wbr","keygen","basefont","bgsound","frame"]

-- Elements whose text is written as it is.
def isRawText (tag : Text) : Bool :=
  isOneOf tag ["style","script","xmp","iframe","noembed","noframes","plaintext","noscript"]

def escapedTextChar (c : Char) : Text :=
  if c = '&' then "&amp;"
  else if c = '\xa0' then "&nbsp;"
  else if c = '<' then "&lt;"
  else if c = '>' then "&gt;"
  else [c]

def escapedValueChar (c : Char) : Text :=
  if c = '&' then "&amp;"
  else if c = '\xa0' then "&nbsp;"
  else if c = '"' then "&quot;"
  else [c]

def attributeText (a : Attribute) : Text :=
  ' ' :: a.name ++
    (if a.value.isEmpty then [] else ("=\"" : Text) ++ a.value.flatMap escapedValueChar ++ ['"'])

def openTag (tag : Text) (attributes : List Attribute) : Text :=
  '<' :: tag ++ attributes.flatMap attributeText ++ ">"

def closeTag (tag : Text) : Text := "</" ++ tag ++ ">"

def markupFrom (d : Dom) : Nat → Bool → NodeId → Text
  | 0, _, _ => []
  | h + 1, raw, id =>
    match d.node? id with
    | none => []
    | some ⟨kind,attributes⟩ =>
      match kind with
      | .document => (d.children id).flatMap (markupFrom d h false)
      | .doctype name => "<!DOCTYPE " ++ name ++ ">"
      | .comment value => "<!--" ++ value ++ "-->"
      | .text value => if raw then value else value.flatMap escapedTextChar
      | .element tag =>
        openTag tag attributes ++
          (if isVoid tag then []
           else (d.children id).flatMap (markupFrom d h (isRawText tag)) ++ closeTag tag)

def markup (d : Dom) : Text := (d.children root).flatMap (markupFrom d d.height false)

def indent (depth : Nat) : Text := List.replicate (2 * depth) ' '

def sketchFrom (d : Dom) : Nat → Nat → NodeId → Text
  | 0, _, _ => []
  | h + 1, depth, id =>
    match d.node? id with
    | none => []
    | some ⟨kind,attributes⟩ =>
      let more := (d.children id).flatMap (sketchFrom d h (depth+1))
      let line (s : Text) : Text := indent depth ++ s ++ "\n" ++ more
      match kind with
      | .document => "#document\n" ++ more
      | .doctype name => line ("<!DOCTYPE " ++ name ++ ">")
      | .element tag => line (openTag tag attributes)
      | .text value => if value.all isBlank then [] else line (quoted value)
      | .comment value => line ("<!--" ++ value ++ "-->")

def sketch (d : Dom) : Text := d.sketchFrom d.height 0 root

def outline (d : Dom) (id : NodeId) : Text :=
  trimEnd isBlank <| (d.elementsUnder id).flatMap fun element =>
    let classes : Text := match d.attribute? element "class" with
      | some value => '.' :: join "." (classTokens value)
      | none => []
    (d.tag? element).getD [] ++ classes ++ " "

end StyleTrim.Dom
