import StyleTrim.Amp.Content
namespace StyleTrim.Amp
open Text

-- Components that show copies of what the author wrote. What is copied may hold components
-- itself, so each copy is handed to `draw`, which may give up.

abbrev Draw := Dom → NodeId → Option Dom

def headerMark : Text := "i-amphtml-accordion-header"

def markSection (d : Dom) (section_ : NodeId) (isOpen : Bool) : Dom :=
  let d := if isOpen then d.setAttribute section_ "expanded" [] else d.removeAttribute section_ "expanded"
  let parts := d.elementChildren section_
  let d := match parts[0]? with
    | some header =>
      (((d.addClass header headerMark).setAttribute header "role" "button").setAttribute header "tabindex" "0").setAttribute
        header "aria-expanded" (if isOpen then "true" else "false")
    | none => d
  match parts[1]? with
  | some content => (d.addClass content "i-amphtml-accordion-content").setAttribute content "role" "region"
  | none => d

def isMarked (d : Dom) (section_ : NodeId) : Bool :=
  (d.elementChildren section_).head?.any fun header => d.hasClass header headerMark

-- Shows a section in both states: open, and behind it a copy that is shut.
def doubleSection (draw : Draw) (d : Dom) (section_ : NodeId) : Option Dom :=
  match d.clone section_ with
  | (d,none) => some d
  | (d,some copy) =>
    let d := markSection (markSection d section_ true) copy false
    draw (d.insertAfter section_ copy) copy

def drawAccordion (draw : Draw) (d : Dom) (id : NodeId) : Option Dom :=
  let sections := d.childrenByTag id "section"
  if sections.any (isMarked d) then some d else sections.foldlM (doubleSection draw) d

def itemCopies : Nat := 4

-- A template that is named, wherever it is, else the first among the children.
def template? (d : Dom) (id : NodeId) : Option NodeId :=
  match d.attribute? id "template" with
  | some name => d.elementById? (trim name)
  | none => (d.childrenByTag id "template").head?

def hasItems (d : Dom) (id : NodeId) : Bool :=
  (d.elementChildren id).any fun child => d.attribute? child "role" = some "list"

def addItem (draw : Draw) (list : NodeId) (d : Dom) (item : NodeId) : Option Dom :=
  match d.clone item with
  | (d,none) => some d
  | (d,some copy) => draw ((d.setAttribute copy "role" "listitem").appendChild list copy) copy

def drawItems (draw : Draw) (d : Dom) (id : NodeId) : Option Dom :=
  if hasItems d id then some d
  else match template? d id with
    | none => some d
    | some template =>
      let items := d.elementChildren template
      if items.isEmpty then some d
      else do
        let (d,list) := d.createElement "div" [⟨"role","list"⟩]
        let d ← (List.replicate itemCopies items).flatten.foldlM (addItem draw list) d
        pure (d.appendChild id list)

def maskMark : Text := "i-amphtml-sidebar-mask"
def toolbarMark : Text := "i-amphtml-toolbar"

def hasMask (d : Dom) (id : NodeId) : Bool :=
  (d.parent? id).any fun parent => d.hasChildWithClass parent maskMark

def copyToolbar (draw : Draw) (d : Dom) (navigation : NodeId) : Option Dom :=
  match (d.attribute? navigation "toolbar-target").bind d.elementById? with
  | none => some d
  | some target =>
    if d.hasChildWithClass target toolbarMark then some d
    else match d.clone navigation with
      | (d,none) => some d
      | (d,some copy) => draw ((d.addClass copy toolbarMark).appendChild target copy) copy

def drawSidebar (draw : Draw) (d : Dom) (id : NodeId) : Option Dom := do
  let d ← (d.childrenByTag id "nav").foldlM (copyToolbar draw) d
  if hasMask d id then pure d
  else
    let (d,mask) := box d maskMark
    pure (d.insertAfter id mask)

end StyleTrim.Amp
