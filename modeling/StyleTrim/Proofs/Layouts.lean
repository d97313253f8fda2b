import StyleTrim.Html.Tree
import StyleTrim.Proofs.Rereading
namespace StyleTrim.Html
open Text

-- Whole documents that are read again.

-- A document with its parts in their order, and the comments around them.
structure Layout where
  before : List Text
  doctype : Option Text
  behind : List Text
  attributes : List StyleTrim.Attribute
  preface : List Text
  headAttributes : List StyleTrim.Attribute
  head : List Figure
  between : List Figure
  bodyAttributes : List StyleTrim.Attribute
  body : List Figure
  postscript : List Text
  after : List Text

namespace Layout

def remarks (values : List Text) : List Figure := values.map .comment

def contents (l : Layout) : List Figure :=
  remarks l.preface ++ .element "head" l.headAttributes l.head :: (l.between ++
    .element "body" l.bodyAttributes l.body :: remarks l.postscript)

def lead (l : Layout) : List Figure := remarks l.before ++ (l.doctype.toList.map .doctype ++ remarks l.behind)

def figures (l : Layout) : List Figure := l.lead ++ .element "html" l.attributes l.contents :: remarks l.after

-- The places of what stands in the three elements that every document has.
def top : Place := ⟨[],[],false⟩
def inRoot : Place := ⟨[⟨.html,"html"⟩],[],false⟩
def inHead : Place := ⟨[⟨.html,"head"⟩,⟨.html,"html"⟩],[],false⟩
def inBody : Place := ⟨[⟨.html,"body"⟩,⟨.html,"html"⟩],[],false⟩

-- Whether what stands before the root, and in it, is read again there.
def fitsLead (l : Layout) : Bool :=
  l.before.all Scan.isComment && l.doctype.all Scan.isDoctype && l.behind.all Scan.isComment

def fitsContents (l : Layout) : Bool :=
  l.preface.all Scan.isComment &&
  Figure.isReadAs inRoot "head" l.headAttributes && Figure.allFit inHead l.head && Figure.allFit inRoot l.between &&
  Figure.isReadAs inRoot "body" l.bodyAttributes && Figure.allFit inBody l.body && l.postscript.all Scan.isComment

-- Characters that a source does not keep wherever they stand.
def isKept (c : Char) : Bool := c ≠ '\r' && c ≠ Delivery.byteOrderMark

-- A document that is written so that the same document is read.
def isLegible (l : Layout) : Bool :=
  l.fitsLead && Figure.isReadAs top "html" l.attributes && l.fitsContents && l.after.all Scan.isComment &&
    (Figure.markupAll false l.figures).all isKept

end Layout

namespace Builder
variable {b b' b₀ b₁ b₂ : Builder} {p q : Place} {host : NodeId} {values : List Text} {rest : Text} {seams : List Nat}
  {cells cells' : Array Cell} {ts : List Figure} {t : Token} {conventions : Conventions}

-- A comment goes to the end of the children of a node, and so do those behind it.
def Remarks (b : Builder) (host : NodeId) : Prop := ∀ cells ts, Sprouts b.cells cells host ts → ∀ value, ∃ cells',
  ({b with cells := cells} : Builder).feed (.comment value) = ({b with cells := cells'},.done) ∧
    Planted cells cells' host cells.size (.comment value)

theorem run_remarks (remarks : Remarks b host) (grown : Sprouts b.cells cells host ts) (sound : values.all Scan.isComment = true)
    (noMark : Delivery.byteOrderMark ∉ Figure.markupAll false (Layout.remarks values) ++ rest) :
    ∃ cells', run seams {b with cells := cells} (Figure.markupAll false (Layout.remarks values) ++ rest) =
      run seams {b with cells := cells'} rest ∧ Sprouts b.cells cells' host (ts ++ Layout.remarks values) := by
  induction values generalizing cells ts with
  | nil => exact ⟨cells,rfl,by rwa [Layout.remarks,List.map_nil,List.append_nil]⟩
  | cons value values ih =>
    rw [List.all_cons,Bool.and_eq_true] at sound
    have written : Figure.markupAll false (Layout.remarks (value :: values)) ++ rest =
        "<!--" ++ value ++ "-->" ++ (Figure.markupAll false (Layout.remarks values) ++ rest) := List.append_assoc _ _ _
    rw [written] at noMark ⊢
    obtain ⟨cells₁,fed,planted⟩ := remarks cells ts grown value
    have after := notMem_of_append noMark
    obtain ⟨cells₂,goesOn,grown'⟩ := ih (grown.trans (planted.sprouts (.comment planted.fresh planted.new))) sound.2 after
    refine ⟨cells₂,(run_comment sound.1 fed after).trans goesOn,?_⟩
    rwa [List.append_assoc] at grown'

-- Nothing is read as foreign where no foreign element is innermost.
theorem plain_top (html : ∀ id ∈ b.opened.head?, (b.name id).space = .html) (t : Token) : b.isForeign t = false := by
  unfold isForeign
  rw [current?]
  cases opened : b.opened.head? with
  | none => rfl
  | some id =>
    have space := html id opened
    simp [space]

theorem commentIn_planted {cell : Cell} (found : b.cells[host]? = some cell) (value : Text) :
    ∃ cells, b.commentIn host value = {b with cells := cells} ∧ Planted b.cells cells host b.cells.size (.comment value) :=
  addTo_planted found (.comment value)

-- Comments that have a place of their own, whatever is open.
theorem remarks_in (skips : b.skipLineFeed = false) (html : ∀ id ∈ b.opened.head?, id < b.cells.size ∧ (b.name id).space = .html)
    (ruled : ∀ cells value, ({b with cells := cells} : Builder).rules (.comment value) b.mode =
      (({b with cells := cells} : Builder).commentIn host value,.done)) : Remarks b host := by
  intro cells ts grown value
  obtain ⟨cell,ids,_,found,_⟩ := grown.host
  obtain ⟨cells',inserted,planted⟩ := commentIn_planted (b := {b with cells := cells}) found value
  have plain : ({b with cells := cells} : Builder).isForeign (.comment value) = false := by
    refine plain_top (fun id first => ?_) _
    obtain ⟨old,space⟩ := html id first
    rw [keeps_name (b := b) grown.keeps old]
    exact space
  have yields : Yields 1 (.comment value) {b with cells := cells} ({b with cells := cells'},.done) :=
    yields_done plain rfl ((ruled cells value).trans (congrArg (·,Next.done) inserted))
  exact ⟨cells',(Poised.ready {b with cells := cells}).feed skips rfl (yields.more (by decide)),planted⟩

-- A state before the root, in which there are only comments and a document type.
def early (conventions : Conventions) (cells : Array Cell) (mode : Mode) (legacy : Bool) : Builder :=
  {start conventions with cells := cells, mode := mode, legacy := legacy}

variable {mode : Mode} {legacy : Bool}

theorem early_remarks (cells : Array Cell) (early_ : mode = .initial ∨ mode = .beforeHtml) : Remarks (early conventions cells mode legacy) root := by
  refine remarks_in rfl nofun fun cells value => ?_
  rcases early_ with rfl | rfl <;> rfl

-- A document may go without a type.
theorem run_doctype {type : Option Text} (sound : type.all Scan.isDoctype = true) (found : ∃ cell, cells[root]? = some cell)
    (noMark : Delivery.byteOrderMark ∉ Figure.markupAll false (type.toList.map .doctype) ++ rest) :
    ∃ cells' mode legacy', run seams (early conventions cells .initial legacy)
        (Figure.markupAll false (type.toList.map .doctype) ++ rest) = run seams (early conventions cells' mode legacy') rest ∧
      (mode = .initial ∨ mode = .beforeHtml) ∧ Sprouts cells cells' root (type.toList.map .doctype) := by
  obtain ⟨cell,found⟩ := found
  cases type with
  | none => exact ⟨cells,.initial,legacy,rfl,.inl rfl,.refl found⟩
  | some name =>
    have read := Scan.tokens_doctype (early conventions cells .initial legacy).inForeign rest sound
    have written : Figure.markupAll false ((some name).toList.map .doctype) ++ rest =
        '<' :: '!' :: ("DOCTYPE " ++ name ++ '>' :: rest) := by
      simp [Figure.markupAll_cons,Figure.markupAll_nil,Figure.markup_doctype]
    obtain ⟨cells',attached,planted⟩ := addTo_planted (b := early conventions cells .initial legacy) found (.doctype name)
    have fed : (early conventions cells .initial legacy).feed (.doctype ⟨some name,none,none,false⟩) =
        (early conventions cells' .beforeHtml (isLegacy ⟨some name,none,none,false⟩),.done) :=
      congrArg (fun b : Builder => ({b with legacy := isLegacy ⟨some name,none,none,false⟩, mode := .beforeHtml},Next.done)) attached
    refine ⟨cells',.beforeHtml,isLegacy ⟨some name,none,none,false⟩,?_,.inr rfl,
      planted.sprouts (.doctype planted.fresh planted.new)⟩
    rw [written]
    exact run_token read nofun fed (notMem_of_append noMark)

theorem sprouts_found (grown : Sprouts cells cells' host ts) : ∃ cell, cells'[host]? = some cell := by
  obtain ⟨cell,ids,_,after,_⟩ := grown.host
  exact ⟨_,after⟩

theorem run_lead {l : Layout} (fits : l.fitsLead = true) (noMark : Delivery.byteOrderMark ∉ Figure.markupAll false l.lead ++ rest) :
    ∃ cells mode legacy, run seams (start conventions) (Figure.markupAll false l.lead ++ rest) =
        run seams (early conventions cells mode legacy) rest ∧ (mode = .initial ∨ mode = .beforeHtml) ∧
      Sprouts (start conventions).cells cells root l.lead := by
  simp only [Layout.fitsLead,Bool.and_eq_true] at fits
  obtain ⟨⟨before,doctype⟩,behind⟩ := fits
  rw [Layout.lead,Figure.markupAll_append,Figure.markupAll_append,List.append_assoc,List.append_assoc] at noMark ⊢
  obtain ⟨cells₁,first,grown₁⟩ := run_remarks
    (early_remarks (start conventions).cells (.inl rfl)) (.refl rfl) before noMark
  obtain ⟨cells₂,mode,legacy,second,early_,grown₂⟩ := run_doctype
    doctype (sprouts_found grown₁) (notMem_of_append noMark)
  obtain ⟨cell,found⟩ := sprouts_found grown₂
  obtain ⟨cells₃,third,grown₃⟩ := run_remarks
    (early_remarks cells₂ early_) (.refl found) behind
    (notMem_of_append (notMem_of_append noMark))
  exact ⟨cells₃,mode,legacy,first.trans (second.trans third),early_,grown₁.trans (grown₂.trans grown₃)⟩

-- A state with the root open and nothing else.
def rooted (conventions : Conventions) (cells : Array Cell) (legacy : Bool) (host : NodeId) : Builder :=
  {early conventions cells .beforeHead legacy with opened := [host]}

variable {attributes : List StyleTrim.Attribute}

-- The elements around all others are written with their tags as they are.
theorem frame_tags : ∀ tag ∈ ["html","head","body"], lower tag = (tag : Text) ∧ Dom.isVoid tag = false ∧ Dom.isRawText tag = false ∧
    Scan.isTagName tag = true ∧ Layout.top.nameOf (lower tag) = ⟨.html,tag⟩ ∧ Layout.inRoot.nameOf (lower tag) = htmlName tag := by
  decide +kernel

theorem readTag_name (name : Text) : (Scan.readTag name attributes).name = lower name := rfl

theorem early_root (found : ∃ cell, cells[root]? = some cell) (legacy : Bool) :
    ∃ cells', (early conventions cells .beforeHtml legacy).rules (.startTag (Scan.readTag "html" attributes)) .beforeHtml =
        (rooted conventions cells' legacy cells.size,.done) ∧
      Planted cells cells' root cells.size (.element ⟨.html,"html"⟩
        (Place.propertiesOf ⟨.html,"html"⟩ (Scan.readTag "html" attributes).attributes) none) := by
  obtain ⟨cell,found⟩ := found
  obtain ⟨cells',attached,planted⟩ := addTo_planted (b := early conventions cells .beforeHtml legacy) found
    (.element ⟨.html,"html"⟩ (Place.propertiesOf ⟨.html,"html"⟩ (Scan.readTag "html" attributes).attributes) none)
  refine ⟨cells',?_,planted⟩
  have created : (early conventions cells .beforeHtml legacy).createRoot (Scan.readTag "html" attributes).attributes =
      {early conventions cells' .beforeHtml legacy with opened := [cells.size]} :=
    congrArg (fun b : Builder => b.push cells.size) attached
  have lowered : lower "html" = ("html" : Text) := (frame_tags "html" (by simp)).1
  have word : isOneOf (lower "html") ["html"] = true := by
    rw [lowered]
    simp [isOneOf,ofStrings]
  simp only [rules,beforeHtml,readTag_name,word,if_true,created]
  rfl

theorem run_htmlStart (early_ : mode = .initial ∨ mode = .beforeHtml) (found : ∃ cell, cells[root]? = some cell)
    (readAs : ReadAs Layout.top "html" attributes) :
    ∃ cells' legacy', run seams (early conventions cells mode legacy) (Dom.openTag "html" attributes ++ rest) =
        run seams (rooted conventions cells' legacy' cells.size) rest ∧
      Planted cells cells' root cells.size (.element ⟨.html,"html"⟩
        (Place.propertiesOf ⟨.html,"html"⟩ (Scan.readTag "html" attributes).attributes) none) := by
  have plain : ∀ mode legacy t, (early conventions cells mode legacy).isForeign t = false := fun mode legacy t =>
    plain_top (fun id first => by cases first) t
  rcases early_ with rfl | rfl
  · obtain ⟨cells',ruled,planted⟩ := early_root found true
    have next : Yields 1 (.startTag (Scan.readTag "html" attributes)) (early conventions cells .beforeHtml true)
        (rooted conventions cells' true cells.size,.done) := yields_done (plain _ _ _) rfl ruled
    have yields : Yields 2 (.startTag (Scan.readTag "html" attributes)) (early conventions cells .initial legacy)
        (rooted conventions cells' true cells.size,.done) :=
      yields_again (plain _ _ _) rfl rfl next
    refine ⟨cells',true,run_open readAs.named readAs.sound readAs.apart ?_,planted⟩
    exact (Poised.ready _).feed rfl rfl (yields.more (by decide))
  · obtain ⟨cells',ruled,planted⟩ := early_root found legacy
    have yields : Yields 1 (.startTag (Scan.readTag "html" attributes)) (early conventions cells .beforeHtml legacy)
        (rooted conventions cells' legacy cells.size,.done) := yields_done (plain _ _ _) rfl ruled
    refine ⟨cells',legacy,run_open readAs.named readAs.sound readAs.apart ?_,planted⟩
    exact (Poised.ready _).feed rfl rfl (yields.more (by decide))

-- The root is innermost.
structure Roots (b : Builder) (host : NodeId) : Prop where
  placed : Placed b
  opened : b.opened = [host]
  named : b.name host = ⟨.html,"html"⟩

theorem Roots.site (roots : Roots b host) : b.site = host := by
  rw [site_cons roots.opened,isHtml,roots.named]
  rfl

theorem Roots.grow (roots : Roots b host) (grown : Sprouts b.cells cells host ts) : Roots {b with cells := cells} host := by
  rw [← roots.site] at grown
  refine ⟨(roots.placed.grow grown).1,roots.opened,?_⟩
  rw [keeps_name (b := b) grown.keeps (roots.placed.old host (by simp [roots.opened]))]
  exact roots.named

theorem roots_of {properties : List Property} (planted : Planted cells cells' root cells.size (.element ⟨.html,"html"⟩ properties none)) :
    Roots (rooted conventions cells' legacy cells.size) cells.size := by
  have name : (rooted conventions cells' legacy cells.size).name cells.size = ⟨.html,"html"⟩ := by
    rw [name_eq,show (rooted conventions cells' legacy cells.size).cells[cells.size]? = _ from planted.new]
    rfl
  have site : (rooted conventions cells' legacy cells.size).site = cells.size := by
    rw [site_cons rfl,isHtml,name]
    rfl
  refine ⟨⟨rfl,List.cons_ne_nil _ _,fun id inside => ?_,_,site ▸ planted.new⟩,rfl,name⟩
  cases List.mem_singleton.mp inside
  rw [show (rooted conventions cells' legacy cells.size).cells.size = cells.size + 1 from planted.size]
  exact Nat.lt_succ_self _

theorem insertComment_eq (placed : Placed b) (value : Text) : b.insertComment value = b.commentIn b.site value := by
  obtain ⟨placed',site⟩ := placed.add (.comment value)
  rw [insertComment,commentIn]
  simp only [placed'.spot,site,putNode]

theorem rooted_remarks (roots : Roots (rooted conventions cells legacy host) host) : Remarks (rooted conventions cells legacy host) host := by
  intro cells' ts grown value
  have roots' : Roots (rooted conventions cells' legacy host) host := roots.grow grown
  obtain ⟨cell,ids,_,found,_⟩ := grown.host
  obtain ⟨cells'',inserted,planted⟩ := commentIn_planted (b := rooted conventions cells' legacy host) found value
  have plain : (rooted conventions cells' legacy host).isForeign (.comment value) = false := by
    refine plain_top (fun id first => ?_) _
    cases Option.some.inj first
    exact congrArg Name.space roots'.named
  have ruled : (rooted conventions cells' legacy host).rules (.comment value) .beforeHead =
      (rooted conventions cells'' legacy host,.done) := by
    have comment : (rooted conventions cells' legacy host).insertComment value = rooted conventions cells'' legacy host := by
      rw [insertComment_eq roots'.placed,roots'.site]
      exact inserted
    exact congrArg (·,Next.done) comment
  exact ⟨cells'',(Poised.ready _).feed rfl rfl ((yields_done plain rfl ruled).more (by decide)),planted⟩

theorem figureOf_shown {n : Name} {name : Text} (readAs : ReadAs p name attributes) (same : p.nameOf (lower name) = n) (ts : List Figure) :
    Figure.element n.tag ((Place.propertiesOf n (Scan.readTag name attributes).attributes).map Dom.attributeOf) ts =
      .element name attributes ts := by
  rw [← same]
  exact readAs.shown ts

-- The state inside of a new head.
def headed (b : Builder) (cells : Array Cell) : Builder :=
  {b with cells := cells, opened := b.cells.size :: b.opened, head := some b.cells.size, mode := .inHead}

theorem headed_stands (roots : Roots (rooted conventions cells legacy host) host)
    (planted : Planted cells cells' host cells.size
      (.element ⟨.html,"head"⟩ (Place.propertiesOf ⟨.html,"head"⟩ (Scan.readTag "head" attributes).attributes) none)) :
    Stands Layout.inHead ((rooted conventions cells legacy host).headed cells') ∧
      ((rooted conventions cells legacy host).headed cells').site = cells.size := by
  have kept : Keeps (rooted conventions cells legacy host).cells ((rooted conventions cells legacy host).headed cells').cells := planted.keeps
  obtain ⟨placed,site,name⟩ := roots.placed.under ((rooted conventions cells legacy host).headed cells') rfl
    (roots.site.symm ▸ planted) rfl rfl
  have old : host < cells.size := roots.placed.old host (by simp [roots.opened])
  have hostName : ((rooted conventions cells legacy host).headed cells').name host = ⟨.html,"html"⟩ :=
    (keeps_name kept old).trans roots.named
  refine ⟨⟨placed,?_,?_,rfl,nofun,rfl,rfl,nofun,nofun,rfl,rfl,rfl,?_⟩,site⟩
  · exact congr (congrArg List.cons name) (congrArg ([·]) hostName)
  · exact List.nodup_cons.mpr ⟨fun inside => absurd (List.mem_singleton.mp inside) (Nat.ne_of_gt old),List.pairwise_singleton _ host⟩
  · intro n inside
    simp only [Layout.inHead,List.mem_cons,List.not_mem_nil,or_false] at inside
    rcases inside with rfl | rfl <;> exact ordinary_html rfl

-- Behind the end of the head the root is innermost again.
theorem Stands.behindHead {id : NodeId} (stands : Stands Layout.inHead b) (opened : b.opened = [id,host]) :
    Stands Layout.inRoot {b with opened := [host], mode := .afterHead} ∧
      Builder.site {b with opened := [host], mode := .afterHead} = host := by
  have names := stands.names
  rw [opened] at names
  have hostName : b.name host = ⟨.html,"html"⟩ := (List.cons.inj (List.cons.inj names).2).1
  have old : host < b.cells.size := stands.placed.old host (by simp [opened])
  have unlisted : b.formatting = [] := List.map_eq_nil_iff.mp stands.entries
  have site : Builder.site {b with opened := [host], mode := .afterHead} = host := by
    rw [site_cons rfl,isHtml,show Builder.name {b with opened := [host], mode := .afterHead} host = _ from hostName]
    rfl
  have placed : Placed {b with opened := [host], mode := .afterHead} := by
    refine ⟨stands.placed.settled,List.cons_ne_nil _ _,fun id inside => ?_,b.cells[host],?_⟩
    · cases List.mem_singleton.mp inside
      exact old
    · rw [site]
      exact Array.getElem?_eq_getElem old
  refine ⟨⟨placed,congrArg ([·]) hostName,List.pairwise_singleton _ host,congrArg (List.map tagOf?) unlisted,?_,stands.form,?_,?_,
    stands.templates,stands.pending,stands.skips,stands.headed,?_⟩,site⟩
  · intro f listed
    rw [show ({b with opened := [host], mode := .afterHead} : Builder).formatting = [] from unlisted] at listed
    cases listed
  · show Mode.afterHead = if b.head.isSome then .afterHead else .beforeHead
    rw [stands.headed]
    rfl
  · exact fun unsettled => by cases unsettled
  · intro n inside
    cases List.mem_singleton.mp inside
    exact ordinary_html rfl

theorem run_head {head : List Figure} (roots : Roots (rooted conventions cells legacy host) host)
    (readAs : ReadAs Layout.inRoot "head" attributes) (fit : Figure.allFit Layout.inHead head = true)
    (noMark : Delivery.byteOrderMark ∉ (Figure.element "head" attributes head).markup false ++ rest) :
    ∃ b', run seams (rooted conventions cells legacy host) ((Figure.element "head" attributes head).markup false ++ rest) =
        run seams b' rest ∧ Stands Layout.inRoot b' ∧ b'.opened = [host] ∧ b'.site = host ∧
      Sprouts cells b'.cells host [.element "head" attributes head] := by
  obtain ⟨lowered,solid,_,named,_,name⟩ := frame_tags "head" (by simp)
  have escaped : Dom.isRawText "head" = Layout.inHead.isRaw := rfl
  have after := notMem_of_append noMark
  rw [Figure.markup_element,solid,escaped,if_neg Bool.false_ne_true,List.append_assoc,List.append_assoc] at noMark ⊢
  have plain : (rooted conventions cells legacy host).isForeign (.startTag (Scan.readTag "head" attributes)) = false := by
    refine plain_top (fun id first => ?_) _
    cases Option.some.inj first
    exact congrArg Name.space roots.named
  obtain ⟨cells',inserted,planted⟩ := insertFor_planted (Scan.readTag "head" attributes) roots.placed
    (by rw [readTag_name,lowered]; rfl)
  rw [readTag_name,lowered,roots.site] at planted
  have ruled : (rooted conventions cells legacy host).rules (.startTag (Scan.readTag "head" attributes)) .beforeHead =
      ((rooted conventions cells legacy host).headed cells',.done) := by
    have root : isOneOf "head" ["html"] = false := by simp [isOneOf,ofStrings]
    have word : isOneOf "head" ["head"] = true := by simp [isOneOf,ofStrings]
    simp only [rules,beforeHead,readTag_name,lowered,root,word,Bool.false_eq_true,if_false,if_true,inserted]
    rfl
  have fed : (rooted conventions cells legacy host).feed (.startTag (Scan.readTag "head" attributes)) =
      ((rooted conventions cells legacy host).headed cells',.done) :=
    (Poised.ready _).feed rfl rfl ((yields_done plain rfl ruled).more (by decide))
  obtain ⟨stands,site⟩ := headed_stands roots planted
  have unjoined : Unjoined ((rooted conventions cells legacy host).headed cells') := by
    intro cell found id first
    rw [site,show ((rooted conventions cells legacy host).headed cells').cells[cells.size]? = _ from planted.new] at found
    cases found
    cases first
  obtain ⟨b',b₁,goesOn,poised,read⟩ := run_nodes seams Layout.inHead (Dom.closeTag "head" ++ rest) head _ _ fit stands
    (.ready unjoined head) (notMem_of_append noMark)
  have opened : b₁.opened = [cells.size,host] := read.opened
  have ends : Yields 1 (.endTag (lower "head")) b₁ ({b₁ with opened := [host], mode := .afterHead},.done) := by
    have plain : b₁.isForeign (.endTag (lower "head")) = false := by
      rw [read.stands.foreignEnd]
      decide
    have popped : b₁.pop = {b₁ with opened := [host]} := by rw [pop,opened]; rfl
    have mode : b₁.mode = .inHead := read.stands.mode
    refine yields_done plain mode ?_
    have word : isOneOf "head" ["head"] = true := by simp [isOneOf,ofStrings]
    simp only [lowered,rules,inHead,word,if_true,popped,enter,done]
  have closes := run_close seams named
    (poised.feed read.stands.skips rfl (ends.more (by decide))) after
  have shown := planted.around (site ▸ read.grown)
  rw [figureOf_shown readAs name] at shown
  obtain ⟨outside,back⟩ := read.stands.behindHead opened
  exact ⟨_,(run_open readAs.named readAs.sound readAs.apart fed).trans (goesOn.trans closes),outside,rfl,back,shown⟩

end Builder
end StyleTrim.Html
