import StyleTrim.Proofs.Layouts
namespace StyleTrim.Html
open Text

-- A document that is written legibly is read again, from its first character to its last.

namespace Builder
variable {b b' b₀ b₁ : Builder} {p : Place} {host : NodeId} {values : List Text} {rest : Text} {seams : List Nat}
  {id : NodeId} {cells cells' : Array Cell} {ts : List Figure} {attributes : List StyleTrim.Attribute} {conventions : Conventions} {legacy : Bool}

theorem run_bodyStart (stands : Stands Layout.inRoot b₀) (poised : Poised b b₀)
    (readAs : ReadAs Layout.inRoot "body" attributes) :
    ∃ b₁, run seams b (Dom.openTag "body" attributes ++ rest) = run seams b₁ rest ∧
      Begun Layout.inRoot Layout.inBody b₀ b₁ (htmlName "body") (Scan.readTag "body" attributes).attributes := by
  have lowered : lower "body" = ("body" : Text) := (frame_tags "body" (by simp)).1
  have plain : b₀.isForeign (.startTag (Scan.readTag "body" attributes)) = false := by
    rw [stands.foreignStart]
    rfl
  have mode : b₀.mode = .afterHead := by
    rw [stands.mode]
    show (if b₀.head.isSome then Mode.afterHead else .beforeHead) = .afterHead
    rw [stands.headed]
    rfl
  obtain ⟨cells',inserted,planted⟩ := insertFor_planted (Scan.readTag "body" attributes) stands.placed
    (by rw [readTag_name,lowered]; rfl)
  rw [readTag_name,lowered] at planted
  have ruled : b₀.rules (.startTag (Scan.readTag "body" attributes)) .afterHead =
      ({b₀ with cells := cells', opened := b₀.cells.size :: b₀.opened, framesetOk := false, mode := .inBody},.done) := by
    have root : isOneOf "body" ["html"] = false := by simp [isOneOf,ofStrings]
    have word : isOneOf "body" ["body"] = true := by simp [isOneOf,ofStrings]
    simp only [rules,afterHead,readTag_name,lowered,root,word,Bool.false_eq_true,if_false,if_true,insert,inserted]
    rfl
  have begun : Begun Layout.inRoot Layout.inBody b₀
      {b₀ with cells := cells', opened := b₀.cells.size :: b₀.opened, framesetOk := false, mode := .inBody}
      (htmlName "body") (Scan.readTag "body" attributes).attributes := by
    refine stands.begin planted rfl rfl rfl stands.entries ?_ stands.form rfl (fun template => by cases template) (ordinary_html rfl)
    exact fun f listed id node => .inr (stands.live f listed id node)
  refine ⟨_,run_open readAs.named readAs.sound readAs.apart ?_,begun⟩
  exact poised.feed stands.skips rfl ((yields_done plain mode ruled).more (by decide))

-- The body was read, and nothing is left but comments and the end of the root.
structure Past (b : Builder) (host : NodeId) : Prop where
  skips : b.skipLineFeed = false
  outermost : b.opened.getLast? = some host
  html : ∀ id ∈ b.opened.head?, id < b.cells.size ∧ (b.name id).space = .html

theorem run_bodyEnd (begun : Begun Layout.inRoot Layout.inBody b₀ b₁ (htmlName "body") attributes')
    (opened : b₀.opened = [host]) (read : Reads Layout.inBody b₁ b₂ ts) (poised : Poised b b₂)
    (noMark : Delivery.byteOrderMark ∉ rest) :
    run seams b (Dom.closeTag "body" ++ rest) = run seams (b₂.enter .afterBody) rest ∧ Past (b₂.enter .afterBody) host := by
  obtain ⟨lowered,_,_,named,_⟩ := frame_tags "body" (by simp)
  have open_ : b₂.opened = [b₀.cells.size,host] := by rw [read.opened,begun.opened,opened]
  have plain : b₂.isForeign (.endTag (lower "body")) = false := by
    rw [read.stands.foreignEnd]
    decide
  have inside : b₂.inScope Name.limitsScope "body" = true := by
    rw [inScope_names,read.stands.names]
    decide +kernel
  have ruled : b₂.rules (.endTag (lower "body")) .inBody = (b₂.enter .afterBody,.done) := by
    have template : isOneOf "body" ["template"] = false := by simp [isOneOf,ofStrings]
    have word : isOneOf "body" ["body"] = true := by simp [isOneOf,ofStrings]
    simp only [lowered,rules,inBody,bodyEnd,template,word,inside,Bool.false_eq_true,if_false,if_true,done]
  refine ⟨run_close _ named (poised.feed read.stands.skips rfl
    ((yields_done plain read.stands.mode ruled).more (by decide))) noMark,read.stands.skips,?_,fun id first => ?_⟩
  · show b₂.opened.getLast? = some host
    rw [open_]
    rfl
  · have first : b₂.opened.head? = some id := first
    rw [open_] at first
    cases first
    have names := read.stands.names
    rw [open_] at names
    have named : b₂.name b₀.cells.size = ⟨.html,"body"⟩ := (List.cons.inj names).1
    exact ⟨read.stands.placed.old _ (by simp [open_]),congrArg Name.space named⟩

theorem run_body {body : List Figure} (stands : Stands Layout.inRoot b₀) (opened : b₀.opened = [host]) (poised : Poised b b₀)
    (readAs : ReadAs Layout.inRoot "body" attributes) (fit : Figure.allFit Layout.inBody body = true)
    (noMark : Delivery.byteOrderMark ∉ (Figure.element "body" attributes body).markup false ++ rest) :
    ∃ b', run seams b ((Figure.element "body" attributes body).markup false ++ rest) = run seams b' rest ∧ Past b' host ∧
      b'.mode = .afterBody ∧ Sprouts b₀.cells b'.cells b₀.site [.element "body" attributes body] := by
  obtain ⟨_,solid,_,_,_,name⟩ := frame_tags "body" (by simp)
  have escaped : Dom.isRawText "body" = Layout.inBody.isRaw := rfl
  have after := notMem_of_append noMark
  rw [Figure.markup_element,solid,escaped,if_neg Bool.false_ne_true,List.append_assoc,List.append_assoc] at noMark ⊢
  obtain ⟨b₁,starts,begun⟩ := run_bodyStart stands poised readAs
  obtain ⟨b',b₂,goesOn,poised',read⟩ := run_nodes seams Layout.inBody (Dom.closeTag "body" ++ rest) body b₁ b₁ fit begun.stands
    (.ready begun.unjoined body) (notMem_of_append noMark)
  obtain ⟨ends,past⟩ := run_bodyEnd begun opened read poised' after
  have shown := begun.planted.around (begun.site ▸ read.grown)
  rw [figureOf_shown readAs name] at shown
  exact ⟨_,starts.trans (goesOn.trans ends),past,rfl,shown⟩

theorem Past.remarks (past : Past b host) (mode : b.mode = .afterBody) : Remarks b host := by
  refine remarks_in past.skips past.html fun cells value => ?_
  have ruled : ∀ m, m = .afterBody → ({b with cells := cells} : Builder).rules (.comment value) m =
      (({b with cells := cells} : Builder).commentIn (b.opened.getLast?.getD root) value,.done) := by
    rintro _ rfl
    rfl
  rw [ruled b.mode mode,past.outermost]
  rfl

theorem Past.remarksAfter (past : Past b host) (mode : b.mode = .afterAfterBody) : Remarks b root := by
  refine remarks_in past.skips past.html fun cells value => ?_
  rw [mode]
  rfl

theorem Past.grow (past : Past b host) (grown : Sprouts b.cells cells id ts) : Past {b with cells := cells} host := by
  refine ⟨past.skips,past.outermost,fun id first => ?_⟩
  obtain ⟨old,space⟩ := past.html id first
  refine ⟨Nat.lt_of_lt_of_le old grown.size,?_⟩
  rw [keeps_name (b := b) grown.keeps old]
  exact space

theorem Past.plain (past : Past b host) (t : Token) : b.isForeign t = false :=
  plain_top (fun id first => (past.html id first).2) t

theorem Past.run_rootEnd (seams : List Nat) (past : Past b host) (mode : b.mode = .afterBody) (noMark : Delivery.byteOrderMark ∉ rest) :
    run seams b (Dom.closeTag "html" ++ rest) = run seams (b.enter .afterAfterBody) rest := by
  obtain ⟨lowered,_,_,named,_⟩ := frame_tags "html" (by simp)
  have word : isOneOf "html" ["html"] = true := by simp [isOneOf,ofStrings]
  have ruled : b.rules (.endTag (lower "html")) .afterBody = (b.enter .afterAfterBody,.done) := by
    simp only [lowered,rules,afterBody,word,if_true,done]
  exact run_close _ named ((Poised.ready b).feed past.skips rfl
    ((yields_done (past.plain _) mode ruled).more (by decide))) noMark

theorem Past.run_nil (past : Past b host) (mode : b.mode = .afterAfterBody) : run seams b [] = b := by
  have ruled : b.rules .finish .afterAfterBody = (b,.done) := rfl
  have yields : Yields 1 .finish b (b,.done) := yields_done (past.plain _) mode ruled
  have still : {b with skipLineFeed := false} = b := by rw [← past.skips]
  rw [run,feed]
  simp only [still,past.skips,Bool.false_and,Bool.false_eq_true,if_false]
  rw [show 16 + 4 * b.opened.length = 15 + 4 * b.opened.length + 1 by omega,yields]
  · exact fun _ same => by cases same
  · exact fun same => by cases same

theorem run_contents {l : Layout} (fits : l.fitsContents = true) (roots : Roots (rooted conventions cells legacy host) host)
    (noMark : Delivery.byteOrderMark ∉ Figure.markupAll false l.contents ++ rest) :
    ∃ b, run seams (rooted conventions cells legacy host) (Figure.markupAll false l.contents ++ rest) = run seams b rest ∧
      Past b host ∧ b.mode = .afterBody ∧ Sprouts cells b.cells host l.contents := by
  simp only [Layout.fitsContents,Bool.and_eq_true] at fits
  obtain ⟨⟨⟨⟨⟨⟨preface,head⟩,headFits⟩,gapFits⟩,body⟩,bodyFits⟩,postscript⟩ := fits
  have escaped : Layout.inRoot.isRaw = false := (frame_tags "html" (by simp)).2.2.1
  rw [Layout.contents,Figure.markupAll_append,Figure.markupAll_cons,Figure.markupAll_append,Figure.markupAll_cons] at noMark ⊢
  simp only [List.append_assoc] at noMark ⊢
  obtain ⟨cell,found⟩ : ∃ cell, cells[host]? = some cell := by
    have old : host < cells.size := roots.placed.old host (by simp [roots.opened])
    exact ⟨_,Array.getElem?_eq_getElem old⟩
  obtain ⟨cells₁,first,grown₁⟩ := run_remarks (rooted_remarks roots) (.refl found) preface noMark
  have noMark := notMem_of_append noMark
  obtain ⟨b₂,second,stands₂,opened₂,site₂,grown₂⟩ := run_head (roots.grow grown₁) (readAs_iff head) headFits noMark
  have noMark := notMem_of_append noMark
  obtain ⟨b',b₃,third,poised,read⟩ := run_nodes seams Layout.inRoot _ l.between b₂ b₂ gapFits stands₂
    (.ready (.behind (site₂.symm ▸ grown₂) rfl) l.between) (escaped ▸ noMark)
  rw [escaped] at third
  have site₃ : b₃.site = host := (stands₂.site read).trans site₂
  obtain ⟨b₄,fourth,past,mode,grown₄⟩ := run_body read.stands (read.opened.trans opened₂) poised (readAs_iff body)
    bodyFits (notMem_of_append noMark)
  rw [site₃] at grown₄
  obtain ⟨cell,found⟩ := sprouts_found grown₄
  obtain ⟨cells₅,fifth,grown₅⟩ := run_remarks (past.remarks mode) (.refl found) postscript
    (notMem_of_append (notMem_of_append noMark))
  have grown₃ := site₂ ▸ read.grown
  exact ⟨_,first.trans (second.trans (third.trans (fourth.trans fifth))),past.grow grown₅,mode,
    grown₁.trans (grown₂.trans (grown₃.trans (grown₄.trans grown₅)))⟩

theorem notMem_of_kept {s : Text} (kept : s.all Layout.isKept = true) : Delivery.byteOrderMark ∉ s := by
  intro inside
  exact absurd (List.all_eq_true.mp kept _ inside) (by decide)

-- The reader comes to the end of a legible document with all of it below the root of the store.
theorem run_layout {l : Layout} (legible : l.isLegible = true) :
    Sprouts (start conventions).cells (run seams (start conventions) (Figure.markupAll false l.figures)).cells root l.figures := by
  simp only [Layout.isLegible,Bool.and_eq_true] at legible
  obtain ⟨⟨⟨⟨lead,html⟩,contents⟩,after⟩,kept⟩ := legible
  have noMark := notMem_of_kept kept
  obtain ⟨_,solid,escaped,_,name,_⟩ := frame_tags "html" (by simp)
  rw [Layout.figures,Figure.markupAll_append,Figure.markupAll_cons,Figure.markup_element,solid,escaped,if_neg Bool.false_ne_true,
    List.append_assoc,List.append_assoc] at noMark ⊢
  obtain ⟨cells,mode,legacy,first,early_,grown⟩ := run_lead lead noMark
  obtain ⟨cells₁,legacy₁,second,planted⟩ := run_htmlStart
    early_ (sprouts_found grown) (readAs_iff html)
  have noMark := notMem_of_append (notMem_of_append noMark)
  obtain ⟨b₂,third,past,mode₂,grown₂⟩ := run_contents contents
    (roots_of planted) noMark
  have noMark := notMem_of_append noMark
  have noMark := notMem_of_append noMark
  have fourth := past.run_rootEnd seams mode₂ noMark
  have shown := planted.around grown₂
  rw [figureOf_shown (readAs_iff html) name] at shown
  obtain ⟨cell,found⟩ := sprouts_found shown
  have past₂ : Past (b₂.enter .afterAfterBody) cells.size := ⟨past.skips,past.outermost,past.html⟩
  obtain ⟨cells₃,fifth,grown₃⟩ := run_remarks (past₂.remarksAfter rfl) (.refl found) after
    (by rwa [List.append_nil])
  rw [List.append_nil] at fifth
  rw [first.trans (second.trans (third.trans (fourth.trans (fifth.trans ((past₂.grow grown₃).run_nil rfl)))))]
  exact grown.trans (shown.trans grown₃)

end Builder

-- A text without line ends of other kinds and without marks arrives as it is, whatever the blocks.
theorem take_kept {blockSize : Option Nat} {a : Delivery.Arriving} {c : Char} (kept : Layout.isKept c = true)
    (ready : a.afterReturn = false) :
    (a.take blockSize c).backwards = c :: a.backwards ∧ (a.take blockSize c).afterReturn = false := by
  simp only [Layout.isKept,Bool.and_eq_true,decide_eq_true_eq] at kept
  simp [Delivery.Arriving.take,kept.1,kept.2,ready,Delivery.Arriving.put]

theorem ofText_kept (blockSize : Option Nat) {s : Text} (kept : s.all Layout.isKept = true) :
    (Delivery.ofText blockSize s).text = s := by
  suffices onward : ∀ (s : Text) (a : Delivery.Arriving), s.all Layout.isKept = true → a.afterReturn = false →
      (s.foldl (Delivery.Arriving.take blockSize) a).backwards = s.reverse ++ a.backwards by
    rw [Delivery.ofText]
    show (s.foldl (Delivery.Arriving.take blockSize) .start).backwards.reverse = s
    rw [onward s .start kept rfl]
    simp [Delivery.Arriving.start]
  intro s
  induction s with
  | nil => exact fun _ _ _ => rfl
  | cons c s ih =>
    intro a kept ready
    rw [List.all_cons,Bool.and_eq_true] at kept
    obtain ⟨same,still⟩ := take_kept kept.1 ready
    rw [List.foldl_cons,ih _ kept.2 still,same,List.reverse_cons,List.append_assoc]
    rfl

theorem start_linked (conventions : Conventions) : Linked (Builder.start conventions).cells := by
  intro k name properties contents children found
  cases k with
  | zero => cases Option.some.inj found
  | succ k => cases found

theorem build_grown {l : Layout} (legible : l.isLegible = true) (conventions : Conventions) :
    Sprouts (Builder.start conventions).cells (build conventions (Figure.markupAll false l.figures)).cells Builder.root l.figures := by
  have kept : (Figure.markupAll false l.figures).all Layout.isKept = true := by
    simp only [Layout.isLegible,Bool.and_eq_true] at legible
    exact legible.2
  rw [build,ofText_kept _ kept]
  exact Builder.run_layout legible

-- What is read is the document, and no element is left outside of it.
theorem build_layout {l : Layout} (legible : l.isLegible = true) (conventions : Conventions) :
    Tree.figures (build conventions (Figure.markupAll false l.figures)).trees = l.figures ∧
      Tree.allSound (build conventions (Figure.markupAll false l.figures)).trees = true ∧
      (build conventions (Figure.markupAll false l.figures)).loose = [] := by
  have grown := build_grown legible conventions
  generalize build conventions (Figure.markupAll false l.figures) = b at grown
  obtain ⟨cell,ids,before,after,held⟩ := grown.host
  have first : (Builder.start conventions).cells[Builder.root]? = some ⟨.document,none,[]⟩ := rfl
  cases Option.some.inj (first.symm.trans before)
  rw [List.append_nil] at after
  have listed : b.trees = ids.filterMap b.treeOf? := by rw [Builder.trees,childrenOf_found after]
  refine ⟨?_,?_,?_⟩
  · rw [listed]
    exact held.trees _ (Nat.le_add_left _ _)
  · rw [listed]
    exact held.allSound _
  · have linked := grown.linked (start_linked conventions)
    have none : ∀ k, b.isLoose k = false := by
      intro k
      rw [Builder.isLoose,Builder.cell?]
      split
      · rename_i found
        exact absurd found (linked k _ _ _ _)
      · rfl
    rw [Builder.loose,List.filter_eq_nil_iff.mpr fun k _ => by simp [none k]]
    rfl

end StyleTrim.Html
