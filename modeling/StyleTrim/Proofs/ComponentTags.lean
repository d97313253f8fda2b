import Mathlib.Data.Char
import Mathlib.Data.List.Lex
import Mathlib.Data.List.Sort
import StyleTrim.Document.Stages
import StyleTrim.Proofs.Simulation
namespace StyleTrim
open Text

-- Drawing a page neither brings a component of a new name into it nor takes the last one of a name away.

namespace Dom
variable {d d₁ d₂ : Dom} {c id m n p : NodeId} {l : List NodeId} {name tag value : Text} {payload : Payload}
  {A : Text → Prop} {place : List NodeId → List NodeId}

-- Of all names of components, a document has only those that satisfy `A`.
def Confined (A : Text → Prop) (d : Dom) : Prop := ∀ m tag, d.tag? m = some tag → ("amp-" : Text) <+: tag → A tag

theorem Confined.congr (confined : Confined A d) (same : ∀ m, d₁.tag? m = d.tag? m) : Confined A d₁ := by
  intro m tag named
  rw [same] at named
  exact confined m tag named

theorem create_tag? (d : Dom) (payload : Payload) (m : NodeId) :
    (d.create payload).1.tag? m = payload.tag? ∨ (d.create payload).1.tag? m = d.tag? m := by
  have slots : (∃ stamp, (d.create payload).1.slot? m = some ⟨payload,stamp,true,none,[]⟩) ∨
      (d.create payload).1.slot? m = d.slot? m := by
    unfold create
    split
    · simp only [slot?,Array.getElem?_modify]
      split
      · cases d.slots[m.slot]? with
        | none => exact .inr rfl
        | some s => exact .inl ⟨_,rfl⟩
      · exact .inr rfl
    · simp only [slot?,Array.getElem?_push]
      split
      · exact .inl ⟨_,rfl⟩
      · exact .inr rfl
  rcases slots with ⟨stamp,new⟩ | old
  · exact .inl (by simp [tag?,node?,new])
  · exact .inr (by simp only [tag?,node?,old])

theorem Confined.create (confined : Confined A d) (payload : Payload)
    (ok : ∀ tag, payload.tag? = some tag → ("amp-" : Text) <+: tag → A tag) : Confined A (d.create payload).1 := by
  intro m tag named
  cases create_tag? d payload m with
  | inl new => exact ok tag (new.symm.trans named)
  | inr old => exact confined m tag (old.symm.trans named)

-- What is no component may be made at any time.
theorem Confined.element (confined : Confined A d) (tag : Text) (attributes : List Attribute)
    (plain : ¬ ("amp-" : Text) <+: tag) : Confined A (d.createElement tag attributes).1 := by
  refine confined.create _ fun other same begins => ?_
  cases same
  exact absurd begins plain

theorem detach_tag? (d : Dom) (c m : NodeId) : (d.detach c).tag? m = d.tag? m := by rw [tag?,detach_node?,tag?]

theorem link_tag? (d : Dom) (p c m : NodeId) (place : List NodeId → List NodeId) : (d.link p c place).tag? m = d.tag? m := by
  rw [tag?,link,update_node?,update_node?,tag?]
  all_goals exact fun _ => ⟨rfl,rfl⟩

theorem Confined.link (confined : Confined A d) (p c : NodeId) (place : List NodeId → List NodeId) :
    Confined A (d.link p c place) := confined.congr fun m => link_tag? d p c m place

theorem Confined.detach (confined : Confined A d) (c : NodeId) : Confined A (d.detach c) :=
  confined.congr fun m => detach_tag? d c m

theorem Confined.append (confined : Confined A d) (p c : NodeId) : Confined A (d.appendChild p c) := by
  unfold appendChild
  split
  · exact confined
  · dsimp only
    split
    · exact (confined.detach c).link p c _
    · exact confined.detach c

theorem Confined.prepend (confined : Confined A d) (p c : NodeId) : Confined A (d.prependChild p c) := by
  unfold prependChild
  split
  · exact confined
  · dsimp only
    split
    · exact (confined.detach c).link p c _
    · exact confined.detach c

theorem Confined.after (confined : Confined A d) (n c : NodeId) : Confined A (d.insertAfter n c) := by
  unfold insertAfter
  split
  · exact confined
  · dsimp only
    split
    · split
      · exact (confined.detach c).link _ c _
      · exact confined.detach c
    · exact confined.detach c

theorem Confined.edit (confined : Confined A d) (n : NodeId) (f : List Attribute → List Attribute) :
    Confined A (d.editAttributes n f) := confined.congr fun m => tag?_congr (edit_kind? d n m f)

theorem Confined.set (confined : Confined A d) (n : NodeId) (name value : Text) :
    Confined A (d.setAttribute n name value) := confined.edit n _

theorem Confined.addClass (confined : Confined A d) (n : NodeId) (name : Text) : Confined A (d.addClass n name) := by
  unfold Dom.addClass
  split
  · exact confined
  · exact confined.edit n _

theorem Confined.foldl {step : Dom → NodeId → Dom} (confined : Confined A d)
    (each : ∀ e c, Confined A e → Confined A (step e c)) (l : List NodeId) : Confined A (l.foldl step d) := by
  induction l generalizing d with
  | nil => exact confined
  | cons c more ih => exact ih (each d c confined)

theorem Confined.foldlM {step : Dom → NodeId → Option Dom} (confined : Confined A d)
    (each : ∀ e c e', Confined A e → step e c = some e' → Confined A e') (ran : l.foldlM step d = some d₁) :
    Confined A d₁ :=
  Amp.foldlM_keeps (R := Confined A) l confined (fun e c e' _ => each e c e') ran

theorem Confined.wrap (confined : Confined A d) (p n : NodeId) : Confined A (d.wrapChildren p n) :=
  (confined.foldl (fun _ c now => now.append n c) _).append p n

-- A copy has the names of what was copied.
theorem Confined.cloneTo (h : Nat) (confined : Confined A d) (n : NodeId) : Confined A (d.cloneTo n h).1 := by
  induction h generalizing d n with
  | zero => exact confined
  | succ h ih =>
    rw [Dom.cloneTo]
    split
    · exact confined
    · rename_i payload found
      have made : Confined A (d.create payload).1 := by
        refine confined.create payload fun tag named => confined n tag ?_
        rw [tag?,found]
        exact named
      refine made.foldl (fun e child now => ?_) _
      have copied := ih now child
      generalize e.cloneTo child h = cloned at copied
      obtain ⟨e',childCopy?⟩ := cloned
      cases childCopy? with
      | none => exact copied
      | some childCopy => exact copied.link _ childCopy _

-- Every name belongs to a node that is there.
theorem current_of_tag (named : d.tag? n = some tag) : ∃ m, d.Current m ∧ d.tag? m = some tag := by
  obtain ⟨payload,found,_⟩ := Option.bind_eq_some_iff.mp named
  have lives : ∃ s, d.slot? n = some s ∧ s.live = true := by
    unfold node? at found
    split at found
    · rename_i s here
      split at found
      · exact ⟨s,here,‹_›⟩
      · cases found
    · cases found
  obtain ⟨s,here,live⟩ := lives
  exact ⟨⟨n.slot,s.stamp⟩,⟨s,here,live,rfl⟩,named⟩

theorem before_iff (s t : Text) : before s t = true ↔ s < t := by
  induction s generalizing t with
  | nil => cases t <;> simp [before]
  | cons a s ih =>
    cases t with
    | nil => simp [before]
    | cons b t =>
      rw [before,List.cons_lt_cons_iff,← ih,Bool.or_eq_true,Bool.and_eq_true,decide_eq_true_eq,beq_iff_eq]
      rfl

theorem mem_insertSorted (name : Text) (names : List Text) : tag ∈ insertSorted name names ↔ tag = name ∨ tag ∈ names := by
  induction names with
  | nil => simp [insertSorted]
  | cons other more ih =>
    rw [insertSorted]
    split
    · rename_i same
      rw [eq_of_beq same]
      simp
    · split
      · rw [List.mem_cons]
      · rw [List.mem_cons,ih,List.mem_cons]
        exact or_left_comm

theorem insertSorted_sorted (name : Text) {names : List Text} (sorted : names.Pairwise (· < ·)) :
    (insertSorted name names).Pairwise (· < ·) := by
  induction names with
  | nil => simp [insertSorted]
  | cons other more ih =>
    obtain ⟨first,later⟩ := List.pairwise_cons.mp sorted
    rw [insertSorted]
    split
    · exact sorted
    · rename_i apart
      split
      · rename_i less
        rw [before_iff] at less
        refine List.pairwise_cons.mpr ⟨fun x inside => ?_,sorted⟩
        rcases List.mem_cons.mp inside with rfl | inside
        · exact less
        · exact less.trans (first x inside)
      · rename_i least
        rw [before_iff] at least
        refine List.pairwise_cons.mpr ⟨fun x inside => ?_,ih later⟩
        rcases (mem_insertSorted name more).mp inside with rfl | inside
        · exact lt_of_le_of_ne (not_lt.mp least) fun same => apart (beq_iff_eq.mpr same.symm)
        · exact first x inside

theorem foldl_insertSorted (tags names : List Text) (sorted : names.Pairwise (· < ·)) :
    (tags.foldl (fun names tag => insertSorted tag names) names).Pairwise (· < ·) ∧
      ∀ tag, tag ∈ tags.foldl (fun names tag => insertSorted tag names) names ↔ tag ∈ tags ∨ tag ∈ names := by
  induction tags generalizing names with
  | nil => exact ⟨sorted,by simp⟩
  | cons first more ih =>
    obtain ⟨order,members⟩ := ih _ (insertSorted_sorted first sorted)
    refine ⟨order,fun tag => ?_⟩
    rw [List.foldl_cons,members,mem_insertSorted,List.mem_cons]
    tauto

theorem tagNames_sorted (d : Dom) : d.tagNames.Pairwise (· < ·) := (foldl_insertSorted _ [] .nil).1

theorem mem_tagNames : tag ∈ d.tagNames ↔ ∃ n ∈ d.elements, d.tag? n = some tag := by
  rw [tagNames,(foldl_insertSorted _ [] .nil).2,List.mem_filterMap]
  simp

theorem mem_elementsByTag : (d.elementsByTag tag).isEmpty = false ↔ ∃ n ∈ d.elements, d.tag? n = some tag := by
  rw [List.isEmpty_eq_false_iff_exists_mem]
  simp [elementsByTag]

end Dom

namespace Amp
open Dom
variable {d d' d₁ : Dom} {c id m n p : NodeId} {l : List NodeId} {draw : Draw} {drawing : Drawing} {A : Text → Prop}

theorem copyAttributes_confined (source target : NodeId) (names : List String) (confined : Confined A d) :
    Confined A (copyAttributes source target names d) := by
  unfold copyAttributes
  generalize ofStrings names = l
  induction l generalizing d with
  | nil => exact confined
  | cons name more ih =>
    refine ih ?_
    dsimp only
    split
    · exact confined.set target _ _
    · exact confined

theorem adoptSources_confined (confined : Confined A d) (id player : NodeId) : Confined A (adoptSources d id player) := by
  refine confined.foldl (fun e c now => ?_) _
  split
  · exact now.append player c
  · exact now

theorem drawImage_confined (confined : Confined A d) (id : NodeId) : Confined A (drawImage d id) := by
  unfold drawImage
  split
  · exact confined
  · have made := confined.element "img" [⟨"class",replacedClasses⟩] (by decide)
    exact ((copyAttributes_confined _ _ _ made).set _ _ _).append id _

theorem drawVideo_confined (confined : Confined A d) (id : NodeId) : Confined A (drawVideo d id) := by
  unfold drawVideo
  split
  · exact confined
  · have made := confined.element "video" [⟨"class",replacedClasses⟩] (by decide)
    exact (adoptSources_confined (copyAttributes_confined _ _ _ made) id _).append id _

theorem drawAudio_confined (confined : Confined A d) (id : NodeId) : Confined A (drawAudio d id) := by
  unfold drawAudio
  split
  · exact confined
  · have made := confined.element "audio" [⟨"controls",[]⟩] (by decide)
    exact (adoptSources_confined (copyAttributes_confined _ _ _ made) id _).append id _

theorem drawFrame_confined (confined : Confined A d) (id : NodeId) : Confined A (drawFrame d id) := by
  unfold drawFrame
  split
  · exact confined
  · have made := (confined.element scrollerTag [] (by decide)).element "iframe" [⟨"class","i-amphtml-fill-content"⟩] (by decide)
    exact ((copyAttributes_confined _ _ _ made).append _ _).append id _

theorem drawButton_confined (confined : Confined A d) (id : NodeId) (classes label : Text) :
    Confined A (drawButton id classes label d) :=
  (confined.element "div" _ (by decide)).append id _

theorem placeSlide_confined (oneAtATime : Bool) (track : NodeId) (confined : Confined A d) (slide : NodeId) :
    Confined A (placeSlide oneAtATime track d slide) := by
  have classed := confined.addClass slide "amp-carousel-slide"
  unfold placeSlide
  split
  · have made := classed.element "div" [⟨"class","i-amphtml-slide-item"⟩] (by decide)
    exact (made.append _ slide).append track _
  · exact classed.append track slide

theorem drawCarousel_confined (confined : Confined A d) (id : NodeId) : Confined A (drawCarousel d id) := by
  unfold drawCarousel
  split
  · exact confined
  · extract_lets oneAtATime loops slides back
    generalize (if oneAtATime then _ else _ : List Attribute) = attributes
    have made := confined.element "div" attributes (by decide)
    have each : ∀ e c, Confined A e → Confined A (placeSlide oneAtATime (d.createElement "div" attributes).2 e c) :=
      fun _ c now => placeSlide_confined oneAtATime _ now c
    have placed := (made.foldl each slides).append id (d.createElement "div" attributes).2
    exact drawButton_confined (drawButton_confined placed id _ _) id _ _

theorem drawFillBox_confined (confined : Confined A d) (id : NodeId) : Confined A (drawFillBox d id) := by
  unfold drawFillBox
  split
  · exact confined
  · exact (confined.element "div" [⟨"class","i-amphtml-fill-content"⟩] (by decide)).wrap id _

theorem drawFitText_confined (confined : Confined A d) (id : NodeId) : Confined A (drawFitText d id) := by
  unfold drawFitText
  split
  · exact confined
  · have made := (confined.element "div" [⟨"class","i-amphtml-fit-text-content"⟩] (by decide)).element "div"
      [⟨"class","i-amphtml-fit-text-content-inner"⟩] (by decide)
    exact ((made.foldl (fun _ c now => now.append _ c) _).append _ _).append id _

theorem drawLightbox_confined (confined : Confined A d) (id : NodeId) : Confined A (drawLightbox d id) := by
  unfold drawLightbox
  split
  · exact confined
  · have boxes := ((confined.element "div" [⟨"class","i-amphtml-image-lightbox-container"⟩] (by decide)).element "div"
      [⟨"class","i-amphtml-image-lightbox-viewer"⟩] (by decide)).element "img"
      [⟨"class","i-amphtml-image-lightbox-viewer-image"⟩,⟨"src",[]⟩] (by decide)
    refine Confined.append (Confined.append ?_ id _) id _
    refine Confined.element (Confined.append ?_ _ _) "button" _ (by decide)
    refine Confined.element ?_ "div" _ (by decide)
    exact (boxes.append _ _).append _ _

theorem applyLayout_confined (confined : Confined A d) (id : NodeId) : Confined A (applyLayout d id) := by
  unfold applyLayout
  split
  · exact confined
  · rename_i layout _
    have classed := (confined.addClass id "i-amphtml-element").addClass id ("i-amphtml-layout-" ++ layout)
    extract_lets e e'
    have sized : Confined A e' := by
      unfold e'
      split
      · exact classed.addClass id _
      · exact classed
    split
    · exact sized
    · split
      · exact (sized.element sizerTag _ (by decide)).prepend id _
      · split
        · refine Confined.prepend (Confined.append ?_ _ _) id _
          exact (sized.element sizerTag _ (by decide)).element "img" _ (by decide)
        · exact sized

theorem markSection_confined (confined : Confined A d) (s : NodeId) (isOpen : Bool) : Confined A (markSection d s isOpen) := by
  obtain ⟨d₁,opened,d₂,headed,whole⟩ := markSection_eq d s isOpen
  have first : Confined A d₁ := by
    rw [opened]
    split
    · exact confined.set s _ _
    · exact confined.edit s _
  have second : Confined A d₂ := by
    rw [headed]
    split
    · exact (((first.addClass _ _).set _ _ _).set _ _ _).set _ _ _
    · exact first
  rw [whole]
  split
  · exact (second.addClass _ _).set _ _ _
  · exact second

-- What is done with a copy.
def Confines (A : Text → Prop) (draw : Draw) : Prop := ∀ d n d', Confined A d → draw d n = some d' → Confined A d'

theorem cloned_confined {put : Dom → NodeId → Dom} (confines : Confines A draw) (confined : Confined A d)
    (puts : ∀ e copy, Confined A e → Confined A (put e copy))
    (ran : (match d.clone n with | (e,none) => some e | (e,some copy) => draw (put e copy) copy) = some d') :
    Confined A d' := by
  have copied : Confined A (d.clone n).1 := confined.cloneTo d.height n
  generalize d.clone n = cloned at copied ran
  obtain ⟨e,copy?⟩ := cloned
  cases copy? with
  | none => cases ran; exact copied
  | some copy => exact confines _ copy d' (puts e copy copied) ran

theorem drawAccordion_confined (confines : Confines A draw) (confined : Confined A d)
    (ran : drawAccordion draw d id = some d') : Confined A d' := by
  unfold drawAccordion at ran
  dsimp only at ran
  split at ran
  · cases ran
    exact confined
  · refine confined.foldlM (fun e s e' now drawn => ?_) ran
    refine cloned_confined confines now (fun e copy now => ?_) drawn
    exact (markSection_confined (markSection_confined now s true) copy false).after s copy

theorem drawItems_confined (confines : Confines A draw) (confined : Confined A d)
    (ran : drawItems draw d id = some d') : Confined A d' := by
  unfold drawItems at ran
  split at ran
  · cases ran
    exact confined
  · split at ran
    · cases ran
      exact confined
    · dsimp only at ran
      split at ran
      · cases ran
        exact confined
      · obtain ⟨e,filled,hung⟩ := Option.bind_eq_some_iff.mp ran
        cases hung
        have made := confined.element "div" [⟨"role","list"⟩] (by decide)
        refine (made.foldlM (fun e item e' now drawn => ?_) filled).append id _
        refine cloned_confined confines now (fun e copy now => ?_) drawn
        exact (now.set copy _ _).append _ copy

theorem copyToolbar_confined (confines : Confines A draw) (confined : Confined A d)
    (ran : copyToolbar draw d n = some d') : Confined A d' := by
  unfold copyToolbar at ran
  split at ran
  · cases ran
    exact confined
  · split at ran
    · cases ran
      exact confined
    · exact cloned_confined confines confined (fun e copy now => (now.addClass copy _).append _ copy) ran

theorem drawSidebar_confined (confines : Confines A draw) (confined : Confined A d)
    (ran : drawSidebar draw d id = some d') : Confined A d' := by
  obtain ⟨e,copied,masked⟩ := Option.bind_eq_some_iff.mp ran
  have now := confined.foldlM (fun e n e' now drawn => copyToolbar_confined confines now drawn) copied
  split at masked
  · cases masked
    exact now
  · cases masked
    exact (now.element "div" [⟨"class",maskMark⟩] (by decide)).after id _

theorem drawElement_confined (confines : Confines A draw) (confined : Confined A d)
    (ran : drawElement draw d id = some d') : Confined A d' := by
  unfold drawElement at ran
  split at ran
  · obtain ⟨e,drawn,laid⟩ := Option.bind_eq_some_iff.mp ran
    have now : Confined A e := by
      unfold drawComponent at drawn
      split at drawn
      · rename_i drawing _
        cases drawing with
        | image => cases drawn; exact drawImage_confined confined id
        | video => cases drawn; exact drawVideo_confined confined id
        | audio => cases drawn; exact drawAudio_confined confined id
        | frame => cases drawn; exact drawFrame_confined confined id
        | carousel => cases drawn; exact drawCarousel_confined confined id
        | accordion => exact drawAccordion_confined confines confined drawn
        | sidebar => exact drawSidebar_confined confines confined drawn
        | fillBox => cases drawn; exact drawFillBox_confined confined id
        | fitText => cases drawn; exact drawFitText_confined confined id
        | lightbox => cases drawn; exact drawLightbox_confined confined id
        | items => exact drawItems_confined confines confined drawn
      · cases drawn
        exact confined
    cases laid
    split
    · exact applyLayout_confined now id
    · exact now
  · cases ran
    exact confined

theorem drawUnder_confines (depth : Nat) : Confines A (drawUnder depth) := by
  induction depth with
  | zero => exact fun _ _ _ _ ran => nomatch ran
  | succ depth ih =>
    intro d n d' confined ran
    exact confined.foldlM (fun e m e' now drawn => drawElement_confined ih now drawn) ran

theorem Returns.confined (returns : Returns d d') (confined : Confined A d) : Confined A d' := by
  obtain ⟨depth,ran⟩ := returns
  refine confined.foldlM (fun e n e' now drawn => ?_) ran
  split at drawn
  · exact drawElement_confined (drawUnder_confines depth) now drawn
  · cases drawn
    exact now

theorem followsData_begins {tag : Text} (follows : followsData tag = true) : ("amp-" : Text) <+: tag := by
  have all : ∀ tag ∈ dataTags, ("amp-" : Text) <+: tag := by decide
  exact all tag (List.contains_iff_mem.mp follows)

theorem ofSelector_begins {selector tag : Text} (found : Css.Strategy.ofSelector selector = .component tag) :
    ("amp-" : Text) <+: tag := by
  unfold Css.Strategy.ofSelector at found
  dsimp only at found
  split at found
  · cases found
  · split at found
    · cases found
    · split at found
      · cases found
      · split at found
        · cases found
        · split at found
          · rename_i component
            cases found
            simp only [Css.Selector.isComponent,Bool.and_eq_true] at component
            exact List.isPrefixOf_iff_prefix.mp component.1.2
          · cases found

-- Whatever the components of a page are drawn with: an element with the tag of a component is in the document
-- afterwards just in case there was one before. So the page follows data as before, is worked on in the same way, and
-- rules for components are decided as they would have been.
theorem drawing_keeps_components (source : Text) (returns : Returns (read source) d') :
    (∀ tag, ("amp-" : Text) <+: tag →
      ((∃ n ∈ d'.elements, d'.tag? n = some tag) ↔ ∃ n ∈ (read source).elements, (read source).tag? n = some tag)) ∧
    dataTagsOf d' = dataTagsOf (read source) ∧
    (∀ level : Level, level.tier (!(dataTagsOf d').isEmpty) = level.tier (!(dataTagsOf (read source)).isEmpty)) ∧
    ∀ selector tag, Css.Strategy.ofSelector selector = .component tag →
      (d'.elementsByTag tag).isEmpty = ((read source).elementsByTag tag).isEmpty := by
  have forest := read_forest source
  have top := read_root source
  have adds := returns.adds forest top
  have same : ∀ tag, ("amp-" : Text) <+: tag →
      ((∃ n ∈ d'.elements, d'.tag? n = some tag) ↔ ∃ n ∈ (read source).elements, (read source).tag? n = some tag) := by
    intro tag begins
    constructor
    · intro later
      obtain ⟨n,_,named⟩ := later
      have confined : Confined (fun tag => ∃ n, (read source).tag? n = some tag) (read source) := fun m tag named _ => ⟨m,named⟩
      obtain ⟨m,before⟩ := returns.confined confined n tag named begins
      obtain ⟨m,there,before⟩ := current_of_tag before
      refine ⟨m,(forest.mem_elementsUnder top).mpr ⟨⟨there,read_rooted source m there⟩,?_⟩,before⟩
      rw [isElement,before]
      rfl
    · intro earlier
      obtain ⟨n,inside,named⟩ := earlier
      obtain ⟨⟨there,above⟩,_⟩ := (forest.mem_elementsUnder top).mp inside
      have kept : d'.tag? n = some tag := by rw [adds.tag there,named]
      refine ⟨n,(adds.forest.mem_elementsUnder (adds.current root top)).mpr ⟨⟨adds.current n there,adds.above there above⟩,?_⟩,kept⟩
      rw [isElement,kept]
      rfl
  have follows : dataTagsOf d' = dataTagsOf (read source) := by
    apply ((tagNames_sorted d').filter followsData).eq_of_mem_iff ((tagNames_sorted _).filter followsData)
    intro tag
    rw [List.mem_filter,List.mem_filter,mem_tagNames,mem_tagNames]
    exact and_congr_left fun follows => same tag (followsData_begins follows)
  refine ⟨same,follows,fun level => by rw [follows],fun selector tag found => ?_⟩
  rw [Bool.eq_iff_iff,← not_iff_not,Bool.not_eq_true,Bool.not_eq_true,mem_elementsByTag,mem_elementsByTag]
  exact same tag (ofSelector_begins found)

def statePage : Text := "<amp-list><template><amp-state>"

theorem drawing_keeps_components_state : ∃ d', Returns (read statePage) d' ∧
    (∃ n ∈ d'.elements, d'.tag? n = some ("amp-state" : Text)) ∧ dataTagsOf d' = ofStrings ["amp-list","amp-state"] ∧
    Level.browser.tier (!(dataTagsOf d').isEmpty) = .browser ∧ (d'.elementsByTag "amp-img").isEmpty = true := by
  have drawn : (drawPage (read statePage)).isSome = true ∧ dataTagsOf (read statePage) = ofStrings ["amp-list","amp-state"] ∧
      ((read statePage).elementsByTag "amp-img").isEmpty = true ∧ ⟨6,0⟩ ∈ (read statePage).elements ∧
      (read statePage).tag? ⟨6,0⟩ = some ("amp-state" : Text) := by
    decide +kernel
  have named : ∃ n ∈ (read statePage).elements, (read statePage).tag? n = some ("amp-state" : Text) := ⟨_,drawn.2.2.2⟩
  obtain ⟨d',page⟩ := Option.isSome_iff_exists.mp drawn.1
  obtain ⟨same,follows,tiers,asked⟩ := drawing_keeps_components statePage (drawPage_returns page)
  refine ⟨d',drawPage_returns page,?_,follows.trans drawn.2.1,?_,?_⟩
  · exact (same "amp-state" (by decide)).mpr named
  · rw [tiers,drawn.2.1]
    rfl
  · rw [asked "amp-img" "amp-img" (by decide +kernel),drawn.2.2.1]

end Amp
end StyleTrim
