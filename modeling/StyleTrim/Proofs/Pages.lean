import StyleTrim.Proofs.Covering
namespace StyleTrim.Amp
open Text Dom
variable {d d' d₁ d₂ e : Dom} {c id m n : NodeId} {draw : Draw} {drawing : Drawing} {layout name : Text}

-- What every element of a page has once the page was drawn, and which pages drawing leaves as they are.

theorem addClass_progress (forest : d.Forest) (there : d.Current n) (filled : Css.ink name ≠ []) :
    Progress (d.hasClass n name = true) d (d.addClass n name) := by
  cases has : d.hasClass n name with
  | true =>
    rw [Dom.addClass,if_pos has]
    exact .rest forest rfl
  | false =>
    have spares : Spares none Inert d (d.addClass n name) := (Spares.still forest).addClass there name
    refine ⟨covers_of_spares spares,.inr (.inr ⟨n,there,?_⟩)⟩
    rw [addClass_classInk there has]
    exact Nat.lt_add_of_pos_right (List.length_pos_iff.mpr filled)

-- The classes that a layout asks for, its name among them.
structure Classed (d : Dom) (n : NodeId) (layout : Text) : Prop where
  known : d.hasClass n "i-amphtml-element" = true
  named : d.hasClass n ("i-amphtml-layout-" ++ layout) = true
  sized : definesSize layout = true → d.hasClass n "i-amphtml-layout-size-defined" = true

theorem addLayoutClasses_progress (forest : d.Forest) (there : d.Current id) (layout : Text) :
    Progress (Classed d id layout) d (addLayoutClasses d id layout) := by
  have filled : Css.ink ("i-amphtml-layout-" ++ layout) ≠ [] := by
    rw [Css.ink_append]
    exact List.append_ne_nil_of_left_ne_nil (by decide) _
  have known := addClass_progress forest there (show Css.ink "i-amphtml-element" ≠ [] by decide)
  have there₁ := known.covers.current id there
  have named := addClass_progress known.covers.forest there₁ filled
  have there₂ := named.covers.current id there₁
  have both := known.trans (Q := fun d => d.hasClass id ("i-amphtml-layout-" ++ layout) = true) named
  unfold addLayoutClasses
  dsimp only
  split
  · have sized := addClass_progress named.covers.forest there₂ (show Css.ink "i-amphtml-layout-size-defined" ≠ [] by decide)
    refine (both.trans (Q := fun d => d.hasClass id "i-amphtml-layout-size-defined" = true) sized).mono ?_
    exact fun ⟨⟨known,named⟩,sized⟩ => ⟨known,named,fun _ => sized⟩
  · rename_i unsized
    exact both.mono fun ⟨known,named⟩ => ⟨known,named,fun sized => absurd sized unsized⟩

def Sized (d : Dom) (n : NodeId) (layout : Text) : Prop :=
  isOneOf layout ["responsive","intrinsic"] = true → hasSizer d n = true

theorem addSizer_progress (forest : d.Forest) (there : d.Current id) (layout : Text) :
    Progress (Sized d id layout) d (addSizer d id layout) := by
  obtain ⟨spares,ratio,same | new⟩ := addSizer_spares forest there layout
  · rw [same] at ratio ⊢
    exact .rest forest ratio
  · exact .grown (covers_of_spares spares) new

-- All that a layout asks for is there.
structure Shaped (d : Dom) (n : NodeId) (layout : Text) : Prop where
  classed : Classed d n layout
  sized : Sized d n layout

theorem applyLayout_progress (forest : d.Forest) (there : d.Current id) :
    Progress (∀ layout, layoutOf? d id = some layout → Shaped d id layout) d (applyLayout d id) := by
  rw [applyLayout_eq]
  cases asked : layoutOf? d id with
  | none => exact .rest forest nofun
  | some layout =>
    have classed := addLayoutClasses_progress forest there layout
    have sized := addSizer_progress classed.covers.forest (classed.covers.current id there) layout
    refine (classed.trans (Q := fun d => Sized d id layout) sized).mono ?_
    rintro ⟨classed,sized⟩ other same
    cases same
    exact ⟨classed,sized⟩

theorem applyLayout_rests (shaped : ∀ layout, layoutOf? d id = some layout → Shaped d id layout) : applyLayout d id = d := by
  rw [applyLayout_eq]
  split
  · rfl
  · rename_i layout asked
    obtain ⟨⟨known,named,sized⟩,ratio⟩ := shaped layout asked
    have classes : addLayoutClasses d id layout = d := by
      simp only [addLayoutClasses,Dom.addClass,known,named,if_true]
      split
      · rw [if_pos (sized ‹_›)]
      · rfl
    rw [classes,addSizer]
    split
    · rfl
    · rename_i none
      have other : isOneOf layout ["responsive"] = false ∧ isOneOf layout ["intrinsic"] = false := by
        have neither := mt ratio none
        simpa [isOneOf,ofStrings] using neither
      rw [if_neg (Bool.eq_false_iff.mp other.1),if_neg (Bool.eq_false_iff.mp other.2)]

theorem unasked_of_bare (bare : d.hasAttribute n "layout" = false) : layoutOf? d n = none := by
  rw [hasAttribute,Option.isSome_eq_false_iff,Option.isNone_iff_eq_none] at bare
  rw [layoutOf?,bare]
  rfl

-- The components that show copies. All others are drawn in themselves.
def copying : List Drawing := [.accordion,.sidebar,.items]

theorem recognized_iff (own : drawing ∉ copying) : Recognized d n drawing ↔ Drawn d n drawing := by
  cases drawing with
  | accordion | sidebar | items => exact absurd (by decide) own
  | _ => rfl

theorem drawAs_fills (draw : Draw) (forest : d.Forest) (there : d.Current id) (own : drawing ∉ copying) :
    ∃ d', drawAs draw d id drawing = some d' ∧ Fills d d' id drawing := by
  cases drawing with
  | image => exact ⟨_,rfl,drawImage_fills forest there⟩
  | video => exact ⟨_,rfl,drawVideo_fills forest there⟩
  | audio => exact ⟨_,rfl,drawAudio_fills forest there⟩
  | frame => exact ⟨_,rfl,drawFrame_fills forest there⟩
  | carousel => exact ⟨_,rfl,drawCarousel_fills forest there⟩
  | fillBox => exact ⟨_,rfl,drawFillBox_fills forest there⟩
  | fitText => exact ⟨_,rfl,drawFitText_fills forest there⟩
  | lightbox => exact ⟨_,rfl,drawLightbox_fills forest there⟩
  | accordion | sidebar | items => exact absurd (by decide) own

theorem mem_copying : drawing ∈ copying ↔ drawing = .accordion ∨ drawing = .sidebar ∨ drawing = .items := by
  simp [copying]

theorem drawAs_progress (keeps : Keeps draw) (settles : Settles draw) (forest : d.Forest) (top : d.Current root)
    (there : d.Current id) (found : drawingOf? d id = some drawing) (ran : drawAs draw d id drawing = some d') :
    Progress (Recognized d id drawing) d d' ∧ Drawn d' id drawing := by
  by_cases copies : drawing ∈ copying
  · rcases mem_copying.mp copies with rfl | rfl | rfl
    · exact ⟨drawAccordion_progress settles forest top there ran,trivial⟩
    · exact ⟨drawSidebar_progress settles forest top there ran,trivial⟩
    · exact ⟨drawItems_progress keeps settles forest top there ran,trivial⟩
  · obtain ⟨filled,ran',fills⟩ := drawAs_fills draw forest there copies
    cases ran.symm.trans ran'
    exact ⟨(fills.progress forest found).mono (recognized_iff copies).mpr,fills.drawn⟩

theorem foldlM_rests {step : Dom → NodeId → Option Dom} {l : List NodeId} (each : ∀ c ∈ l, step d c = some d) :
    l.foldlM step d = some d := by
  induction l with
  | nil => rfl
  | cons c more ih =>
    rw [List.foldlM_cons,each c List.mem_cons_self]
    exact ih fun c inside => each c (List.mem_cons_of_mem _ inside)

theorem drawAccordion_rests (known : Recognized d id .accordion) : drawAccordion draw d id = some d := by
  unfold drawAccordion
  rcases known with none | marked
  · rw [none]
    rfl
  · exact if_pos (List.any_eq_true.mpr marked)

theorem drawSidebar_rests (known : Recognized d id .sidebar) : drawSidebar draw d id = some d := by
  obtain ⟨masked,toolbars⟩ := known
  have copied : (d.childrenByTag id "nav").foldlM (copyToolbar draw) d = some d := by
    refine foldlM_rests fun navigation inside => ?_
    unfold copyToolbar
    split
    · rfl
    · rename_i target named
      exact if_pos (toolbars navigation inside target named)
  rw [drawSidebar_eq,copied]
  exact congrArg some (if_pos masked)

theorem drawItems_rests (known : Recognized d id .items) : drawItems draw d id = some d := by
  unfold drawItems
  split
  · rfl
  · rename_i none
    split
    · rfl
    · rename_i template found
      exact if_pos (List.isEmpty_iff.mpr (known.resolve_left none template found))

theorem drawAs_rests (draw : Draw) (forest : d.Forest) (there : d.Current id) (known : Recognized d id drawing) :
    drawAs draw d id drawing = some d := by
  by_cases copies : drawing ∈ copying
  · rcases mem_copying.mp copies with rfl | rfl | rfl
    · exact drawAccordion_rests known
    · exact drawSidebar_rests known
    · exact drawItems_rests known
  · obtain ⟨filled,ran,fills⟩ := drawAs_fills draw forest there copies
    rw [ran,fills.rests ((recognized_iff copies).mp known)]

-- What an element has that drawing it leaves alone.
structure Rests (d : Dom) (n : NodeId) : Prop where
  known : ∀ drawing, drawingOf? d n = some drawing → Recognized d n drawing
  shaped : d.isElement n = true → ∀ layout, layoutOf? d n = some layout → Shaped d n layout

theorem settled_of_other (other : d.isElement n = false) : Settled d n ∧ Rests d n := by
  have bare : drawingOf? d n = none := by
    rw [isElement,Option.isSome_eq_false_iff,Option.isNone_iff_eq_none] at other
    rw [drawingOf?,other,Option.bind_none]
  have none : ∀ drawing, drawingOf? d n ≠ some drawing := fun drawing found => by rw [bare] at found; cases found
  have silent : d.isElement n ≠ true := Bool.eq_false_iff.mp other
  exact ⟨⟨fun drawing found => absurd found (none drawing),fun element => absurd element silent⟩,
    ⟨fun drawing found => absurd found (none drawing),fun element => absurd element silent⟩⟩

theorem drawElement_eq (draw : Draw) (element : d.isElement id = true) :
    drawElement draw d id = (drawComponent draw d id).bind fun d => some (applyLayout d id) := by
  rw [drawElement,if_pos element]
  refine Option.bind_congr fun e _ => ?_
  cases asked : e.hasAttribute id "layout" with
  | true => rfl
  | false =>
    rw [applyLayout_eq,unasked_of_bare asked]
    rfl

theorem drawComponent_rests (forest : d.Forest) (there : d.Current id) (rests : Rests d id) :
    drawComponent draw d id = some d := by
  unfold drawComponent
  split
  · exact drawAs_rests draw forest there (rests.known _ ‹_›)
  · rfl

theorem drawElement_rests (forest : d.Forest) (there : d.Current id) (rests : Rests d id) : drawElement draw d id = some d := by
  cases element : d.isElement id with
  | true =>
    rw [drawElement_eq draw element,drawComponent_rests forest there rests]
    exact congrArg some (applyLayout_rests (rests.shaped element))
  | false => exact if_neg (Bool.eq_false_iff.mp element)

theorem drawComponent_progress (keeps : Keeps draw) (settles : Settles draw) (forest : d.Forest) (top : d.Current root)
    (there : d.Current id) (ran : drawComponent draw d id = some d') :
    Progress (∀ drawing, drawingOf? d id = some drawing → Recognized d id drawing) d d' ∧
      ∀ drawing, drawingOf? d id = some drawing → Drawn d' id drawing := by
  unfold drawComponent at ran
  split at ran
  · rename_i drawing found
    obtain ⟨step,drawn⟩ := drawAs_progress keeps settles forest top there found ran
    rw [found]
    exact ⟨step.mono fun known _ same => Option.some.inj same ▸ known,fun _ same => Option.some.inj same ▸ drawn⟩
  · rename_i none
    cases ran
    rw [none]
    exact ⟨.rest forest nofun,nofun⟩

theorem drawElement_progress (keeps : Keeps draw) (settles : Settles draw) (forest : d.Forest) (top : d.Current root)
    (there : d.Current id) (ran : drawElement draw d id = some d') : Progress (Rests d id) d d' ∧ Settled d' id := by
  cases element : d.isElement id with
  | true =>
    rw [drawElement_eq draw element] at ran
    obtain ⟨e,component,laid⟩ := Option.bind_eq_some_iff.mp ran
    cases laid
    obtain ⟨first,drawn⟩ := drawComponent_progress keeps settles forest top there component
    have here := first.covers.current id there
    have second := applyLayout_progress first.covers.forest here
    obtain ⟨spares,laid⟩ := applyLayout_spares first.covers.forest here
    refine ⟨?_,fun drawing found => ?_,fun _ layout asked => ?_⟩
    · exact (first.trans (Q := fun d => ∀ layout, layoutOf? d id = some layout → Shaped d id layout) second).mono
        fun ⟨known,shaped⟩ => ⟨known,fun _ => shaped⟩
    · rw [drawingOf?_congr (spares.kind id here),drawingOf?_congr (first.covers.kind id there)] at found
      exact (drawn drawing found).later spares here nofun
    · rw [layoutOf?_congr (spares.layout id here)] at asked
      exact laid layout asked
  | false =>
    obtain ⟨settled,rests⟩ := settled_of_other element
    rw [drawElement,if_neg (Bool.eq_false_iff.mp element)] at ran
    cases ran
    exact ⟨.rest forest rests,settled⟩

-- Once an element is settled, the later ones of the list leave it so.
theorem foldlM_settles {R : Dom → Prop} {step : Dom → NodeId → Option Dom} (l : List NodeId) (start : R d₁)
    (forest : ∀ e, R e → e.Forest) (there : ∀ e c, R e → c ∈ l → e.Current c) (each : ∀ e c e', c ∈ l → R e →
      step e c = some e' → R e' ∧ Covers e e' ∧ Settled e' c) (ran : l.foldlM step d₁ = some d₂) :
    R d₂ ∧ Covers d₁ d₂ ∧ ∀ c ∈ l, Settled d₂ c := by
  induction l generalizing d₁ with
  | nil =>
    cases ran
    exact ⟨start,.refl (forest _ start),nofun⟩
  | cons c more ih =>
    rw [List.foldlM_cons] at ran
    obtain ⟨e,first,later⟩ := Option.bind_eq_some_iff.mp ran
    obtain ⟨kept,covers,settled⟩ := each d₁ c e List.mem_cons_self start first
    obtain ⟨kept',covers',rest⟩ := ih kept (fun e c holds inside => there e c holds (List.mem_cons_of_mem _ inside))
      (fun e c e' inside => each e c e' (List.mem_cons_of_mem _ inside)) later
    refine ⟨kept',covers.trans covers',fun x inside => ?_⟩
    rcases List.mem_cons.mp inside with rfl | inside
    · exact covers'.kept x (there e x kept List.mem_cons_self) settled
    · exact rest x inside

theorem drawUnder_settles (depth : Nat) : Settles (drawUnder depth) := by
  induction depth with
  | zero => exact fun _ _ _ _ _ _ ran => nomatch ran
  | succ depth ih =>
    intro d n d' forest top there ran
    have under : ∀ c ∈ d.elementsUnder n, d.Current c := fun c inside => ((forest.mem_elementsUnder there).mp inside).1.1
    obtain ⟨covers,_,settled⟩ := foldlM_settles (R := Covers d) _ (.refl forest) (fun e covers => covers.forest)
      (fun e c covers inside => covers.current c (under c inside)) (fun e c e' inside covers drawn => by
        obtain ⟨step,done⟩ := drawElement_progress (drawUnder_keeps depth) ih covers.forest (covers.current root top)
          (covers.current c (under c inside)) drawn
        exact ⟨covers.trans step.covers,step.covers,done⟩) ran
    refine ⟨covers,fun m current above => ?_⟩
    cases element : d.isElement m with
    | true => exact settled m ((forest.mem_elementsUnder there).mpr ⟨⟨current,above⟩,element⟩)
    | false => exact (settled_of_other (by rw [isElement_congr (covers.kind m current),element])).1

theorem Returns.settled (returns : Returns d d') (forest : d.Forest) (top : d.Current root) (alone : d.parent? root = none)
    (inside : n ∈ d'.elements) : Settled d' n := by
  have adds := returns.adds forest top
  obtain ⟨depth,ran⟩ := returns
  have step : ∀ e c e', c ∈ d.elements → Covers d e ∧ Adds root [] d e →
      (if e.isAttached c then drawElement (drawUnder depth) e c else some e) = some e' →
      (Covers d e' ∧ Adds root [] d e') ∧ Covers e e' ∧ Settled e' c := by
    rintro e c e' inside ⟨covers,adds⟩ drawn
    obtain ⟨⟨there,above⟩,_⟩ := (forest.mem_elementsUnder top).mp inside
    have here := covers.current c there
    rw [if_pos (covers.forest.attached here (adds.above there above))] at drawn
    have root' := covers.current root top
    have keeps := drawUnder_keeps depth
    obtain ⟨step,done⟩ := drawElement_progress keeps (drawUnder_settles depth) covers.forest root' here drawn
    exact ⟨⟨covers.trans step.covers,adds.trans (drawElement_adds keeps covers.forest root' here drawn)⟩,step.covers,done⟩
  obtain ⟨⟨covers,_⟩,_,settled⟩ := foldlM_settles (R := fun e => Covers d e ∧ Adds root [] d e) _
    ⟨.refl forest,.refl forest root⟩ (fun e holds => holds.1.forest)
    (fun e c holds inside => holds.1.current c ((forest.mem_elementsUnder top).mp inside).1.1) step ran
  obtain ⟨⟨current,above⟩,element⟩ := (covers.forest.mem_elementsUnder (covers.current root top)).mp inside
  by_cases old : d.Current n
  · rw [isElement_congr (covers.kind n old)] at element
    exact settled n ((forest.mem_elementsUnder top).mpr ⟨⟨old,adds.above_back alone top old above⟩,element⟩)
  · exact covers.fresh n current old

-- What an element of a drawn page has for a stylesheet to match.
structure Stocked (d : Dom) (n : NodeId) : Prop where
  media : (d.tag? n).any (isOneOf · ["amp-img","amp-anim","amp-video"]) = true →
    d.hasChildWithClass n "i-amphtml-replaced-content" = true
  audio : d.tag? n = some ("amp-audio" : Text) → d.childrenByTag n "audio" ≠ []
  frame : d.tag? n = some ("amp-iframe" : Text) → d.childrenByTag n "i-amphtml-scroll-container" ≠ []
  carousel : d.tag? n = some ("amp-carousel" : Text) → d.hasChildWithClass n "i-amphtml-slides-container" = true ∨
    d.hasChildWithClass n "i-amphtml-scrollable-carousel-container" = true
  fitText : d.tag? n = some ("amp-fit-text" : Text) → d.hasChildWithClass n "i-amphtml-fit-text-content" = true
  lightbox : d.tag? n = some ("amp-image-lightbox" : Text) →
    d.hasChildWithClass n "i-amphtml-image-lightbox-container" = true
  fillBox : d.tag? n = some ("amp-layout" : Text) → (layoutOf? d n).any definesSize = true →
    d.hasChildWithClass n "i-amphtml-fill-content" = true
  layout : ∀ value, d.attribute? n "layout" = some value → trim value ≠ [] → d.hasClass n "i-amphtml-element" = true

theorem Settled.stocked (settled : Settled d n) (element : d.isElement n = true) : Stocked d n := by
  have own : ∀ tag drawing, d.tag? n = some tag → drawing? tag = some drawing → Drawn d n drawing := by
    intro tag drawing named known
    exact settled.drawn drawing (by rw [drawingOf?,named,Option.bind_some,known])
  refine ⟨?_,?_,?_,?_,?_,?_,?_,?_⟩
  · intro named
    rw [Option.any_eq_true] at named
    obtain ⟨tag,found,kind⟩ := named
    simp only [isOneOf,ofStrings,List.map_cons,List.map_nil,List.contains_iff_mem,List.mem_cons,List.not_mem_nil,or_false] at kind
    rcases kind with rfl | rfl | rfl
    · exact own _ .image found (by decide)
    · exact own _ .image found (by decide)
    · exact own _ .video found (by decide)
  · exact fun named => own _ .audio named (by decide)
  · exact fun named => own _ .frame named (by decide)
  · exact fun named => own _ .carousel named (by decide)
  · exact fun named => own _ .fitText named (by decide)
  · exact fun named => own _ .lightbox named (by decide)
  · exact fun named => own _ .fillBox named (by decide)
  · intro value found filled
    refine (settled.laid element (lower (trim value)) (layoutOf?_iff.mpr ⟨value,found,rfl,?_⟩)).known
    rwa [lower,ne_eq,List.map_eq_nil_iff]

theorem page_stocked (source : Text) (returns : Returns (read source) d') (inside : n ∈ d'.elements) : Stocked d' n :=
  (returns.settled (read_forest source) (read_root source) (read_alone source) inside).stocked (List.mem_filter.mp inside).2

def copiedPage : Text := "<amp-accordion><section><amp-img layout=fill>"

-- The image of the section that was copied.
theorem page_stocked_copy : ∃ d', Returns (read copiedPage) d' ∧ ⟨8,0⟩ ∈ d'.elements ∧ Stocked d' ⟨8,0⟩ := by
  have drawn : ((drawPage (read copiedPage)).any fun d => d.elements.contains ⟨8,0⟩) = true := by decide +kernel
  rw [Option.any_eq_true] at drawn
  obtain ⟨d',page,inside⟩ := drawn
  have returns := drawPage_returns page
  have inside := List.contains_iff_mem.mp inside
  exact ⟨d',returns,inside,page_stocked copiedPage returns inside⟩

-- Nothing that is added to a page is taken away again, so drawing leaves it as it is only if each element is left so.
theorem returns_iff_rests (forest : d.Forest) (top : d.Current root) : Returns d d ↔ ∀ n ∈ d.elements, Rests d n := by
  constructor
  · rintro ⟨depth,ran⟩ n inside
    have progress := Progress.foldlM (P := fun e c => e.isAttached c = true → Rests e c) _ forest
      (fun e c e' inside covers drawn => by
        have current := ((forest.mem_elementsUnder top).mp inside).1.1
        split at drawn
        · have step := (drawElement_progress (drawUnder_keeps depth) (drawUnder_settles depth) covers.forest
            (covers.current root top) (covers.current c current) drawn).1
          exact step.mono fun rests _ => rests
        · rename_i loose
          cases drawn
          exact .rest covers.forest fun attached => absurd attached loose) ran
    obtain ⟨⟨current,above⟩,_⟩ := (forest.mem_elementsUnder top).mp inside
    rcases progress.either with ⟨_,rests⟩ | more
    · exact rests n inside (forest.attached current above)
    · exact absurd more Outgrows.irrefl
  · intro rests
    refine ⟨0,foldlM_rests fun c inside => ?_⟩
    have current := ((forest.mem_elementsUnder top).mp inside).1.1
    rw [drawElement_rests forest current (rests c inside),ite_self]

-- What drawing a page a second time goes by: whether the copies are found, and whether a layout can be named by a class.
structure Recognizable (d : Dom) (n : NodeId) : Prop where
  copies : ∀ drawing ∈ copying, drawingOf? d n = some drawing → Recognized d n drawing
  solid : ∀ layout, layoutOf? d n = some layout → ∀ c ∈ layout, isAsciiBlank c = false

theorem Settled.rests_iff (settled : Settled d n) (element : d.isElement n = true) : Rests d n ↔ Recognizable d n := by
  constructor
  · intro rests
    refine ⟨fun drawing _ => rests.known drawing,fun layout asked c inside => ?_⟩
    have named := (rests.shaped element layout asked).classed.named
    obtain ⟨value,_,word⟩ := hasClass_iff.mp named
    exact words_solid word c (List.mem_append_right _ inside)
  · rintro ⟨copies,solid⟩
    refine ⟨fun drawing found => ?_,fun _ layout asked => ?_⟩
    · by_cases copied : drawing ∈ copying
      · exact copies drawing copied found
      · exact (recognized_iff copied).mpr (settled.drawn drawing found)
    · obtain ⟨known,named,sized,ratio⟩ := settled.laid element layout asked
      exact ⟨⟨known,named (solid layout asked),sized⟩,ratio⟩

theorem redrawing_rests_iff (source : Text) (returns : Returns (read source) d') :
    Returns d' d' ↔ ∀ n ∈ d'.elements, Recognizable d' n := by
  have forest := read_forest source
  have top := read_root source
  have adds := returns.adds forest top
  have settled : ∀ n ∈ d'.elements, Settled d' n := fun n => returns.settled forest top (read_alone source)
  rw [returns_iff_rests adds.forest (adds.current root top)]
  exact forall₂_congr fun n inside => (settled n inside).rests_iff (List.mem_filter.mp inside).2

def barePage : Text := "<amp-accordion><section>text</section></amp-accordion>"

-- The section has no element that could be marked, and is copied again.
theorem redrawing_rests_iff_bare : ∃ d', Returns (read barePage) d' ∧ ¬ Returns d' d' := by
  have drawn : ((drawPage (read barePage)).any fun d => decide (⟨4,0⟩ ∈ d.elements ∧ drawingOf? d ⟨4,0⟩ = some .accordion ∧
      d.childrenByTag ⟨4,0⟩ "section" ≠ [] ∧ ∀ s ∈ d.childrenByTag ⟨4,0⟩ "section", isMarked d s = false)) = true := by
    decide +kernel
  rw [Option.any_eq_true] at drawn
  obtain ⟨d',page,holds⟩ := drawn
  obtain ⟨inside,found,sections,unmarked⟩ := of_decide_eq_true holds
  have returns := drawPage_returns page
  refine ⟨d',returns,fun again => ?_⟩
  have known := (redrawing_rests_iff barePage returns).mp again ⟨4,0⟩ inside
  rcases known.copies .accordion (by decide) found with none | ⟨s,listed,marked⟩
  · exact sections none
  · rw [unmarked s listed] at marked
    cases marked

end StyleTrim.Amp
