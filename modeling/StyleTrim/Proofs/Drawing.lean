import StyleTrim.Amp.Page
import StyleTrim.Proofs.Additions
namespace StyleTrim.Amp
open Text Dom
variable {d d₁ d₂ : Dom} {c id m n p player source target track x : NodeId} {held l : List NodeId} {payload : Payload}
  {drawing : Drawing} {tag : Text}

-- Drawing a component only adds to the document.

theorem drawn_cases {c : Bool} {other : Drawing} {rest : Option Drawing}
    (drawn : (if c then some other else rest) = some drawing) : c = true ∧ other = drawing ∨ rest = some drawing := by
  cases c with
  | true => exact .inl ⟨rfl,Option.some.inj drawn⟩
  | false => exact .inr drawn

theorem begins_of_listed {tags : List String} (listed : isOneOf tag tags = true)
    (all : ∀ t ∈ ofStrings tags, ("amp-" : Text) <+: t) : ("amp-" : Text) <+: tag :=
  all tag (List.contains_iff_mem.mp listed)

-- What a component is drawn with is no component.
theorem drawing?_begins (drawn : drawing? tag = some drawing) : ("amp-" : Text) <+: tag := by
  unfold drawing? at drawn
  iterate 11
    rcases drawn_cases drawn with ⟨listed,_⟩ | drawn
    · exact begins_of_listed listed (by decide)
  cases drawn

theorem copyAttributes_adds (source : NodeId) (names : List String) (adds : Adds id held d d₁) (inside : target ∈ held) :
    Adds id held d (copyAttributes source target names d₁) := by
  unfold copyAttributes
  generalize ofStrings names = l
  induction l generalizing d₁ with
  | nil => exact adds
  | cons name more ih =>
    refine ih ?_
    obtain ⟨new,current,_⟩ := adds.loose target inside
    dsimp only
    split
    · exact adds.set current (fun old => absurd old new) _
    · exact adds

theorem drawImage_adds (forest : d.Forest) (there : d.Current id) : Adds id [] d (drawImage d id) := by
  unfold drawImage
  split
  · exact .refl forest _
  · have held := (Adds.refl forest id).elementHeld there "img" [⟨"class",replacedClasses⟩] (by decide)
    have copied := copyAttributes_adds id ["src","srcset","sizes","alt","title"] held List.mem_cons_self
    obtain ⟨new,current,_⟩ := copied.loose _ List.mem_cons_self
    exact (copied.set current (fun old => absurd old new) _).settleLast (.inl rfl)

theorem adoptSources_adds (adds : Adds id held d d₁) (into : player ∈ held) (there : d.Current id)
    (steady : d.tag? id ≠ some ("section" : Text)) : Adds id held d (adoptSources d₁ id player) := by
  have here := adds.current id there
  refine foldl_shift (R := Adds id held d) adds ?_ ((adds.forest.once here).filter _) fun c inside =>
    adds.waiting here c (List.mem_filter.mp inside).1
  intro e c adds current linked
  split
  · refine ⟨adds.shift into current linked ?_,appendChild_leaves adds.forest (adds.loose player into).current current⟩
    rw [adds.tag there]
    exact steady
  · exact ⟨adds,.refl c e⟩

theorem drawVideo_adds (forest : d.Forest) (there : d.Current id) (steady : d.tag? id ≠ some ("section" : Text)) :
    Adds id [] d (drawVideo d id) := by
  unfold drawVideo
  split
  · exact .refl forest _
  · have held := (Adds.refl forest id).elementHeld there "video" [⟨"class",replacedClasses⟩] (by decide)
    have copied := copyAttributes_adds id
      ["src","poster","controls","autoplay","loop","muted","playsinline","preload"] held List.mem_cons_self
    exact (adoptSources_adds copied List.mem_cons_self there steady).settleLast (.inl rfl)

theorem drawAudio_adds (forest : d.Forest) (there : d.Current id) (steady : d.tag? id ≠ some ("section" : Text)) :
    Adds id [] d (drawAudio d id) := by
  unfold drawAudio
  split
  · exact .refl forest _
  · have held := (Adds.refl forest id).elementHeld there "audio" [⟨"controls",[]⟩] (by decide)
    have copied := copyAttributes_adds id ["src","autoplay","loop","muted","preload"] held List.mem_cons_self
    exact (adoptSources_adds copied List.mem_cons_self there steady).settleLast (.inl rfl)

theorem drawFrame_adds (forest : d.Forest) (there : d.Current id) : Adds id [] d (drawFrame d id) := by
  unfold drawFrame
  split
  · exact .refl forest _
  · have scroller := (Adds.refl forest id).elementHeld there scrollerTag [] (by decide)
    have frame := scroller.elementHeld (scroller.current id there) "iframe" [⟨"class","i-amphtml-fill-content"⟩] (by decide)
    have copied := copyAttributes_adds id
      ["src","srcdoc","frameborder","allowfullscreen","sandbox","scrolling"] frame List.mem_cons_self
    exact (copied.settleLast (.inr List.mem_cons_self)).settleLast (.inl rfl)

theorem drawButton_adds (adds : Adds id [] d d₁) (there : d.Current id) (classes label : Text) :
    Adds id [] d (drawButton id classes label d₁) :=
  adds.child (adds.current id there) "div" _ (by decide)

-- A slide moves onto the track, in a box of its own or as it is.
theorem placeSlide_leaves (oneAtATime : Bool) (forest : d.Forest) (there : d.Current track) (current : d.Current c) :
    Leaves c d (placeSlide oneAtATime track d c) := by
  have left := addClass_leaves d c "amp-carousel-slide" c
  have forest' := addClass_forest forest c "amp-carousel-slide"
  unfold placeSlide
  generalize d.addClass c "amp-carousel-slide" = e at left forest'
  have there := left.current track there
  have current := left.current c current
  split
  · have created := create_created forest' (.element "div" [⟨"class","i-amphtml-slide-item"⟩])
    have forest'' := create_forest forest' (.element "div" [⟨"class","i-amphtml-slide-item"⟩])
    have made := left.trans (create_leaves forest' (.element "div" [⟨"class","i-amphtml-slide-item"⟩]) c) (.inl rfl)
    have item := (created.current _).mpr (.inr rfl)
    have slide := (created.current c).mpr (.inl current)
    have moved := made.trans (appendChild_leaves forest'' item slide) (.inl rfl)
    refine moved.trans (appendChild_leaves (appendChild_forest forest'' item slide) ?_ ?_) (.inr ?_)
    · exact (appendChild_current _ _ _ _).mpr ((created.current track).mpr (.inl there))
    · exact (appendChild_current _ _ _ _).mpr item
    · exact fun old => created.fresh _ (left.current _ old) rfl
  · exact left.trans (appendChild_leaves forest' there current) (.inl rfl)

theorem placeSlide_adds (oneAtATime : Bool) (adds : Adds id [track] d d₁) (there : d.Current id)
    (steady : d.tag? id ≠ some ("section" : Text)) (current : d₁.Current c) (linked : d₁.parent? c = some id) :
    Adds id [track] d (placeSlide oneAtATime track d₁ c) := by
  have marked := adds.addClass current "amp-carousel-slide"
  have linked' := (addClass_parent? d₁ c c "amp-carousel-slide").trans linked
  have current' := (addClass_leaves d₁ c "amp-carousel-slide" c).current c current
  have host : ∀ e held, Adds id held d e → e.tag? id ≠ some ("section" : Text) := by
    intro e held adds
    rw [adds.tag there]
    exact steady
  unfold placeSlide
  generalize d₁.addClass c "amp-carousel-slide" = e at marked linked' current'
  split
  · have created := create_created marked.forest (.element "div" [⟨"class","i-amphtml-slide-item"⟩])
    have item := marked.elementHeld (marked.current id there) "div" [⟨"class","i-amphtml-slide-item"⟩] (by decide)
    have shifted := item.shift List.mem_cons_self ((created.current c).mpr (.inl current'))
      ((created.parent c current').trans linked') (host _ _ item)
    exact shifted.settleLast (.inr List.mem_cons_self)
  · exact marked.shift List.mem_cons_self current' linked' (host _ _ marked)

theorem drawCarousel_adds (forest : d.Forest) (there : d.Current id) (steady : d.tag? id ≠ some ("section" : Text)) :
    Adds id [] d (drawCarousel d id) := by
  unfold drawCarousel
  split
  · exact .refl forest _
  · extract_lets oneAtATime loops slides back
    generalize (if oneAtATime then _ else _ : List Attribute) = attributes
    have created := create_created forest (.element "div" attributes)
    have held := (Adds.refl forest id).elementHeld there "div" attributes (by decide)
    have waiting : ∀ c ∈ slides, (d.createElement "div" attributes).1.Current c ∧
        (d.createElement "div" attributes).1.parent? c = some id := by
      intro c inside
      have child := (List.mem_filter.mp (List.mem_filter.mp inside).1).1
      obtain ⟨current,linked⟩ := forest.down there child
      exact ⟨(created.current c).mpr (.inl current),(created.parent c current).trans linked⟩
    have once : slides.Nodup := ((forest.once there).filter _).filter _
    have placed := foldl_shift (R := Adds id [_] d) held
      (fun e c adds current linked => ⟨placeSlide_adds oneAtATime adds there steady current linked,
        placeSlide_leaves oneAtATime adds.forest (adds.loose _ List.mem_cons_self).current current⟩) once waiting
    have settled := placed.settleLast (p := id) (.inl rfl)
    exact drawButton_adds (drawButton_adds settled there _ _) there _ _

theorem drawFillBox_adds (forest : d.Forest) (there : d.Current id) (steady : d.tag? id ≠ some ("section" : Text)) :
    Adds id [] d (drawFillBox d id) := by
  unfold drawFillBox
  split
  · exact .refl forest _
  · have held := (Adds.refl forest id).elementHeld there "div" [⟨"class","i-amphtml-fill-content"⟩] (by decide)
    exact (held.gather List.mem_cons_self there steady).settleLast (.inl rfl)

theorem drawFitText_adds (forest : d.Forest) (there : d.Current id) (steady : d.tag? id ≠ some ("section" : Text)) :
    Adds id [] d (drawFitText d id) := by
  unfold drawFitText
  split
  · exact .refl forest _
  · have content := (Adds.refl forest id).elementHeld there "div" [⟨"class","i-amphtml-fit-text-content"⟩]
      (by decide)
    have inner := content.elementHeld (content.current id there) "div" [⟨"class","i-amphtml-fit-text-content-inner"⟩]
      (by decide)
    have gathered := inner.gather List.mem_cons_self there steady
    exact (gathered.settleLast (.inr List.mem_cons_self)).settleLast (.inl rfl)

theorem drawLightbox_adds (forest : d.Forest) (there : d.Current id) : Adds id [] d (drawLightbox d id) := by
  unfold drawLightbox
  split
  · exact .refl forest _
  · extract_lets name
    have container := (Adds.refl forest id).elementHeld there "div"
      [⟨"class","i-amphtml-image-lightbox-container"⟩] (by decide)
    have viewer := container.elementHeld (container.current id there) "div"
      [⟨"class","i-amphtml-image-lightbox-viewer"⟩] (by decide)
    have image := viewer.elementHeld (viewer.current id there) "img"
      [⟨"class","i-amphtml-image-lightbox-viewer-image"⟩,⟨"src",[]⟩] (by decide)
    have shown := (image.settleLast (.inr List.mem_cons_self)).settleLast (.inr List.mem_cons_self)
    have caption := shown.elementHeld (shown.current id there) "div"
      [⟨"class","i-amphtml-image-lightbox-caption amp-image-lightbox-caption"⟩,⟨"id",name⟩] (by decide)
    have told := caption.settleLast (.inr List.mem_cons_self)
    have close := told.elementHeld (told.current id there) "button"
      [⟨"class","i-amphtml-screen-reader"⟩,⟨"aria-label","Close the lightbox"⟩] (by decide)
    exact ((close.swap (.swap _ _ [])).settleLast (.inl rfl)).settleLast (.inl rfl)

theorem ratioSizer_adds (adds : Adds id [] d d₁) (there : d₁.Current id) :
    Adds id [] d ((ratioSizer d₁ id).1.prependChild id (ratioSizer d₁ id).2) :=
  (adds.elementHeld there sizerTag [⟨"class",sizerTag⟩,⟨"style",ratioStyle d₁ id⟩] (by decide)).settleFirst

theorem imageSizer_adds (adds : Adds id [] d d₁) (there : d₁.Current id) :
    Adds id [] d ((imageSizer d₁ id).1.prependChild id (imageSizer d₁ id).2) := by
  have sizer := adds.elementHeld there sizerTag [⟨"class",sizerTag⟩] (by decide)
  have image := sizer.elementHeld (sizer.target (by simp)) "img" [⟨"alt",[]⟩,⟨"aria-hidden","true"⟩,
    ⟨"class","i-amphtml-intrinsic-sizer"⟩,⟨"role","presentation"⟩,⟨"src",blankImage d₁ id⟩] (by decide)
  exact (image.settleLast (.inr List.mem_cons_self)).settleFirst

theorem applyLayout_adds (forest : d.Forest) (there : d.Current id) : Adds id [] d (applyLayout d id) := by
  unfold applyLayout
  split
  · exact .refl forest _
  · rename_i layout _
    have known := (Adds.refl forest id).addClass there "i-amphtml-element"
    have named := known.addClass (known.current id there) (("i-amphtml-layout-" : Text) ++ layout)
    extract_lets plain sizedBox
    have sized : Adds id [] d sizedBox := by
      simp only [sizedBox]
      split
      · exact named.addClass (named.current id there) _
      · exact named
    clear_value sizedBox
    have here := sized.current id there
    split
    · exact sized
    · split
      · exact ratioSizer_adds sized here
      · split
        · exact imageSizer_adds sized here
        · exact sized

end StyleTrim.Amp
