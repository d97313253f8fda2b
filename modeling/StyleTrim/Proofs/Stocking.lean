import StyleTrim.Proofs.Drawing
import StyleTrim.Proofs.Sparing
namespace StyleTrim.Amp
open Text Dom
variable {d d' d₁ d₂ : Dom} {c host id m n p player source target track x : NodeId} {host? : Option NodeId} {l : List NodeId}
  {drawing : Drawing} {layout name : Text} {New : Option NodeKind → Option Text → Prop}

-- What a component has that was drawn and laid out, and that drawing it leaves it so.

def kindDrawing? : NodeKind → Option Drawing
  | .element tag => drawing? tag
  | _ => none

theorem drawingOf?_kind (d : Dom) (n : NodeId) : drawingOf? d n = (d.kind? n).bind kindDrawing? := by
  rw [drawingOf?,tag?,kind?]
  cases d.node? n with
  | none => rfl
  | some payload =>
    obtain ⟨kind,attributes⟩ := payload
    cases kind <;> rfl

theorem drawingOf?_congr (same : d'.kind? m = d.kind? n) : drawingOf? d' m = drawingOf? d n := by
  rw [drawingOf?_kind,same,drawingOf?_kind]

theorem layoutOf?_congr (same : d'.attribute? m "layout" = d.attribute? n "layout") : layoutOf? d' m = layoutOf? d n := by
  rw [layoutOf?,same,layoutOf?]

theorem layoutOf?_iff : layoutOf? d n = some layout ↔
    ∃ value, d.attribute? n "layout" = some value ∧ layout = lower (trim value) ∧ layout ≠ [] := by
  rw [layoutOf?,Option.filter_eq_some_iff,Option.map_eq_some_iff]
  constructor
  · rintro ⟨⟨value,found,rfl⟩,filled⟩
    exact ⟨value,found,rfl,by simpa using filled⟩
  · rintro ⟨value,found,rfl,filled⟩
    exact ⟨⟨value,found,rfl⟩,by simpa using filled⟩

-- Of what the runtime makes by itself nothing has to be drawn or laid out.
def Inert (kind : Option NodeKind) (layout : Option Text) : Prop := kind.bind kindDrawing? = none ∧ layout = none

theorem admits_plain {tag : Text} {attributes : List Attribute} (plain : ¬ ("amp-" : Text) <+: tag)
    (free : attributes.find? (·.name == ("layout" : Text)) = none) : Admits Inert (.element tag attributes) := by
  refine ⟨?_,congrArg (Option.map Attribute.value) free⟩
  cases found : drawing? tag with
  | none => exact found
  | some drawing => exact absurd (drawing?_begins found) plain

-- What tells a drawing that it was carried out. Copies are told apart in other ways.
def Drawn (d : Dom) (n : NodeId) : Drawing → Prop
  | .image | .video => d.hasChildWithClass n replacedMark = true
  | .audio => d.childrenByTag n "audio" ≠ []
  | .frame => d.childrenByTag n scrollerTag ≠ []
  | .carousel => d.hasChildWithClass n slideTrack = true ∨ d.hasChildWithClass n scrollTrack = true
  | .fillBox => (layoutOf? d n).any definesSize = true → d.hasChildWithClass n "i-amphtml-fill-content" = true
  | .fitText => d.hasChildWithClass n "i-amphtml-fit-text-content" = true
  | .lightbox => d.hasChildWithClass n "i-amphtml-image-lightbox-container" = true
  | .accordion | .sidebar | .items => True

-- A class can only be named after a layout that has no whitespace in it.
structure LaidOut (d : Dom) (n : NodeId) (layout : Text) : Prop where
  known : d.hasClass n "i-amphtml-element" = true
  named : (∀ c ∈ layout, isAsciiBlank c = false) → d.hasClass n ("i-amphtml-layout-" ++ layout) = true
  sized : definesSize layout = true → d.hasClass n "i-amphtml-layout-size-defined" = true
  ratio : isOneOf layout ["responsive","intrinsic"] = true → hasSizer d n = true

structure Settled (d : Dom) (n : NodeId) : Prop where
  drawn : ∀ drawing, drawingOf? d n = some drawing → Drawn d n drawing
  laid : d.isElement n = true → ∀ layout, layoutOf? d n = some layout → LaidOut d n layout

theorem Inert.settled (inert : Inert (d.kind? n) (d.attribute? n "layout")) : Settled d n := by
  refine ⟨fun drawing found => ?_,fun _ layout found => ?_⟩
  · rw [drawingOf?_kind,inert.1] at found
    cases found
  · obtain ⟨value,some,_⟩ := layoutOf?_iff.mp found
    rw [inert.2] at some
    cases some

theorem hasSizer_iff (d : Dom) (n : NodeId) :
    hasSizer d n = true ↔ d.childrenByTag n sizerTag ≠ [] ∨ d.hasChildWithClass n sizerTag = true := by
  rw [hasSizer,Bool.or_eq_true,List.any_eq_true]
  refine or_congr_left ⟨?_,?_⟩
  · rintro ⟨c,inside,named⟩
    rw [decide_eq_true_eq] at named
    exact List.ne_nil_of_mem (mem_childrenByTag.mpr ⟨(mem_elementChildren.mp inside).1,named⟩)
  · intro some
    obtain ⟨c,inside⟩ := List.exists_mem_of_ne_nil _ some
    obtain ⟨child,named⟩ := mem_childrenByTag.mp inside
    exact ⟨c,mem_elementChildren.mpr ⟨child,by rw [isElement,named]; rfl⟩,decide_eq_true named⟩

theorem Drawn.later (drawn : Drawn d n drawing) (spares : Spares host? New d d') (there : d.Current n)
    (apart : some n ≠ host?) : Drawn d' n drawing := by
  cases drawing with
  | image | video => exact spares.hasChildWithClass there apart (by decide) drawn
  | audio => exact spares.childrenByTag there apart drawn
  | frame => exact spares.childrenByTag there apart drawn
  | carousel =>
    exact drawn.imp (spares.hasChildWithClass there apart (by decide)) (spares.hasChildWithClass there apart (by decide))
  | fillBox =>
    intro sized
    rw [layoutOf?_congr (spares.layout n there)] at sized
    exact spares.hasChildWithClass there apart (by decide) (drawn sized)
  | fitText => exact spares.hasChildWithClass there apart (by decide) drawn
  | lightbox => exact spares.hasChildWithClass there apart (by decide) drawn
  | accordion | sidebar | items => trivial

theorem layoutClass_token (asked : layoutOf? d n = some layout) (solid : ∀ c ∈ layout, isAsciiBlank c = false) :
    Token ("i-amphtml-layout-" ++ layout) := by
  obtain ⟨value,_,rfl,_⟩ := layoutOf?_iff.mp asked
  exact Token.append (by decide) solid (lower_trim_last value)

theorem LaidOut.later (laid : LaidOut d n layout) (asked : layoutOf? d n = some layout) (spares : Spares host? New d d')
    (there : d.Current n) (apart : some n ≠ host?) : LaidOut d' n layout := by
  refine ⟨?_,?_,?_,?_⟩
  · exact spares.classes n _ there (by decide) laid.known
  · intro solid
    exact spares.classes n _ there (layoutClass_token asked solid) (laid.named solid)
  · intro sized
    exact spares.classes n _ there (by decide) (laid.sized sized)
  · intro ratio
    refine (hasSizer_iff d' n).mpr (((hasSizer_iff d n).mp (laid.ratio ratio)).imp ?_ ?_)
    · exact spares.childrenByTag there apart
    · exact spares.hasChildWithClass there apart (by decide)

theorem Settled.later (settled : Settled d n) (spares : Spares host? New d d') (there : d.Current n)
    (apart : some n ≠ host?) : Settled d' n := by
  refine ⟨fun drawing found => ?_,fun element layout asked => ?_⟩
  · rw [drawingOf?_congr (spares.kind n there)] at found
    exact (settled.drawn drawing found).later spares there apart
  · rw [isElement_congr (spares.kind n there)] at element
    rw [layoutOf?_congr (spares.layout n there)] at asked
    exact (settled.laid element layout asked).later asked spares there apart

-- A drawing is carried out once, and what is not drawn yet loses nothing else by it.
structure Fills (d d' : Dom) (id : NodeId) (drawing : Drawing) : Prop where
  rests : Drawn d id drawing → d' = d
  spares : ¬ Drawn d id drawing → Spares (some id) Inert d d'
  grown : ¬ Drawn d id drawing → ∃ m, d'.Current m ∧ ¬ d.Current m
  drawn : Drawn d' id drawing

theorem Fills.still (drawn : Drawn d id drawing) : Fills d d id drawing :=
  ⟨fun _ => rfl,fun bare => absurd drawn bare,fun bare => absurd drawn bare,drawn⟩

theorem Fills.fresh (bare : ¬ Drawn d id drawing) (spares : Spares (some id) Inert d d') (current : d'.Current c)
    (new : ¬ d.Current c) (drawn : Drawn d' id drawing) : Fills d d' id drawing :=
  ⟨fun drawn => absurd drawn bare,fun _ => spares,fun _ => ⟨c,current,new⟩,drawn⟩

theorem Fills.hang {payload : Payload} (bare : ¬ Drawn d id drawing) (forest : d.Forest) (there : d.Current id)
    (inert : Admits Inert payload) (filled : Spares (some id) Inert (d.create payload).1 d₁)
    (drawn : ∀ d', d'.Forest → Placed id payload d' (d.create payload).2 → Drawn d' id drawing) :
    Fills d (d₁.appendChild id (d.create payload).2) id drawing := by
  obtain ⟨spares,placed⟩ := Spares.hang forest there inert filled
  exact .fresh bare spares placed.current (made_absent forest payload) (drawn _ spares.forest placed)

theorem copyAttributes_spares (source target : NodeId) {names : List String}
    (plain : ("layout" : Text) ∉ ofStrings names ∧ ("class" : Text) ∉ ofStrings names) (spares : Spares host? New d d₁) :
    Spares host? New d (copyAttributes source target names d₁) := by
  obtain ⟨noLayout,noClass⟩ := plain
  unfold copyAttributes
  generalize ofStrings names = l at noLayout noClass ⊢
  induction l generalizing d₁ with
  | nil => exact spares
  | cons name more ih =>
    rw [List.mem_cons,not_or] at noLayout noClass
    refine ih ?_ noLayout.2 noClass.2
    dsimp only
    split
    · exact spares.set noLayout.1 noClass.1 _
    · exact spares

theorem copyAttributes_current (source target : NodeId) (names : List String) (d : Dom) :
    (copyAttributes source target names d).Current m ↔ d.Current m := by
  unfold copyAttributes
  generalize ofStrings names = l
  induction l generalizing d with
  | nil => rfl
  | cons name more ih =>
    rw [List.foldl_cons,ih]
    split
    · exact edit_current
    · rfl

theorem adoptSources_spares (spares : Spares (some id) New d d₁) (there : d₁.Current player) :
    Spares (some id) New d (adoptSources d₁ id player) := by
  have here := spares.current id (spares.line id rfl).1
  refine (foldl_shift (R := fun e => Spares (some id) New d e ∧ e.Current player) ⟨spares,there⟩ ?_
    ((spares.forest.once here).filter _) fun c inside => spares.forest.down here (List.mem_filter.mp inside).1).1
  rintro e c ⟨spares,there⟩ current linked
  split
  · exact ⟨⟨spares.append there current fun _ => linked,(appendChild_current e player c player).mpr there⟩,
      appendChild_leaves spares.forest there current⟩
  · exact ⟨⟨spares,there⟩,.refl c e⟩

theorem drawImage_fills (forest : d.Forest) (there : d.Current id) : Fills d (drawImage d id) id .image := by
  unfold drawImage
  split
  · exact .still ‹_›
  · rename_i bare
    refine .hang bare forest there (admits_plain (by decide) rfl) ?_ fun _ forest placed => placed.hasChildWithClass forest rfl (by decide) rfl
    exact (copyAttributes_spares id _ (by decide) (.opened forest there _)).set (by decide) (by decide) "async"

theorem drawVideo_fills (forest : d.Forest) (there : d.Current id) : Fills d (drawVideo d id) id .video := by
  unfold drawVideo
  split
  · exact .still ‹_›
  · rename_i bare
    refine .hang bare forest there (admits_plain (by decide) rfl) ?_ fun _ forest placed => placed.hasChildWithClass forest rfl (by decide) rfl
    refine adoptSources_spares (copyAttributes_spares id _ (by decide) (.opened forest there _)) ?_
    exact (copyAttributes_current id _ _ _).mpr (made_current forest _)

theorem not_isEmpty {l : List NodeId} : (!l.isEmpty) = true ↔ l ≠ [] := by simp

theorem drawAudio_fills (forest : d.Forest) (there : d.Current id) : Fills d (drawAudio d id) id .audio := by
  unfold drawAudio
  split
  · exact .still (not_isEmpty.mp ‹_›)
  · rename_i bare
    refine .hang (fun drawn => bare (not_isEmpty.mpr drawn)) forest there (admits_plain (by decide) rfl) ?_ fun _ forest placed =>
      placed.childrenByTag forest rfl
    refine adoptSources_spares (copyAttributes_spares id _ (by decide) (.opened forest there _)) ?_
    exact (copyAttributes_current id _ _ _).mpr (made_current forest _)

theorem drawFrame_fills (forest : d.Forest) (there : d.Current id) : Fills d (drawFrame d id) id .frame := by
  unfold drawFrame
  split
  · exact .still (not_isEmpty.mp ‹_›)
  · rename_i bare
    refine .hang (fun drawn => bare (not_isEmpty.mpr drawn)) forest there (admits_plain (by decide) rfl) ?_ fun _ forest placed =>
      placed.childrenByTag forest rfl
    refine (Spares.opened forest there _).nest (made_current forest _) (admits_plain (by decide) rfl) ?_
    exact copyAttributes_spares id _ (by decide) (.opened (create_forest forest _) (made_keeps forest _ there) _)

theorem drawButton_spares (spares : Spares host? Inert d d₁) (there : d₁.Current id) (classes label : Text) :
    Spares host? Inert d (drawButton id classes label d₁) := spares.child there _ (admits_plain (by decide) rfl)

theorem drawButtons_spares (spares : Spares host? Inert d d₁) (there : d₁.Current id) (first second : Text × Text) :
    Spares host? Inert d (drawButton id second.1 second.2 (drawButton id first.1 first.2 d₁)) := by
  have beside : Spares none Inert d₁ _ := drawButton_spares (.still spares.forest) there first.1 first.2
  exact drawButton_spares (drawButton_spares spares there _ _) (beside.current id there) _ _

theorem placeSlide_spares (oneAtATime : Bool) (spares : Spares (some id) Inert d d₁) (there : d₁.Current track)
    (current : d₁.Current c) (linked : d₁.parent? c = some id) :
    Spares (some id) Inert d (placeSlide oneAtATime track d₁ c) := by
  have marked := spares.addClass current "amp-carousel-slide"
  have linked' := (addClass_parent? d₁ c c "amp-carousel-slide").trans linked
  have left := addClass_leaves d₁ c "amp-carousel-slide" c
  have there' := left.current track there
  have current' := left.current c current
  unfold placeSlide
  generalize d₁.addClass c "amp-carousel-slide" = e at marked linked' there' current'
  split
  · refine marked.nest there' (admits_plain (by decide) rfl) ?_
    have host := marked.current id (marked.line id rfl).1
    refine (Spares.opened marked.forest host _).append (made_current marked.forest _) (made_keeps marked.forest _ current') fun _ => ?_
    exact ((create_created marked.forest _).parent c current').trans linked'
  · exact marked.append there' current' fun _ => linked'

-- The slides are placed while the track stands alone.
theorem placeSlides_spares (oneAtATime : Bool) (spares : Spares (some id) Inert d d₁) (there : d₁.Current track)
    (once : l.Nodup) (waiting : ∀ c ∈ l, d₁.Current c ∧ d₁.parent? c = some id) :
    Spares (some id) Inert d (l.foldl (placeSlide oneAtATime track) d₁) := by
  refine (foldl_shift (R := fun e => Spares (some id) Inert d e ∧ e.Current track) ⟨spares,there⟩ ?_ once waiting).1
  rintro e c ⟨spares,there⟩ current linked
  have leaves := placeSlide_leaves oneAtATime spares.forest there current
  exact ⟨⟨placeSlide_spares oneAtATime spares there current linked,leaves.current track there⟩,leaves⟩

theorem drawCarousel_fills (forest : d.Forest) (there : d.Current id) : Fills d (drawCarousel d id) id .carousel := by
  unfold drawCarousel
  split
  · exact .still (Bool.or_eq_true_iff.mp ‹_›)
  · rename_i bare
    extract_lets oneAtATime loops slides back
    generalize chosen : (if oneAtATime then _ else _ : List Attribute) = attributes
    have inert : Admits Inert (.element "div" attributes) := by
      rw [← chosen]
      cases oneAtATime <;> exact admits_plain (by decide) rfl
    have marks : declares (.element "div" attributes) slideTrack = true ∨
        declares (.element "div" attributes) scrollTrack = true := by
      rw [← chosen]
      cases oneAtATime
      · exact .inr rfl
      · exact .inl rfl
    have waiting : ∀ c ∈ slides, (d.createElement "div" attributes).1.Current c ∧
        (d.createElement "div" attributes).1.parent? c = some id := by
      intro c inside
      obtain ⟨current,linked⟩ := forest.down there (List.mem_filter.mp (List.mem_filter.mp inside).1).1
      exact ⟨made_keeps forest _ current,((create_created forest _).parent c current).trans linked⟩
    have filled := placeSlides_spares oneAtATime (Spares.opened forest there (.element "div" attributes))
      (made_current forest _) (((forest.once there).filter _).filter _) waiting
    obtain ⟨spares,placed⟩ := Spares.hang forest there inert filled
    have drawn : Drawn _ id .carousel := marks.imp (placed.hasChildWithClass spares.forest rfl (by decide))
      (placed.hasChildWithClass spares.forest rfl (by decide))
    have here := spares.current id there
    -- The buttons leave the track where it is.
    have buttons : ∀ first second, Spares none Inert _ _ := drawButtons_spares (.still spares.forest) here
    exact .fresh (fun drawn => bare (Bool.or_eq_true_iff.mpr drawn)) (drawButtons_spares spares here (_,_) (_,_))
      ((buttons (_,_) (_,_)).current _ placed.current) (made_absent forest _) (drawn.later (buttons (_,_) (_,_)) here nofun)

theorem drawFillBox_fills (forest : d.Forest) (there : d.Current id) : Fills d (drawFillBox d id) id .fillBox := by
  unfold drawFillBox
  split
  · rename_i done
    refine .still fun sized => ?_
    simpa [sized] using done
  · rename_i bare
    rw [Bool.or_eq_true,not_or] at bare
    refine .hang (fun drawn => bare.2 (drawn ?_)) forest there (admits_plain (by decide) rfl) ?_ fun _ forest placed _ =>
      placed.hasChildWithClass forest rfl (by decide) rfl
    · simpa using bare.1
    · exact (Spares.opened forest there _).gather (made_current forest _)

theorem drawFitText_fills (forest : d.Forest) (there : d.Current id) : Fills d (drawFitText d id) id .fitText := by
  unfold drawFitText
  split
  · exact .still ‹_›
  · rename_i bare
    refine .hang bare forest there (admits_plain (by decide) rfl) ?_ fun _ forest placed => placed.hasChildWithClass forest rfl (by decide) rfl
    refine (Spares.opened forest there _).nest (made_current forest _) (admits_plain (by decide) rfl) ?_
    have forest' := create_forest forest (.element "div" [⟨"class","i-amphtml-fit-text-content"⟩])
    exact (Spares.opened forest' (made_keeps forest _ there) _).gather (made_current forest' _)

-- The button stands alone until the container is in its place.
theorem drawLightbox_fills (forest : d.Forest) (there : d.Current id) : Fills d (drawLightbox d id) id .lightbox := by
  unfold drawLightbox
  split
  · exact .still ‹_›
  · rename_i bare
    extract_lets name
    have opened : Spares (some id) Inert _ _ :=
      .opened forest there (.element "div" [⟨"class","i-amphtml-image-lightbox-container"⟩])
    have container := made_current forest (.element "div" [⟨"class","i-amphtml-image-lightbox-container"⟩])
    have viewer : Spares (some id) Inert _ _ := .opened opened.forest (made_keeps forest _ there)
      (.element "div" [⟨"class","i-amphtml-image-lightbox-viewer"⟩])
    have shown := opened.nest container (admits_plain (by decide) rfl) (viewer.child (made_current opened.forest _)
      (.element "img" [⟨"class","i-amphtml-image-lightbox-viewer-image"⟩,⟨"src",[]⟩]) (admits_plain (by decide) rfl))
    have told := shown.child (shown.current _ container)
      (.element "div" [⟨"class","i-amphtml-image-lightbox-caption amp-image-lightbox-caption"⟩,⟨"id",name⟩]) (admits_plain (by decide) rfl)
    obtain ⟨spares,placed⟩ := Spares.hangBoth (.element "button"
      [⟨"class","i-amphtml-screen-reader"⟩,⟨"aria-label","Close the lightbox"⟩]) forest there told (admits_plain (by decide) rfl) (admits_plain (by decide) rfl) rfl
    exact .fresh bare spares placed.current (made_absent forest _) (placed.hasChildWithClass spares.forest rfl (by decide) rfl)

def addSizer (d : Dom) (id : NodeId) (layout : Text) : Dom :=
  if hasSizer d id then d
  else if isOneOf layout ["responsive"] then
    let (d,sizer) := ratioSizer d id
    d.prependChild id sizer
  else if isOneOf layout ["intrinsic"] then
    let (d,sizer) := imageSizer d id
    d.prependChild id sizer
  else d

def addLayoutClasses (d : Dom) (id : NodeId) (layout : Text) : Dom :=
  let d := (d.addClass id "i-amphtml-element").addClass id (("i-amphtml-layout-" : Text) ++ layout)
  if definesSize layout then d.addClass id "i-amphtml-layout-size-defined" else d

theorem applyLayout_eq (d : Dom) (id : NodeId) :
    applyLayout d id = match layoutOf? d id with
      | none => d
      | some layout => addSizer (addLayoutClasses d id layout) id layout := rfl

-- A sizer is put in front of the other children, which stay.
theorem sizer_spares (payload : Payload) (forest : d.Forest) (there : d.Current id) (inert : Admits Inert payload)
    (sizer : payload.tag? = some sizerTag) (filled : ∀ host? : Option NodeId, (∀ h ∈ host?, (d.create payload).1.Current h) →
      Spares host? Inert (d.create payload).1 d₁) :
    Spares none Inert d (d₁.prependChild id (d.create payload).2) ∧
      hasSizer (d₁.prependChild id (d.create payload).2) id = true ∧
      ∃ m, (d₁.prependChild id (d.create payload).2).Current m ∧ ¬ d.Current m := by
  have absent := made_absent forest payload
  have hosted := filled (some id) fun h same => by cases same; exact made_keeps forest payload there
  obtain ⟨spares,placed⟩ := Spares.hangFirst forest there inert hosted
  have alone := filled none nofun
  have whole := ((Spares.still forest).create payload inert).trans alone
  refine ⟨whole.prepend (whole.current id there) (alone.current _ (made_current forest payload)) ?_,?_,_,placed.current,absent⟩
  · exact fun old => absurd old absent
  · exact (hasSizer_iff _ id).mpr (.inl (placed.childrenByTag spares.forest sizer))

theorem addSizer_spares (forest : d.Forest) (there : d.Current id) (layout : Text) :
    Spares none Inert d (addSizer d id layout) ∧
      (isOneOf layout ["responsive","intrinsic"] = true → hasSizer (addSizer d id layout) id = true) ∧
      (addSizer d id layout = d ∨ ∃ m, (addSizer d id layout).Current m ∧ ¬ d.Current m) := by
  unfold addSizer
  split
  · exact ⟨.still forest,fun _ => ‹_›,.inl rfl⟩
  · split
    · obtain ⟨spares,has,new⟩ := sizer_spares (.element sizerTag [⟨"class",sizerTag⟩,⟨"style",ratioStyle d id⟩]) forest there
        (admits_plain (by decide) rfl) rfl fun host? hosts => .refl (create_forest forest _) hosts
      exact ⟨spares,fun _ => has,.inr new⟩
    · rename_i notFirst
      split
      · obtain ⟨spares,has,new⟩ := sizer_spares (.element sizerTag [⟨"class",sizerTag⟩]) forest there (admits_plain (by decide) rfl) rfl
          fun host? hosts => (Spares.refl (create_forest forest _) hosts).child (made_current forest _)
            (.element "img" [⟨"alt",[]⟩,⟨"aria-hidden","true"⟩,⟨"class","i-amphtml-intrinsic-sizer"⟩,
              ⟨"role","presentation"⟩,⟨"src",blankImage d id⟩]) (admits_plain (by decide) rfl)
        exact ⟨spares,fun _ => has,.inr new⟩
      · rename_i notSecond
        refine ⟨.still forest,fun either => ?_,.inl rfl⟩
        have cases : isOneOf layout ["responsive"] = true ∨ isOneOf layout ["intrinsic"] = true := by
          simpa [isOneOf,ofStrings] using either
        exact absurd cases (not_or.mpr ⟨notFirst,notSecond⟩)

-- Each class is still there when the next ones have been added.
theorem addLayoutClasses_spares (forest : d.Forest) (there : d.Current id) (asked : layoutOf? d id = some layout) :
    Spares none Inert d (addLayoutClasses d id layout) ∧
      (addLayoutClasses d id layout).hasClass id "i-amphtml-element" = true ∧
      ((∀ c ∈ layout, isAsciiBlank c = false) →
        (addLayoutClasses d id layout).hasClass id ("i-amphtml-layout-" ++ layout) = true) ∧
      (definesSize layout = true → (addLayoutClasses d id layout).hasClass id "i-amphtml-layout-size-defined" = true) := by
  have first : Spares none Inert d (d.addClass id "i-amphtml-element") := (Spares.still forest).addClass there _
  have known : (d.addClass id "i-amphtml-element").hasClass id "i-amphtml-element" = true := addClass_gives there (by decide)
  unfold addLayoutClasses
  generalize d.addClass id "i-amphtml-element" = e₁ at first known
  have there₁ := first.current id there
  have second : Spares none Inert e₁ (e₁.addClass id ("i-amphtml-layout-" ++ layout)) := (Spares.still first.forest).addClass there₁ _
  have named := fun solid => addClass_gives there₁ (layoutClass_token asked solid)
  generalize e₁.addClass id ("i-amphtml-layout-" ++ layout) = e₂ at second named
  have there₂ := second.current id there₁
  have third : Spares none Inert e₂ (if definesSize layout then e₂.addClass id "i-amphtml-layout-size-defined" else e₂) := by
    split
    · exact (Spares.still second.forest).addClass there₂ _
    · exact .still second.forest
  refine ⟨(first.trans second).trans third,?_,?_,?_⟩
  · exact (second.trans third).classes id _ there₁ (by decide) known
  · intro solid
    exact third.classes id _ there₂ (layoutClass_token asked solid) (named solid)
  · intro sized
    rw [if_pos sized]
    exact addClass_gives there₂ (by decide)

theorem applyLayout_spares (forest : d.Forest) (there : d.Current id) : Spares none Inert d (applyLayout d id) ∧
    ∀ layout, layoutOf? d id = some layout → LaidOut (applyLayout d id) id layout := by
  rw [applyLayout_eq]
  cases asked : layoutOf? d id with
  | none => exact ⟨.still forest,nofun⟩
  | some layout =>
    obtain ⟨classed,known,named,sized⟩ := addLayoutClasses_spares forest there asked
    have here := classed.current id there
    obtain ⟨filled,ratio,_⟩ := addSizer_spares classed.forest here layout
    refine ⟨classed.trans filled,fun layout' same => ?_⟩
    cases same
    refine ⟨?_,?_,?_,ratio⟩
    · exact filled.classes id _ here (by decide) known
    · exact fun solid => filled.classes id _ here (layoutClass_token asked solid) (named solid)
    · exact fun isSized => filled.classes id _ here (by decide) (sized isSized)

end StyleTrim.Amp
