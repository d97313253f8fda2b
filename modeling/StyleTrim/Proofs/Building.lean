import StyleTrim.Proofs.Histories
import StyleTrim.Proofs.Pages
namespace StyleTrim.Amp
open Text Dom
variable {d d' e : Dom} {c id m n p player target track : NodeId} {l : List NodeId} {drawing : Drawing}

-- What a component does that draws inside itself, told as the edits that come one after the other. What each of
-- them keeps, the whole drawing keeps.

-- The documents that a component can make of `d`. It moves nothing but its own children and what it made, a
-- section moves not even its children, and of the nodes that were there only classes change.
inductive Built (id : NodeId) (d : Dom) : Dom → Prop where
  | start : d.Forest → d.Current id → Built id d d
  | create {e : Dom} (payload : Payload) : Built id d e → Built id d (e.create payload).1
  | append {e : Dom} {p c : NodeId} : Built id d e → e.Current p → (p = id ∨ ¬ d.Current p) → e.Current c →
      (d.Current c → e.parent? c = some id ∧ d.tag? id ≠ some ("section" : Text)) → Built id d (e.appendChild p c)
  | prepend {e : Dom} {c : NodeId} : Built id d e → e.Current c → ¬ d.Current c → Built id d (e.prependChild id c)
  | set {e : Dom} {n : NodeId} (name value : Text) : Built id d e → e.Current n → ¬ d.Current n → Built id d (e.setAttribute n name value)
  | addClass {e : Dom} {n : NodeId} (name : Text) : Built id d e → e.Current n → Built id d (e.addClass n name)

theorem Built.base (built : Built id d e) : d.Forest ∧ d.Current id := by
  induction built with
  | start forest there => exact ⟨forest,there⟩
  | create | append | prepend | set | addClass => assumption

theorem addClass_current (d : Dom) (n m : NodeId) (name : Text) : (d.addClass n name).Current m ↔ d.Current m :=
  (addClass_relabelled d n name).current m

theorem addClass_children (d : Dom) (n m : NodeId) (name : Text) : (d.addClass n name).children m = d.children m := by
  unfold addClass
  split
  · rfl
  · exact edit_children d n m _

theorem addClass_attribute? {other : Text} (apart : other ≠ ("class" : Text)) (d : Dom) (n m : NodeId) (name : Text) :
    (d.addClass n name).attribute? m other = d.attribute? m other := by
  unfold addClass
  split
  · rfl
  · exact edit_attribute? (find_putAttribute apart _) n m

theorem prependChild_current (forest : d.Forest) (there : d.Current p) (current : d.Current c) :
    (d.prependChild p c).Current m ↔ d.Current m := by
  rcases prependChild_cases forest there current with same | ⟨moved,_⟩
  · rw [same]
  · exact moved.current m

theorem Built.known (built : Built id d e) : e.Forest ∧ ∀ m, d.Current m → e.Current m := by
  have here := built.base.2
  induction built with
  | start forest => exact ⟨forest,fun _ there => there⟩
  | create payload _ ih => exact ⟨create_forest ih.1 payload,fun m there => made_keeps ih.1 payload (ih.2 m there)⟩
  | append _ there _ current _ ih =>
    exact ⟨appendChild_forest ih.1 there current,fun m old => (appendChild_current _ _ _ m).mpr (ih.2 m old)⟩
  | prepend _ current _ ih =>
    exact ⟨prependChild_forest ih.1 (ih.2 id here) current,fun m old =>
      (prependChild_current ih.1 (ih.2 id here) current).mpr (ih.2 m old)⟩
  | set _ _ _ _ _ ih => exact ⟨edit_forest ih.1,fun m old => edit_current.mpr (ih.2 m old)⟩
  | addClass name _ _ ih => exact ⟨addClass_forest ih.1 _ name,fun m old => (addClass_current _ _ m name).mpr (ih.2 m old)⟩

theorem Built.forest (built : Built id d e) : e.Forest := built.known.1
theorem Built.current (built : Built id d e) (there : d.Current m) : e.Current m := built.known.2 m there
theorem Built.here (built : Built id d e) : e.Current id := built.current built.base.2

-- A node that the component made.
structure Own (d e : Dom) (c : NodeId) : Prop where
  current : e.Current c
  new : ¬ d.Current c

-- What the component made is still there after the next edit.
def Stays (d e e' : Dom) : Prop := ∀ c, Own d e c → Own d e' c

theorem Built.make (built : Built id d e) (payload : Payload) :
    Built id d (e.create payload).1 ∧ Own d (e.create payload).1 (e.create payload).2 ∧ Stays d e (e.create payload).1 :=
  ⟨built.create payload,⟨made_current built.forest payload,fun old => made_absent built.forest payload (built.current old)⟩,
    fun _ own => ⟨made_keeps built.forest payload own.current,own.new⟩⟩

theorem append_stays (d e : Dom) (p c : NodeId) : Stays d e (e.appendChild p c) :=
  fun m own => ⟨(appendChild_current e p c m).mpr own.current,own.new⟩

theorem Built.hang (built : Built id d e) (own : Own d e c) : Built id d (e.appendChild id c) :=
  built.append built.here (.inl rfl) own.current fun old => absurd old own.new

theorem Built.nest (built : Built id d e) (outer : Own d e p) (own : Own d e c) :
    Built id d (e.appendChild p c) ∧ Stays d e (e.appendChild p c) :=
  ⟨built.append outer.current (.inr outer.new) own.current fun old => absurd old own.new,append_stays d e p c⟩

theorem Built.shift (built : Built id d e) (outer : Own d e p) (current : e.Current c) (linked : e.parent? c = some id)
    (steady : d.tag? id ≠ some ("section" : Text)) : Built id d (e.appendChild p c) :=
  built.append outer.current (.inr outer.new) current fun _ => ⟨linked,steady⟩

theorem copyAttributes_built (source : NodeId) (names : List String) (built : Built id d e) (own : Own d e target) :
    Built id d (copyAttributes source target names e) ∧ Stays d e (copyAttributes source target names e) := by
  refine ⟨?_,fun m made => ⟨(copyAttributes_current source target names e).mpr made.current,made.new⟩⟩
  unfold copyAttributes
  generalize ofStrings names = l
  induction l generalizing e with
  | nil => exact built
  | cons name more ih =>
    rw [List.foldl_cons]
    split
    · exact ih (built.set _ _ own.current own.new) ⟨edit_current.mpr own.current,own.new⟩
    · exact ih built own

-- Children move one after the other, each from under the component.
theorem Built.moves {step : Dom → NodeId → Dom} {R : Dom → Prop} (built : Built id d e) (holds : R e)
    (each : ∀ e c, Built id d e → R e → e.Current c → e.parent? c = some id →
      Built id d (step e c) ∧ R (step e c) ∧ Leaves c e (step e c)) (once : l.Nodup)
    (waiting : ∀ c ∈ l, c ∈ e.children id) : Built id d (l.foldl step e) ∧ R (l.foldl step e) := by
  refine foldl_shift (R := fun e => Built id d e ∧ R e) ⟨built,holds⟩ ?_ once fun c inside =>
    built.forest.down built.here (waiting c inside)
  rintro e c ⟨built,holds⟩ current linked
  obtain ⟨built,holds,leaves⟩ := each e c built holds current linked
  exact ⟨⟨built,holds⟩,leaves⟩

theorem Built.gather (built : Built id d e) (outer : Own d e p) (steady : d.tag? id ≠ some ("section" : Text)) :
    Built id d ((e.children id).foldl (fun e c => e.appendChild p c) e) ∧
      Stays d e ((e.children id).foldl (fun e c => e.appendChild p c) e) :=
  built.moves (R := Stays d e) (fun _ own => own) (fun f c built stays current linked =>
    ⟨built.shift (stays p outer) current linked steady,fun m own => append_stays d f p c m (stays m own),
      appendChild_leaves built.forest (stays p outer).current current⟩) (built.forest.once built.here) fun _ child => child

theorem adoptSources_built (built : Built id d e) (own : Own d e player) (steady : d.tag? id ≠ some ("section" : Text)) :
    Built id d (adoptSources e id player) ∧ Own d (adoptSources e id player) player := by
  refine built.moves (R := fun f => Own d f player) own (fun f c built own current linked => ?_)
    ((built.forest.once built.here).filter _) fun c inside => (List.mem_filter.mp inside).1
  split
  · exact ⟨built.shift own current linked steady,append_stays d f player c player own,
      appendChild_leaves built.forest own.current current⟩
  · exact ⟨built,own,.refl c f⟩

theorem drawImage_built (forest : d.Forest) (there : d.Current id) : Built id d (drawImage d id) := by
  have start := Built.start forest there
  unfold drawImage
  split
  · exact start
  · obtain ⟨made,image,_⟩ := start.make (.element "img" [⟨"class",replacedClasses⟩])
    obtain ⟨copied,stays⟩ := copyAttributes_built id ["src","srcset","sizes","alt","title"] made image
    have image := stays _ image
    exact (copied.set "decoding" "async" image.current image.new).hang ⟨edit_current.mpr image.current,image.new⟩

theorem drawVideo_built (forest : d.Forest) (there : d.Current id) (steady : d.tag? id ≠ some ("section" : Text)) :
    Built id d (drawVideo d id) := by
  have start := Built.start forest there
  unfold drawVideo
  split
  · exact start
  · obtain ⟨made,video,_⟩ := start.make (.element "video" [⟨"class",replacedClasses⟩])
    obtain ⟨copied,stays⟩ := copyAttributes_built id
      ["src","poster","controls","autoplay","loop","muted","playsinline","preload"] made video
    obtain ⟨adopted,video⟩ := adoptSources_built copied (stays _ video) steady
    exact adopted.hang video

theorem drawAudio_built (forest : d.Forest) (there : d.Current id) (steady : d.tag? id ≠ some ("section" : Text)) :
    Built id d (drawAudio d id) := by
  have start := Built.start forest there
  unfold drawAudio
  split
  · exact start
  · obtain ⟨made,audio,_⟩ := start.make (.element "audio" [⟨"controls",[]⟩])
    obtain ⟨copied,stays⟩ := copyAttributes_built id ["src","autoplay","loop","muted","preload"] made audio
    obtain ⟨adopted,audio⟩ := adoptSources_built copied (stays _ audio) steady
    exact adopted.hang audio

theorem drawFrame_built (forest : d.Forest) (there : d.Current id) : Built id d (drawFrame d id) := by
  have start := Built.start forest there
  unfold drawFrame
  split
  · exact start
  · obtain ⟨outer,scroller,_⟩ := start.make (.element scrollerTag [])
    obtain ⟨made,frame,stays⟩ := outer.make (.element "iframe" [⟨"class","i-amphtml-fill-content"⟩])
    obtain ⟨copied,stays'⟩ := copyAttributes_built id
      ["src","srcdoc","frameborder","allowfullscreen","sandbox","scrolling"] made frame
    have scroller := stays' _ (stays _ scroller)
    obtain ⟨filled,stays⟩ := copied.nest scroller (stays' _ frame)
    exact filled.hang (stays _ scroller)

theorem drawButton_built (built : Built id d e) (classes label : Text) : Built id d (drawButton id classes label e) := by
  obtain ⟨made,button,_⟩ := built.make
    (.element "div" [⟨"class",classes⟩,⟨"role","button"⟩,⟨"tabindex","0"⟩,⟨"aria-label",label⟩])
  exact made.hang button

theorem placeSlide_built (oneAtATime : Bool) (built : Built id d e) (outer : Own d e track) (current : e.Current c)
    (linked : e.parent? c = some id) (steady : d.tag? id ≠ some ("section" : Text)) :
    Built id d (placeSlide oneAtATime track e c) ∧ Own d (placeSlide oneAtATime track e c) track := by
  have marked := built.addClass "amp-carousel-slide" current
  have outer : Own d (e.addClass c "amp-carousel-slide") track := ⟨(addClass_current e c track _).mpr outer.current,outer.new⟩
  have linked := (addClass_parent? e c c "amp-carousel-slide").trans linked
  have current := (addClass_current e c c "amp-carousel-slide").mpr current
  unfold placeSlide
  generalize e.addClass c "amp-carousel-slide" = e at marked outer linked current
  dsimp only
  split
  · obtain ⟨made,item,stays⟩ := marked.make (.element "div" [⟨"class","i-amphtml-slide-item"⟩])
    have linked := ((create_created marked.forest (.element "div" [⟨"class","i-amphtml-slide-item"⟩])).parent c current).trans linked
    have shifted := made.shift item (made_keeps marked.forest _ current) linked steady
    obtain ⟨placed,stays'⟩ := shifted.nest (append_stays d _ _ c _ (stays _ outer)) (append_stays d _ _ c _ item)
    exact ⟨placed,stays' _ (append_stays d _ _ c _ (stays _ outer))⟩
  · exact ⟨marked.shift outer current linked steady,append_stays d e track c track outer⟩

theorem drawCarousel_built (forest : d.Forest) (there : d.Current id) (steady : d.tag? id ≠ some ("section" : Text)) :
    Built id d (drawCarousel d id) := by
  have start := Built.start forest there
  unfold drawCarousel
  split
  · exact start
  · extract_lets oneAtATime loops slides back
    generalize (if oneAtATime then _ else _ : List Attribute) = attributes
    have waiting : ∀ c ∈ slides, c ∈ (d.createElement "div" attributes).1.children id := by
      intro c inside
      rw [createElement,(create_created forest _).children id there]
      exact (List.mem_filter.mp (List.mem_filter.mp inside).1).1
    obtain ⟨made,track,_⟩ := start.make (.element "div" attributes)
    obtain ⟨placed,track⟩ := made.moves (R := fun e => Own d e _) track
      (fun e c built track current linked => by
        obtain ⟨placed,outer⟩ := placeSlide_built oneAtATime built track current linked steady
        exact ⟨placed,outer,placeSlide_leaves oneAtATime built.forest track.current current⟩)
      (((forest.once there).filter _).filter _) waiting
    exact drawButton_built (drawButton_built (placed.hang track) _ _) _ _

theorem drawFillBox_built (forest : d.Forest) (there : d.Current id) (steady : d.tag? id ≠ some ("section" : Text)) :
    Built id d (drawFillBox d id) := by
  have start := Built.start forest there
  unfold drawFillBox
  split
  · exact start
  · obtain ⟨made,wrapper,_⟩ := start.make (.element "div" [⟨"class","i-amphtml-fill-content"⟩])
    obtain ⟨gathered,stays⟩ := made.gather wrapper steady
    exact gathered.hang (stays _ wrapper)

theorem drawFitText_built (forest : d.Forest) (there : d.Current id) (steady : d.tag? id ≠ some ("section" : Text)) :
    Built id d (drawFitText d id) := by
  have start := Built.start forest there
  unfold drawFitText
  split
  · exact start
  · obtain ⟨outer,content,_⟩ := start.make (.element "div" [⟨"class","i-amphtml-fit-text-content"⟩])
    obtain ⟨made,inner,stays⟩ := outer.make (.element "div" [⟨"class","i-amphtml-fit-text-content-inner"⟩])
    obtain ⟨gathered,stays'⟩ := made.gather inner steady
    have content := stays' _ (stays _ content)
    obtain ⟨filled,stays⟩ := gathered.nest content (stays' _ inner)
    exact filled.hang (stays _ content)

theorem drawLightbox_built (forest : d.Forest) (there : d.Current id) : Built id d (drawLightbox d id) := by
  have start := Built.start forest there
  unfold drawLightbox
  split
  · exact start
  · extract_lets name
    obtain ⟨made,container,_⟩ := start.make (.element "div" [⟨"class","i-amphtml-image-lightbox-container"⟩])
    obtain ⟨made,viewer,stays⟩ := made.make (.element "div" [⟨"class","i-amphtml-image-lightbox-viewer"⟩])
    have container := stays _ container
    obtain ⟨made,image,stays⟩ := made.make (.element "img" [⟨"class","i-amphtml-image-lightbox-viewer-image"⟩,⟨"src",[]⟩])
    obtain ⟨seen,stays'⟩ := made.nest (stays _ viewer) image
    have container := stays' _ (stays _ container)
    obtain ⟨shown,stays⟩ := seen.nest container (stays' _ (stays _ viewer))
    have container := stays _ container
    obtain ⟨made,caption,stays⟩ := shown.make (.element "div"
      [⟨"class","i-amphtml-image-lightbox-caption amp-image-lightbox-caption"⟩,⟨"id",name⟩])
    have container := stays _ container
    obtain ⟨told,stays⟩ := made.nest container caption
    have container := stays _ container
    obtain ⟨made,close,stays⟩ := told.make (.element "button"
      [⟨"class","i-amphtml-screen-reader"⟩,⟨"aria-label","Close the lightbox"⟩])
    exact (made.hang (stays _ container)).hang (append_stays d _ _ _ _ close)

-- The components that show no copies.
theorem drawAs_built (draw : Draw) (forest : d.Forest) (there : d.Current id) (steady : d.tag? id ≠ some ("section" : Text))
    (own : drawing ∉ copying) : ∃ d', drawAs draw d id drawing = some d' ∧ Built id d d' := by
  cases drawing with
  | image => exact ⟨_,rfl,drawImage_built forest there⟩
  | video => exact ⟨_,rfl,drawVideo_built forest there steady⟩
  | audio => exact ⟨_,rfl,drawAudio_built forest there steady⟩
  | frame => exact ⟨_,rfl,drawFrame_built forest there⟩
  | carousel => exact ⟨_,rfl,drawCarousel_built forest there steady⟩
  | fillBox => exact ⟨_,rfl,drawFillBox_built forest there steady⟩
  | fitText => exact ⟨_,rfl,drawFitText_built forest there steady⟩
  | lightbox => exact ⟨_,rfl,drawLightbox_built forest there⟩
  | accordion | sidebar | items => exact absurd (by decide) own

theorem addLayoutClasses_built (forest : d.Forest) (there : d.Current id) (layout : Text) :
    Built id d (addLayoutClasses d id layout) := by
  have known := (Built.start forest there).addClass "i-amphtml-element" there
  have named := known.addClass ("i-amphtml-layout-" ++ layout) known.here
  unfold addLayoutClasses
  dsimp only
  split
  · exact named.addClass _ named.here
  · exact named

theorem addSizer_built (built : Built id d e) (layout : Text) : Built id d (addSizer e id layout) := by
  unfold addSizer
  split
  · exact built
  · split
    · obtain ⟨made,sizer,_⟩ := built.make (.element sizerTag [⟨"class",sizerTag⟩,⟨"style",ratioStyle e id⟩])
      exact made.prepend sizer.current sizer.new
    · split
      · obtain ⟨made,sizer,_⟩ := built.make (.element sizerTag [⟨"class",sizerTag⟩])
        obtain ⟨made,image,stays⟩ := made.make (.element "img" [⟨"alt",[]⟩,⟨"aria-hidden","true"⟩,
          ⟨"class","i-amphtml-intrinsic-sizer"⟩,⟨"role","presentation"⟩,⟨"src",blankImage e id⟩])
        have sizer := stays _ sizer
        obtain ⟨filled,stays⟩ := made.nest sizer image
        exact filled.prepend (stays _ sizer).current sizer.new
      · exact built

theorem applyLayout_built (forest : d.Forest) (there : d.Current id) : Built id d (applyLayout d id) := by
  rw [applyLayout_eq]
  cases layoutOf? d id with
  | none => exact .start forest there
  | some layout => exact addSizer_built (addLayoutClasses_built forest there layout) layout

end StyleTrim.Amp
