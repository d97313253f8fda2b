import StyleTrim.Proofs.Ranks
namespace StyleTrim.Amp
open Text Dom
variable {d d' d₁ d₂ : Dom} {rank rank' rank₁ rank₂ : NodeId → Nat} {a k : Nat} {c id list m n p s track : NodeId}
  {draw : Draw} {drawing : Drawing}

-- Drawing comes to an end unless a component that makes copies may come to lie below itself: then each copy has a
-- lower rank than the component that makes it.

def Upholds (d : Dom) (rank : NodeId → Nat) (d' : Dom) : Prop := ∃ rank', Extends d rank d' rank'

theorem Extends.upholds (one : Extends d rank d₁ rank₁) (more : Upholds d₁ rank₁ d₂) : Upholds d rank d₂ := by
  obtain ⟨rank₂,more⟩ := more
  exact ⟨rank₂,one.trans more⟩

-- Something comes of an attempt, and it keeps the ranks.
def Ends (d : Dom) (rank : NodeId → Nat) (result : Option Dom) : Prop := ∃ d', result = some d' ∧ Upholds d rank d'

theorem Ends.pure (upholds : Upholds d rank d') : Ends d rank (some d') := ⟨d',rfl,upholds⟩

theorem Ends.bind {first : Option Dom} {next : Dom → Option Dom} (ends : Ends d rank first)
    (later : ∀ e rank₁, Extends d rank e rank₁ → Ends e rank₁ (next e)) : Ends d rank (first >>= next) := by
  obtain ⟨e,rfl,rank₁,added⟩ := ends
  obtain ⟨e',same,upholds⟩ := later e rank₁ added
  exact ⟨e',same,added.upholds upholds⟩

theorem Extends.ends {result : Option Dom} (added : Extends d rank d₁ rank₁) (ends : Ends d₁ rank₁ result) :
    Ends d rank result := by
  obtain ⟨d',same,upholds⟩ := ends
  exact ⟨d',same,added.upholds upholds⟩

theorem Ends.foldlM {step : Dom → NodeId → Option Dom} (l : List NodeId) (ranked : Ranked d rank)
    (each : ∀ e rank₁ c, c ∈ l → Extends d rank e rank₁ → Ends e rank₁ (step e c)) : Ends d rank (l.foldlM step d) := by
  suffices all : ∀ e rank₁, Extends d rank e rank₁ → Ends e rank₁ (l.foldlM step e) from all d rank (.refl ranked)
  induction l with
  | nil => exact fun e rank₁ done => .pure ⟨rank₁,.refl done.ranked⟩
  | cons c more ih =>
    intro e rank₁ done
    rw [List.foldlM_cons]
    refine (each e rank₁ c List.mem_cons_self done).bind fun e' rank₂ next => ?_
    exact ih (fun e rank₁ c inside => each e rank₁ c (List.mem_cons_of_mem _ inside)) e' rank₂ (done.trans next)

-- A node of a certain rank that makes no copies.
structure Light (d : Dom) (rank : NodeId → Nat) (n : NodeId) (a : Nat) : Prop where
  current : d.Current n
  weight : (face d n).weight = 0
  rank : rank n = a

theorem Light.later (light : Light d rank n a) (more : Extends d rank d₁ rank₁) : Light d₁ rank₁ n a := by
  refine ⟨more.current n light.current,?_,(more.rank n light.current).trans light.rank⟩
  rw [more.face n light.current,light.weight]

-- A new node for the runtime's own use: no component, no navigation and without a name. It may have any rank.
theorem made_light (ranked : Ranked d rank) (tag : Text) (attributes : List Attribute)
    (plain : ¬ ("amp-" : Text) <+: tag ∧ tag ≠ ("nav" : Text)) (unnamed : attributes.find? (·.name == ("id" : Text)) = none)
    (a : Nat) : ∃ rank', Extends d rank (d.createElement tag attributes).1 rank' ∧
      Light (d.createElement tag attributes).1 rank' (d.createElement tag attributes).2 a := by
  have created := create_created ranked.forest (.element tag attributes)
  have quiet := quiet_element plain unnamed
  refine ⟨_,create_extends ranked _ (fits_quiet d rank quiet a),made_current ranked.forest _,?_,Function.update_self ..⟩
  rw [createElement,face_payload created.newNode,quiet.weight]

theorem Light.append (light : Light d rank p a) (ranked : Ranked d rank) (current : d.Current c) (low : rank c ≤ a) :
    Extends d rank (d.appendChild p c) rank := by
  refine append_extends ranked light.current current ?_
  rw [light.weight,light.rank]
  exact low

theorem Light.put (light : Light d rank p a) (ranked : Ranked d rank) (other : Light d rank c a) :
    Extends d rank (d.appendChild p c) rank := light.append ranked other.current (Nat.le_of_eq other.rank)

theorem Light.low (light : Light d rank c a) (bound : a + (face d p).weight ≤ rank p) :
    rank c + (face d p).weight ≤ rank p := by
  rw [light.rank]
  exact bound

-- What lies below a light node may be put below another one of its rank.
theorem Light.child (light : Light d rank n a) (ranked : Ranked d rank) (child : c ∈ d.children n) :
    d.Current c ∧ rank c ≤ a := by
  refine ⟨(ranked.forest.down light.current child).1,?_⟩
  rw [← light.rank]
  exact Nat.le_of_add_right_le (ranked.child light.current child)

theorem foldl_upholds {step : Dom → NodeId → Dom} (l : List NodeId) (ranked : Ranked d rank)
    (each : ∀ e rank₁ c, c ∈ l → Extends d rank e rank₁ → Upholds e rank₁ (step e c)) : Upholds d rank (l.foldl step d) := by
  have ends : Ends d rank (l.foldlM (fun e c => pure (step e c)) d) :=
    .foldlM l ranked fun e rank₁ c inside added => .pure (each e rank₁ c inside added)
  rw [List.foldlM_pure] at ends
  obtain ⟨d',same,upholds⟩ := ends
  cases same
  exact upholds

theorem copyAttributes_extends (source target : NodeId) (names : List String) (added : Extends d rank d₁ rank)
    (quiet : (ofStrings names).all silent = true) : Extends d rank (copyAttributes source target names d₁) rank := by
  unfold copyAttributes
  rw [List.all_eq_true] at quiet
  generalize ofStrings names = l at quiet
  induction l generalizing d₁ with
  | nil => exact added
  | cons name more ih =>
    refine ih ?_ fun name inside => quiet name (List.mem_cons_of_mem _ inside)
    dsimp only
    split
    · exact added.trans (set_extends added.ranked target name (quiet name List.mem_cons_self) _)
    · exact added

-- Some children of a light node move into another one of its rank.
theorem move_upholds (light : Light d rank id a) (into : Light d rank p a) (ranked : Ranked d rank) {l : List NodeId}
    (inside : ∀ c ∈ l, c ∈ d.children id) (moves : Dom → NodeId → Bool) :
    Upholds d rank (l.foldl (fun e c => if moves e c then e.appendChild p c else e) d) := by
  refine foldl_upholds _ ranked fun e rank₁ c listed added => ?_
  obtain ⟨current,low⟩ := light.child ranked (inside c listed)
  split
  · exact ⟨rank₁,(into.later added).append added.ranked (added.current c current) ((added.rank c current).trans_le low)⟩
  · exact ⟨rank₁,.refl added.ranked⟩

theorem adoptSources_upholds (light : Light d rank id a) (player : Light d rank p a) (ranked : Ranked d rank) :
    Upholds d rank (adoptSources d id p) :=
  move_upholds light player ranked (fun _ inside => (mem_elementChildren.mp inside).1) _

theorem gather_upholds (light : Light d rank id a) (wrapper : Light d rank p a) (ranked : Ranked d rank) :
    Upholds d rank ((d.children id).foldl (fun e c => e.appendChild p c) d) :=
  move_upholds light wrapper ranked (fun _ inside => inside) fun _ _ => true

-- A new node that is filled while it stands alone.
theorem filled_light (ranked : Ranked d rank) (tag : Text) (attributes : List Attribute)
    (plain : ¬ ("amp-" : Text) <+: tag ∧ tag ≠ ("nav" : Text)) (unnamed : attributes.find? (·.name == ("id" : Text)) = none)
    (filled : ∀ rank₁, Extends d rank (d.createElement tag attributes).1 rank₁ →
      Light (d.createElement tag attributes).1 rank₁ (d.createElement tag attributes).2 a →
      Upholds (d.createElement tag attributes).1 rank₁ d₁) :
    ∃ rank', Extends d rank d₁ rank' ∧ Light d₁ rank' (d.createElement tag attributes).2 a := by
  obtain ⟨rank₁,made,new⟩ := made_light ranked tag attributes plain unnamed a
  obtain ⟨rank₂,added⟩ := filled rank₁ made new
  exact ⟨rank₂,made.trans added,new.later added⟩

-- It is put under its host when it is filled.
theorem hung_upholds (light : Light d rank id a) (ranked : Ranked d rank) (tag : Text) (attributes : List Attribute)
    (plain : ¬ ("amp-" : Text) <+: tag ∧ tag ≠ ("nav" : Text)) (unnamed : attributes.find? (·.name == ("id" : Text)) = none)
    (filled : ∀ rank₁, Extends d rank (d.createElement tag attributes).1 rank₁ →
      Light (d.createElement tag attributes).1 rank₁ (d.createElement tag attributes).2 a →
      Upholds (d.createElement tag attributes).1 rank₁ d₁) :
    Upholds d rank (d₁.appendChild id (d.createElement tag attributes).2) := by
  obtain ⟨rank₁,whole,new⟩ := filled_light ranked tag attributes plain unnamed filled
  exact ⟨rank₁,whole.trans ((light.later whole).put whole.ranked new)⟩

theorem drawImage_upholds (light : Light d rank id a) (ranked : Ranked d rank) : Upholds d rank (drawImage d id) := by
  unfold drawImage
  split
  · exact ⟨rank,.refl ranked⟩
  · refine hung_upholds light ranked "img" [⟨"class",replacedClasses⟩] (by decide) rfl fun rank₁ made _ => ?_
    have copied := copyAttributes_extends id (d.createElement "img" [⟨"class",replacedClasses⟩]).2
      ["src","srcset","sizes","alt","title"] (.refl made.ranked) (by decide)
    exact ⟨rank₁,copied.trans (set_extends copied.ranked _ "decoding" (by decide) _)⟩

-- A player takes over attributes, sources and tracks.
theorem player_upholds (light : Light d rank id a) (player : Light d rank p a) (ranked : Ranked d rank) (names : List String)
    (quiet : (ofStrings names).all silent = true) : Upholds d rank (adoptSources (copyAttributes id p names d) id p) := by
  have copied := copyAttributes_extends id p names (.refl ranked) quiet
  exact copied.upholds (adoptSources_upholds (light.later copied) (player.later copied) copied.ranked)

theorem drawVideo_upholds (light : Light d rank id a) (ranked : Ranked d rank) : Upholds d rank (drawVideo d id) := by
  unfold drawVideo
  split
  · exact ⟨rank,.refl ranked⟩
  · exact hung_upholds light ranked "video" [⟨"class",replacedClasses⟩] (by decide) rfl fun rank₁ made video =>
      player_upholds (light.later made) video made.ranked _ (by decide)

theorem drawAudio_upholds (light : Light d rank id a) (ranked : Ranked d rank) : Upholds d rank (drawAudio d id) := by
  unfold drawAudio
  split
  · exact ⟨rank,.refl ranked⟩
  · exact hung_upholds light ranked "audio" [⟨"controls",[]⟩] (by decide) rfl fun rank₁ made audio =>
      player_upholds (light.later made) audio made.ranked _ (by decide)

theorem drawFrame_upholds (light : Light d rank id a) (ranked : Ranked d rank) : Upholds d rank (drawFrame d id) := by
  unfold drawFrame
  split
  · exact ⟨rank,.refl ranked⟩
  · refine hung_upholds light ranked scrollerTag [] (by decide) rfl fun rank₁ made scroller => ?_
    refine hung_upholds scroller made.ranked "iframe" [⟨"class","i-amphtml-fill-content"⟩] (by decide) rfl
      fun rank₂ more _ => ?_
    exact ⟨rank₂,copyAttributes_extends id _ _ (.refl more.ranked) (by decide)⟩

theorem drawButton_upholds (light : Light d rank id a) (ranked : Ranked d rank) (classes label : Text) :
    Upholds d rank (drawButton id classes label d) :=
  hung_upholds light ranked "div" _ (by decide) rfl fun rank₁ made _ => ⟨rank₁,.refl made.ranked⟩

theorem placeSlide_upholds (oneAtATime : Bool) (light : Light d rank track a) (ranked : Ranked d rank) (current : d.Current c)
    (low : rank c ≤ a) : Upholds d rank (placeSlide oneAtATime track d c) := by
  have classed := addClass_extends ranked c "amp-carousel-slide"
  have there := classed.current c current
  have light := light.later classed
  unfold placeSlide
  split
  · refine classed.upholds (hung_upholds light classed.ranked "div" [⟨"class","i-amphtml-slide-item"⟩] (by decide) rfl
      fun rank₁ made item => ?_)
    exact ⟨rank₁,item.append made.ranked (made.current c there) ((made.rank c there).trans_le low)⟩
  · exact ⟨rank,classed.trans (light.append classed.ranked there low)⟩

theorem drawCarousel_upholds (light : Light d rank id a) (ranked : Ranked d rank) : Upholds d rank (drawCarousel d id) := by
  unfold drawCarousel
  split
  · exact ⟨rank,.refl ranked⟩
  · extract_lets oneAtATime loops slides back
    have unnamed : (if oneAtATime then [⟨"class",slideTrack⟩,⟨"aria-live","polite"⟩] else [⟨"class",scrollTrack⟩] :
        List Attribute).find? (·.name == ("id" : Text)) = none := by
      cases oneAtATime <;> rfl
    generalize (if oneAtATime then _ else _ : List Attribute) = attributes at unnamed ⊢
    obtain ⟨rank₁,placed⟩ : Upholds d rank ((slides.foldl (placeSlide oneAtATime (d.createElement "div" attributes).2)
        (d.createElement "div" attributes).1).appendChild id (d.createElement "div" attributes).2) := by
      refine hung_upholds light ranked "div" attributes (by decide) unnamed fun rank₁ made track => ?_
      refine foldl_upholds slides made.ranked fun e rank₂ c inside added => ?_
      obtain ⟨current,low⟩ := light.child ranked (mem_elementChildren.mp (List.mem_filter.mp inside).1).1
      have whole := made.trans added
      refine placeSlide_upholds oneAtATime (track.later added) added.ranked (whole.current c current) ?_
      rw [whole.rank c current]
      exact low
    obtain ⟨rank₂,first⟩ := drawButton_upholds (light.later placed) placed.ranked
      (if loops then back else back ++ " amp-disabled") "Previous item in carousel"
    have both := placed.trans first
    exact both.upholds (drawButton_upholds (light.later both) both.ranked _ _)

theorem drawFillBox_upholds (light : Light d rank id a) (ranked : Ranked d rank) : Upholds d rank (drawFillBox d id) := by
  unfold drawFillBox
  split
  · exact ⟨rank,.refl ranked⟩
  · exact hung_upholds light ranked "div" [⟨"class","i-amphtml-fill-content"⟩] (by decide) rfl fun rank₁ made wrapper =>
      gather_upholds (light.later made) wrapper made.ranked

theorem drawFitText_upholds (light : Light d rank id a) (ranked : Ranked d rank) : Upholds d rank (drawFitText d id) := by
  unfold drawFitText
  split
  · exact ⟨rank,.refl ranked⟩
  · refine hung_upholds light ranked "div" [⟨"class","i-amphtml-fit-text-content"⟩] (by decide) rfl
      fun rank₁ made content => ?_
    exact hung_upholds content made.ranked "div" [⟨"class","i-amphtml-fit-text-content-inner"⟩] (by decide) rfl
      fun rank₂ more inner => gather_upholds (light.later (made.trans more)) inner more.ranked

-- The caption of a lightbox is found by a name that counts as one of the lightbox already.
theorem caption_within (found : drawingOf? d id = some .lightbox) (classes : Text) :
    Face.Within (faceOf (.element "div" [⟨"class",classes⟩,⟨"id",captionName d id⟩])) (face d id) := by
  refine ⟨Nat.zero_le _,fun z named => ?_,nofun,nofun⟩
  rw [show z = captionName d id from List.mem_singleton.mp named,Face.names,face_drawing?,if_pos found]
  exact List.mem_append_right _ List.mem_cons_self

theorem drawLightbox_upholds (light : Light d rank id a) (ranked : Ranked d rank) (found : drawingOf? d id = some .lightbox) :
    Upholds d rank (drawLightbox d id) := by
  unfold drawLightbox
  split
  · exact ⟨rank,.refl ranked⟩
  · extract_lets name
    have named := caption_within found "i-amphtml-image-lightbox-caption amp-image-lightbox-caption"
    obtain ⟨rank₁,made,container⟩ := made_light ranked "div" [⟨"class","i-amphtml-image-lightbox-container"⟩] (by decide) rfl a
    obtain ⟨rank₂,shown⟩ := hung_upholds container made.ranked "div" [⟨"class","i-amphtml-image-lightbox-viewer"⟩]
      (by decide) rfl fun rank₂ more viewer => hung_upholds viewer more.ranked "img"
        [⟨"class","i-amphtml-image-lightbox-viewer-image"⟩,⟨"src",[]⟩] (by decide) rfl
        fun rank₃ last _ => ⟨rank₃,.refl last.ranked⟩
    have opened := made.trans shown
    rw [← opened.face id light.current] at named
    have told := create_extends opened.ranked _ (fits_within opened.ranked (opened.current id light.current) named)
    have caption := made_current opened.ranked.forest (.element "div"
      [⟨"class","i-amphtml-image-lightbox-caption amp-image-lightbox-caption"⟩,⟨"id",name⟩])
    have container := (container.later shown).later told
    have put := container.append told.ranked caption (by rw [Function.update_self,(light.later opened).rank])
    have filled := (opened.trans told).trans put
    obtain ⟨rank₄,last,close⟩ := made_light filled.ranked "button"
      [⟨"class","i-amphtml-screen-reader"⟩,⟨"aria-label","Close the lightbox"⟩] (by decide) rfl a
    have light := light.later (filled.trans last)
    have inner := light.put last.ranked ((container.later put).later last)
    have outer := (light.later inner).put inner.ranked (close.later inner)
    exact ⟨rank₄,((filled.trans last).trans inner).trans outer⟩

-- A sizer has the lowest rank, whatever it is put under.
theorem sizer_upholds (ranked : Ranked d rank) (there : d.Current id) (attributes : List Attribute)
    (unnamed : attributes.find? (·.name == ("id" : Text)) = none)
    (filled : ∀ rank₁, Extends d rank (d.createElement sizerTag attributes).1 rank₁ →
      Light (d.createElement sizerTag attributes).1 rank₁ (d.createElement sizerTag attributes).2 0 →
      Upholds (d.createElement sizerTag attributes).1 rank₁ d₁) :
    Upholds d rank (d₁.prependChild id (d.createElement sizerTag attributes).2) := by
  obtain ⟨rank₁,whole,sizer⟩ := filled_light ranked sizerTag attributes (by decide) unnamed filled
  have here := whole.current id there
  refine ⟨rank₁,whole.trans (prepend_extends whole.ranked here sizer.current (sizer.low ?_))⟩
  rw [Nat.zero_add]
  exact whole.ranked.floor id here

theorem addSizer_upholds (ranked : Ranked d rank) (there : d.Current id) (layout : Text) :
    Upholds d rank (addSizer d id layout) := by
  unfold addSizer
  split
  · exact ⟨rank,.refl ranked⟩
  · split
    · exact sizer_upholds ranked there [⟨"class",sizerTag⟩,⟨"style",ratioStyle d id⟩] rfl
        fun rank₁ made _ => ⟨rank₁,.refl made.ranked⟩
    · split
      · exact sizer_upholds ranked there [⟨"class",sizerTag⟩] rfl fun rank₁ made sizer =>
          hung_upholds sizer made.ranked "img" [⟨"alt",[]⟩,⟨"aria-hidden","true"⟩,⟨"class","i-amphtml-intrinsic-sizer"⟩,
            ⟨"role","presentation"⟩,⟨"src",blankImage d id⟩] (by decide) rfl fun rank₂ more _ => ⟨rank₂,.refl more.ranked⟩
      · exact ⟨rank,.refl ranked⟩

theorem applyLayout_upholds (ranked : Ranked d rank) (there : d.Current id) : Upholds d rank (applyLayout d id) := by
  rw [applyLayout_eq]
  split
  · exact ⟨rank,.refl ranked⟩
  · rename_i layout _
    have classed : Extends d rank (addLayoutClasses d id layout) rank := by
      have one := addClass_extends ranked id "i-amphtml-element"
      have two := one.trans (addClass_extends one.ranked id (("i-amphtml-layout-" : Text) ++ layout))
      unfold addLayoutClasses
      dsimp only
      split
      · exact two.trans (addClass_extends two.ranked id _)
      · exact two
    exact classed.upholds (addSizer_upholds classed.ranked (classed.current id there) layout)

-- What is handed the copies comes to an end below a certain rank.
def Completes (draw : Draw) (k : Nat) : Prop := ∀ d rank n, Ranked d rank → d.Current n → rank n < k → Ends d rank (draw d n)

theorem heading_extends (ranked : Ranked d rank) (header : NodeId) (isOpen : Bool) :
    Extends d rank (heading d header isOpen) rank := by
  have classed := addClass_extends ranked header headerMark
  have role := classed.trans (set_extends classed.ranked header "role" (by decide) "button")
  have index := role.trans (set_extends role.ranked header "tabindex" (by decide) "0")
  exact index.trans (set_extends index.ranked header "aria-expanded" (by decide) _)

theorem markSection_extends (ranked : Ranked d rank) (s : NodeId) (isOpen : Bool) :
    Extends d rank (markSection d s isOpen) rank := by
  obtain ⟨d₁,opened,d₂,headed,whole⟩ := markSection_eq d s isOpen
  have first : Extends d rank d₁ rank := by
    rw [opened]
    split
    · exact set_extends ranked s "expanded" (by decide) _
    · exact unset_extends ranked s "expanded" (by decide)
  have second : Extends d rank d₂ rank := by
    rw [headed]
    split
    · exact first.trans (heading_extends first.ranked _ isOpen)
    · exact first
  rw [whole]
  split
  · rename_i content _
    have classed := second.trans (addClass_extends second.ranked content "i-amphtml-accordion-content")
    exact classed.trans (set_extends classed.ranked content "role" (by decide) _)
  · exact second

-- Whoever copies a node of low rank, marks the copy and puts it somewhere, may have it drawn.
theorem cloned_ends {put : Dom → NodeId → Dom} (completes : Completes draw k) (ranked : Ranked d rank) (there : d.Current n)
    (low : rank n < k) (edits : ∀ e rank₁ copy, Extends d rank e rank₁ → Copied d e n copy → rank₁ copy = rank n →
      Extends e rank₁ (put e copy) rank₁) :
    Ends d rank (match d.clone n with | (e,none) => some e | (e,some copy) => draw (put e copy) copy) := by
  obtain ⟨rank₁,added,copied⟩ := clone_extends ranked there
  generalize d.clone n = cloned at added copied ⊢
  obtain ⟨e,copy?⟩ := cloned
  cases copy? with
  | none => exact .pure ⟨rank₁,added⟩
  | some copy =>
    obtain ⟨copied,twin⟩ := copied copy rfl
    have edited := edits e rank₁ copy added copied twin.rank
    have there := edited.current copy copied.current
    exact (added.trans edited).ends (completes _ rank₁ copy edited.ranked there (twin.rank.trans_lt low))

-- The copy of a section is put where the section is.
theorem doubleSection_ends (completes : Completes draw k) (ranked : Ranked d rank) (there : d.Current s) (low : rank s < k) :
    Ends d rank (doubleSection draw d s) := by
  refine cloned_ends completes ranked there low fun e rank₁ copy added copied same => ?_
  have shown := markSection_extends added.ranked s true
  have marked := shown.trans (markSection_extends shown.ranked copy false)
  have copied := (copied.relabelled (markSection_relabelled e s true)).relabelled (markSection_relabelled _ copy false)
  have here := marked.current s (added.current s there)
  refine marked.trans (after_extends marked.ranked here copied.current copied.top fun p linked => ?_)
  obtain ⟨parent,child⟩ := marked.ranked.forest.up here linked
  have low := marked.ranked.child parent child
  rw [added.rank s there] at low
  rw [same]
  exact low

theorem weight_of_drawing (found : drawingOf? d n = some drawing) :
    (face d n).weight = if drawing ∈ copying then 1 else 0 := by
  rw [Face.weight,Face.copies,face_drawing?,found]
  simp

theorem drawAccordion_ends (completes : Completes draw k) (ranked : Ranked d rank) (there : d.Current id)
    (found : drawingOf? d id = some .accordion) (low : rank id ≤ k) : Ends d rank (drawAccordion draw d id) := by
  simp only [drawAccordion]
  split
  · exact .pure ⟨rank,.refl ranked⟩
  · refine .foldlM _ ranked fun e rank₁ s inside added => ?_
    have child := (mem_childrenByTag.mp inside).1
    have current := (ranked.forest.down there child).1
    have lower := ranked.child there child
    rw [weight_of_drawing found,if_pos (by decide)] at lower
    refine doubleSection_ends completes added.ranked (added.current s current) ?_
    rw [added.rank s current]
    omega

theorem elementById_named {name : Text} (found : d.elementById? name = some n) : name ∈ (face d n).names := by
  have own : d.attribute? n "id" = some name := by simpa using List.find?_some found
  rw [Face.names,show (face d n).id = some name from own]
  exact List.mem_append_left _ List.mem_cons_self

-- The template of a list ranks lower than the list.
theorem template_low (ranked : Ranked d rank) (there : d.Current id) (isList : drawingOf? d id = some .items)
    (found : template? d id = some n) : d.Current n ∧ rank n < rank id := by
  have current := template_current ranked.forest ranked.top there found
  refine ⟨current,?_⟩
  have weight := weight_of_drawing isList
  rw [if_pos (by decide)] at weight
  suffices holds : Holds d id n by
    have lower := ranked.down id n holds
    omega
  refine ⟨there,current,?_⟩
  unfold template? at found
  split at found
  · rename_i name asked
    refine .inr (Face.refers_iff.mpr (.inl ⟨trim name,?_,elementById_named found⟩))
    rw [Face.wanted?,face_drawing?,if_pos isList,show (face d id).template = some name from asked]
    rfl
  · exact .inl (mem_childrenByTag.mp (List.mem_of_head? found)).1

theorem addItem_ends (completes : Completes draw k) (ranked : Ranked d rank) (light : Light d rank list a)
    (there : d.Current n) (inside : rank n ≤ a) (low : a < k) : Ends d rank (addItem draw list d n) := by
  refine cloned_ends completes ranked there (inside.trans_lt low) fun e rank₁ copy added copied same => ?_
  have named := set_extends added.ranked copy "role" (by decide) "listitem"
  have light := light.later (added.trans named)
  exact named.trans (light.append named.ranked (edit_current.mpr copied.current) (same.trans_le inside))

theorem drawItems_ends (completes : Completes draw k) (ranked : Ranked d rank) (there : d.Current id)
    (isList : drawingOf? d id = some .items) (low : rank id ≤ k) : Ends d rank (drawItems draw d id) := by
  have rests : Ends d rank (some d) := .pure ⟨rank,.refl ranked⟩
  unfold drawItems
  split
  · exact rests
  · split
    · exact rests
    · rename_i template found
      extract_lets items
      split
      · exact rests
      · obtain ⟨current,lower⟩ := template_low ranked there isList found
        obtain ⟨rank₁,made,list⟩ := made_light ranked "div" [⟨"role","list"⟩] (by decide) rfl (rank template)
        refine made.ends (Ends.bind (.foldlM _ made.ranked fun e rank₂ item inside added => ?_)
          fun e rank₂ added => .pure ⟨rank₂,?_⟩)
        · have listed : item ∈ items := by
            obtain ⟨copies,repeated,inside⟩ := List.mem_flatten.mp inside
            rwa [List.eq_of_mem_replicate repeated] at inside
          have child := (mem_elementChildren.mp listed).1
          have there := (ranked.forest.down current child).1
          have whole := made.trans added
          refine addItem_ends completes added.ranked (list.later added) (whole.current item there) ?_ (by omega)
          rw [whole.rank item there]
          exact Nat.le_of_add_right_le (ranked.child current child)
        · have whole := made.trans added
          have list := list.later added
          refine append_extends added.ranked (whole.current id there) list.current (list.low ?_)
          rw [whole.face id there,whole.rank id there,weight_of_drawing isList]
          exact lower

theorem copyToolbar_ends (completes : Completes draw k) (ranked : Ranked d rank) (there : d.Current n)
    (tag : d.tag? n = some ("nav" : Text)) (low : rank n < k) : Ends d rank (copyToolbar draw d n) := by
  have rests : Ends d rank (some d) := .pure ⟨rank,.refl ranked⟩
  unfold copyToolbar
  split
  · exact rests
  · rename_i target named
    split
    · exact rests
    · obtain ⟨value,asked,found⟩ := Option.bind_eq_some_iff.mp named
      have goal := elementById_current ranked.forest ranked.top found
      have holds : Holds d target n := by
        refine ⟨goal,there,.inr (Face.refers_iff.mpr (.inr ⟨value,?_,elementById_named found⟩))⟩
        rw [Face.target?,if_pos (show (face d n).tag = _ from tag)]
        exact asked
      have lower := ranked.down target n holds
      refine cloned_ends completes ranked there low fun e rank₁ copy added copied same => ?_
      have marked := addClass_extends added.ranked copy toolbarMark
      have whole := added.trans marked
      refine marked.trans (append_extends marked.ranked (whole.current target goal) (marked.current copy copied.current) ?_)
      rw [same,whole.face target goal,whole.rank target goal]
      exact lower

theorem addMask_upholds (ranked : Ranked d rank) (there : d.Current id) : Upholds d rank (addMask d id) := by
  unfold addMask
  split
  · exact ⟨rank,.refl ranked⟩
  · obtain ⟨rank₁,made,mask⟩ := made_light ranked "div" [⟨"class",maskMark⟩] (by decide) rfl 0
    have created := create_created ranked.forest (.element "div" [⟨"class",maskMark⟩])
    have here := made.current id there
    refine ⟨rank₁,made.trans (after_extends made.ranked here mask.current created.newParent fun p linked => mask.low ?_)⟩
    rw [Nat.zero_add]
    exact made.ranked.floor p (made.ranked.forest.up here linked).1

theorem drawSidebar_ends (completes : Completes draw k) (ranked : Ranked d rank) (there : d.Current id)
    (found : drawingOf? d id = some .sidebar) (low : rank id ≤ k) : Ends d rank (drawSidebar draw d id) := by
  rw [drawSidebar_eq]
  refine Ends.bind (.foldlM _ ranked fun e rank₁ n inside added => ?_) fun e rank₁ added =>
    .pure (addMask_upholds added.ranked (added.current id there))
  obtain ⟨child,tag⟩ := mem_childrenByTag.mp inside
  have current := (ranked.forest.down there child).1
  have lower := ranked.child there child
  rw [weight_of_drawing found,if_pos (by decide)] at lower
  refine copyToolbar_ends completes added.ranked (added.current n current) ?_ ?_
  · rw [← tag]
    exact congrArg Face.tag (added.face n current)
  · rw [added.rank n current]
    omega

theorem drawComponent_ends (completes : Completes draw k) (ranked : Ranked d rank) (there : d.Current id) (low : rank id ≤ k) :
    Ends d rank (drawComponent draw d id) := by
  unfold drawComponent
  split
  · rename_i drawing found
    have weight := weight_of_drawing found
    have light : drawing ∉ copying → Light d rank id (rank id) := fun own => ⟨there,by rw [weight,if_neg own],rfl⟩
    cases drawing with
    | image => exact .pure (drawImage_upholds (light (by decide)) ranked)
    | video => exact .pure (drawVideo_upholds (light (by decide)) ranked)
    | audio => exact .pure (drawAudio_upholds (light (by decide)) ranked)
    | frame => exact .pure (drawFrame_upholds (light (by decide)) ranked)
    | carousel => exact .pure (drawCarousel_upholds (light (by decide)) ranked)
    | accordion => exact drawAccordion_ends completes ranked there found low
    | sidebar => exact drawSidebar_ends completes ranked there found low
    | fillBox => exact .pure (drawFillBox_upholds (light (by decide)) ranked)
    | fitText => exact .pure (drawFitText_upholds (light (by decide)) ranked)
    | lightbox => exact .pure (drawLightbox_upholds (light (by decide)) ranked found)
    | items => exact drawItems_ends completes ranked there found low
  · exact .pure ⟨rank,.refl ranked⟩

theorem drawElement_ends (completes : Completes draw k) (ranked : Ranked d rank) (there : d.Current id) (low : rank id ≤ k) :
    Ends d rank (drawElement draw d id) := by
  unfold drawElement
  split
  · refine (drawComponent_ends completes ranked there low).bind fun e rank₁ added => ?_
    split
    · exact .pure (applyLayout_upholds added.ranked (added.current id there))
    · exact .pure ⟨rank₁,.refl added.ranked⟩
  · exact .pure ⟨rank,.refl ranked⟩

theorem Ranked.below (ranked : Ranked d rank) (current : d.Current n) (above : d.Above m n) : rank n ≤ rank m := by
  obtain ⟨h,steps⟩ := above
  induction h generalizing n with
  | zero => exact Nat.le_of_eq (congrArg rank steps.symm)
  | succ h ih =>
    obtain ⟨p,linked,more⟩ := steps
    obtain ⟨parent,child⟩ := ranked.forest.up current linked
    exact (Nat.le_of_add_right_le (ranked.child parent child)).trans (ih parent more)

-- Whatever is drawn below a node has no higher rank, and what a component copies has a lower one.
theorem drawUnder_completes (depth : Nat) : Completes (drawUnder depth) depth := by
  induction depth with
  | zero => exact fun d rank n _ _ low => absurd low (Nat.not_lt_zero _)
  | succ depth ih =>
    intro d rank n ranked there low
    refine .foldlM _ ranked fun e rank₁ x inside added => ?_
    obtain ⟨⟨current,above⟩,_⟩ := (ranked.forest.mem_elementsUnder there).mp inside
    have under := ranked.below current above
    refine drawElement_ends ih added.ranked (added.current x current) ?_
    rw [added.rank x current]
    omega

-- No component that makes copies may come to lie below itself.
def Acyclic (d : Dom) : Prop := ∀ n, (face d n).copies = true → ¬ Relation.TransGen (Holds d) n n

theorem Ranked.reached (ranked : Ranked d rank) (path : Relation.ReflTransGen (Holds d) n m) : rank m ≤ rank n := by
  induction path with
  | refl => exact Nat.le_refl _
  | tail _ holds ih => exact (Nat.le_of_add_right_le (ranked.down _ _ holds)).trans ih

theorem Ranked.acyclic (ranked : Ranked d rank) : Acyclic d := by
  intro n copies circle
  obtain ⟨m,holds,back⟩ := Relation.TransGen.head'_iff.mp circle
  have lower := ranked.down n m holds
  have back := ranked.reached back
  rw [Face.weight,if_pos copies] at lower
  omega

-- The rank of a node counts the components that make copies and may come to lie below it, itself included.
theorem ranked_of_acyclic (forest : d.Forest) (top : d.Current root) (acyclic : Acyclic d) :
    ∃ rank, Ranked d rank ∧ ∀ n, rank n ≤ d.slots.size := by
  classical
  let reached (n : NodeId) : Finset Nat := (Finset.range d.slots.size).filter fun i =>
    ∃ c, d.Current c ∧ c.slot = i ∧ (face d c).copies = true ∧ Relation.ReflTransGen (Holds d) n c
  have own : ∀ n, d.Current n → (face d n).copies = true → n.slot ∈ reached n := fun n there copies =>
    Finset.mem_filter.mpr ⟨Finset.mem_range.mpr there.lt,n,there,rfl,copies,.refl⟩
  have fewer : ∀ n m, Holds d n m → reached m ⊆ reached n := by
    intro n m holds i inside
    obtain ⟨bound,c,there,slot,copies,path⟩ := Finset.mem_filter.mp inside
    exact Finset.mem_filter.mpr ⟨bound,c,there,slot,copies,.head holds path⟩
  have bounded : ∀ n, (reached n).card ≤ d.slots.size := fun n =>
    (Finset.card_filter_le _ _).trans_eq (Finset.card_range _)
  refine ⟨fun n => (reached n).card,⟨forest,top,?_,?_⟩,bounded⟩
  · intro n there
    cases copies : (face d n).copies with
    | false => simp [Face.weight,copies]
    | true => simpa [Face.weight,copies] using ⟨_,own n there copies⟩
  · intro n m holds
    cases copies : (face d n).copies with
    | false => simpa [Face.weight,copies] using Finset.card_le_card (fewer n m holds)
    | true =>
      have absent : n.slot ∉ reached m := by
        intro inside
        obtain ⟨_,c,there,slot,_,path⟩ := Finset.mem_filter.mp inside
        cases there.same holds.1 slot
        exact acyclic n copies (.head' holds path)
      have less := Finset.card_lt_card (Finset.ssubset_iff_subset_ne.mpr ⟨fewer n m holds,fun same =>
        absent (same ▸ own n holds.1 copies)⟩)
      rw [Face.weight,if_pos copies]
      exact less

-- All drawing comes to an end: that of the page, and that which begins at any node.
structure Drawable (d : Dom) : Prop where
  page : (drawPage d).isSome = true
  subtree : ∀ n, d.Current n → (drawSubtree d n).isSome = true
  component : ∀ n, d.Current n → (drawOne d n).isSome = true

theorem Ends.isSome {result : Option Dom} (ends : Ends d rank result) : result.isSome = true := by
  obtain ⟨d',rfl,_⟩ := ends
  rfl

theorem drawing_ends (source : Text) (acyclic : Acyclic (read source)) : Drawable (read source) := by
  obtain ⟨rank,ranked,bounded⟩ := ranked_of_acyclic (read_forest source) (read_root source) acyclic
  generalize read source = d at ranked bounded
  have completes := drawUnder_completes (copyDepth d)
  have low (n : NodeId) : rank n < copyDepth d := by
    have bound := bounded n
    unfold copyDepth height
    omega
  refine ⟨(Ends.foldlM _ ranked fun e rank₁ n inside added => ?_).isSome,
    fun n there => (completes d rank n ranked there (low n)).isSome,
    fun n there => (drawComponent_ends completes ranked there (low n).le).isSome⟩
  have there := ((ranked.forest.mem_elementsUnder ranked.top).mp inside).1.1
  split
  · refine drawElement_ends completes added.ranked (added.current n there) ?_
    rw [added.rank n there]
    exact (low n).le
  · exact .pure ⟨rank₁,.refl added.ranked⟩

instance (d : Dom) (n : NodeId) : Decidable (d.Current n) := decidable_of_iff _ isCurrent_iff

instance (d : Dom) (n m : NodeId) : Decidable (Holds d n m) := inferInstanceAs (Decidable (_ ∧ _ ∧ _))

def places (d : Dom) : List NodeId :=
  (List.range d.slots.size).map fun i => ⟨i,((d.slots[i]?).map (·.stamp)).getD 0⟩

theorem mem_places (there : d.Current n) : n ∈ places d := by
  obtain ⟨s,found,_,stamp⟩ := id there
  refine List.mem_map.mpr ⟨n.slot,List.mem_range.mpr there.lt,?_⟩
  rw [slot?] at found
  rw [found,Option.map_some,Option.getD_some,stamp]

theorem ranked_of_places (forest : d.Forest) (top : d.Current root) (rank : NodeId → Nat)
    (all : ∀ n ∈ places d, (face d n).weight ≤ rank n ∧ ∀ m ∈ places d, Holds d n m → rank m + (face d n).weight ≤ rank n) :
    Ranked d rank :=
  ⟨forest,top,fun n there => (all n (mem_places there)).1,fun n m holds =>
    (all n (mem_places holds.1)).2 m (mem_places holds.2.1) holds⟩

-- A list that shows an accordion.
def shownPage : Text := "<amp-list template=row></amp-list><template id=row><amp-accordion><section>text"

theorem drawing_ends_shown : Acyclic (read shownPage) ∧ Drawable (read shownPage) :=
  have acyclic := (ranked_of_places (read_forest shownPage) (read_root shownPage) (fun n => [2,2,0,2,2,1,1].getD n.slot 0)
    (by decide +kernel)).acyclic
  ⟨acyclic,drawing_ends shownPage acyclic⟩

-- Two lists of which each one lies in the other one's template, and none in its own.
def circlePage : Text := "<template id=a><amp-list template=b></amp-list></template><template id=b><amp-list template=a>"

example : drawPage (read circlePage) = none := by
  rw [show circlePage = _ from chars_of_literal rfl]
  decide +kernel

end StyleTrim.Amp
