import StyleTrim.Proofs.Building
import StyleTrim.Proofs.Classes
import StyleTrim.Proofs.Shapes
namespace StyleTrim.Amp
open Text Dom
variable {d d' d₀ e e' : Dom} {a c id k m n s track x : NodeId} {l done rest : List NodeId} {p : Payload} {oneAtATime : Bool}

-- A carousel takes its slides onto its track one after the other and in their order, and touches nothing else.

def slideMark : Text := "amp-carousel-slide"

def isShownOneAtATime (d : Dom) (id : NodeId) : Bool :=
  (d.attribute? id "type").any fun kind => isOneOf (trim kind) ["slides"]

-- The children that go onto the track.
def onStage (d : Dom) (c : NodeId) : Bool := isSlide d c && d.isElement c
def slides (d : Dom) (id : NodeId) : List NodeId := (d.children id).filter (onStage d)

def itemBox : Payload := .element "div" [⟨"class","i-amphtml-slide-item"⟩]

def trackBox (oneAtATime : Bool) : Payload :=
  .element "div" (if oneAtATime then [⟨"class",slideTrack⟩,⟨"aria-live","polite"⟩] else [⟨"class",scrollTrack⟩])

def buttonBox (classes label : Text) : Payload :=
  .element "div" [⟨"class",classes⟩,⟨"role","button"⟩,⟨"tabindex","0"⟩,⟨"aria-label",label⟩]

def backClasses (loops : Bool) : Text :=
  if loops then "amp-carousel-button amp-carousel-button-prev"
  else "amp-carousel-button amp-carousel-button-prev" ++ " amp-disabled"

def backBox (loops : Bool) : Payload := buttonBox (backClasses loops) "Previous item in carousel"
def nextBox : Payload := buttonBox "amp-carousel-button amp-carousel-button-next" "Next item in carousel"

theorem drawCarousel_eq (scroll : d.hasChildWithClass id slideTrack = false) (strip : d.hasChildWithClass id scrollTrack = false) :
    drawCarousel d id = ((((slides d id).foldl (placeSlide (isShownOneAtATime d id) (d.create (trackBox (isShownOneAtATime d id))).2)
      (d.create (trackBox (isShownOneAtATime d id))).1).appendChild id (d.create (trackBox (isShownOneAtATime d id))).2).put id
        (backBox (d.hasAttribute id "loop"))).put id nextBox := by
  rw [drawCarousel,if_neg (by simp [scroll,strip]),elementChildren,List.filter_filter]
  rfl

theorem above_top (top : d.parent? n = none) (above : d.Above a n) : a = n := by
  rcases above.cases with same | ⟨p,linked,_⟩
  · exact same
  · rw [top] at linked
    cases linked

-- Where a slide is on the track: itself, or in a box of its own.
inductive OnTrack (track : NodeId) (d e : Dom) (s : NodeId) : Bool → NodeId → Prop where
  | plain : e.parent? s = some track → OnTrack track d e s false s
  | boxed {x : NodeId} : ¬ d.Current x → e.node? x = some itemBox → e.parent? x = some track → e.children x = [s] →
      e.parent? s = some x → OnTrack track d e s true x

-- What else is done to the document leaves it there.
theorem OnTrack.later (place : OnTrack track d e s oneAtATime x) (earlier : ∀ m, d₀.Current m → d.Current m)
    (parent : e'.parent? s = e.parent? s)
    (box : ¬ d.Current x → e'.node? x = e.node? x ∧ e'.parent? x = e.parent? x ∧ e'.children x = e.children x) :
    OnTrack track d₀ e' s oneAtATime x := by
  cases place with
  | plain upward => exact .plain (parent.trans upward)
  | boxed absent node upward below inner =>
    obtain ⟨node',upward',below'⟩ := box absent
    exact .boxed (fun old => absent (earlier _ old)) (node'.trans node) (upward'.trans upward) (below'.trans below) (parent.trans inner)

-- A document in which one more slide came onto the track, as `x` or in it.
structure Seated (oneAtATime : Bool) (track : NodeId) (d e : Dom) (s x : NodeId) : Prop where
  forest : e.Forest
  current : ∀ m, e.Current m ↔ d.Current m ∨ m = x
  node : ∀ m, d.Current m → e.node? m = d.node? m
  parent : ∀ m, d.Current m → m ≠ s → e.parent? m = d.parent? m
  children : ∀ m, d.Current m → e.children m = if m = track then d.children m ++ [x] else (d.children m).filter (· ≠ s)
  place : OnTrack track d e s oneAtATime x

theorem append_seated (forest : d.Forest) (there : d.Current track) (top : d.parent? track = none) (current : d.Current s)
    (linked : d.parent? s = some id) (other : id ≠ track) : Seated false track d (d.appendChild track s) s s := by
  have free : ¬ d.Above s track := by
    intro above
    rw [above_top top above,top] at linked
    cases linked
  have moved := appendChild_moved forest there current free
  refine ⟨moved.receives forest current ⟨there,free,inserts_last _ _⟩,?_,fun m _ => moved.node m,?_,?_,.plain ?_⟩
  · intro m
    rw [moved.current,or_iff_left_of_imp]
    rintro rfl
    exact current
  · intro m there apart
    rw [moved.parent m there,if_neg apart]
  · intro m old
    rw [moved.children m old]
    by_cases same : m = track
    · subst same
      rw [if_pos rfl,if_pos rfl,forest.filter_absent there (by rw [linked]; simpa using other)]
    · rw [if_neg (by simpa using Ne.symm same),if_neg same]
  · rw [moved.parent s current,if_pos rfl]

theorem box_seated (forest : d.Forest) (there : d.Current track) (top : d.parent? track = none) (current : d.Current s)
    (linked : d.parent? s = some id) (other : id ≠ track) : ∃ x, x = (d.create itemBox).2 ∧
    Seated true track d (((d.create itemBox).1.appendChild x s).appendChild track x) s x := by
  have created := create_created forest itemBox
  have forest₁ := create_forest forest itemBox
  refine ⟨_,rfl,?_⟩
  generalize (d.create itemBox).2 = x at *
  generalize (d.create itemBox).1 = d₁ at *
  have still : ∀ m, d.Current m → d₁.Current m := fun m old => (created.current m).mpr (.inl old)
  have item := (created.current x).mpr (.inr rfl)
  have apart := created.fresh s current
  have apart' := created.fresh track there
  have free : ¬ d₁.Above s x := fun above => apart (above_top created.newParent above)
  have moved := appendChild_moved forest₁ item (still s current) free
  have forest₂ := moved.receives forest₁ (still s current) ⟨item,free,inserts_last _ _⟩
  generalize d₁.appendChild x s = d₂ at *
  have item₂ := (moved.current x).mpr item
  have track₂ := (moved.current track).mpr (still track there)
  have slide : track ≠ s := by
    rintro rfl
    rw [top] at linked
    cases linked
  have alone : d₂.parent? x = none := by rw [moved.parent x item,if_neg (Ne.symm apart),created.newParent]
  have top₂ : d₂.parent? track = none := by
    rw [moved.parent track (still track there),if_neg slide,created.parent track there,top]
  have free₂ : ¬ d₂.Above x track := fun above => apart' (above_top top₂ above).symm
  have moved₂ := appendChild_moved forest₂ track₂ item₂ free₂
  refine ⟨moved₂.receives forest₂ item₂ ⟨track₂,free₂,inserts_last _ _⟩,?_,?_,?_,?_,?_⟩
  · intro m
    rw [moved₂.current,moved.current,created.current]
  · intro m old
    rw [moved₂.node,moved.node,created.node m old]
  · intro m old other
    rw [moved₂.parent m ((moved.current m).mpr (still m old)),if_neg (created.fresh m old),moved.parent m (still m old),
      if_neg other,created.parent m old]
  · intro m old
    have before : d₂.children m = (d.children m).filter (· ≠ s) := by
      rw [moved.children m (still m old),if_neg (by simpa using (created.fresh m old).symm),created.children m old]
    rw [moved₂.children m ((moved.current m).mpr (still m old)),forest₂.filter_alone ((moved.current m).mpr (still m old)) alone,before]
    by_cases same : m = track
    · subst same
      rw [if_pos rfl,if_pos rfl,forest.filter_absent there (by rw [linked]; simpa using other)]
    · rw [if_neg (by simpa using Ne.symm same),if_neg same]
  · refine .boxed (fun old => created.fresh x old rfl) ?_ ?_ ?_ ?_
    · rw [moved₂.node,moved.node,created.newNode]
    · rw [moved₂.parent x item₂,if_pos rfl]
    · rw [moved₂.children x item₂,if_neg (by simpa using apart'),forest₂.filter_alone item₂ alone,moved.children x item,
        if_pos rfl,created.newChildren]
      rfl
    · rw [moved₂.parent s ((moved.current s).mpr (still s current)),if_neg apart,moved.parent s (still s current),if_pos rfl]

theorem placeSlide_seated (oneAtATime : Bool) (forest : d.Forest) (there : d.Current track) (top : d.parent? track = none)
    (current : d.Current s) (linked : d.parent? s = some id) (other : id ≠ track) :
    ∃ x, Seated oneAtATime track (d.addClass s slideMark) (placeSlide oneAtATime track d s) s x := by
  have forest := addClass_forest forest s slideMark
  have there := (addClass_current d s track slideMark).mpr there
  have current := (addClass_current d s s slideMark).mpr current
  rw [← addClass_parent? d s _ slideMark] at top linked
  cases oneAtATime with
  | false => exact ⟨s,append_seated forest there top current linked other⟩
  | true =>
    obtain ⟨x,made,seated⟩ := box_seated forest there top current linked other
    rw [made] at seated
    exact ⟨_,seated⟩

-- A document in which the slides `done` have come onto the track.
structure Tracked (oneAtATime : Bool) (track : NodeId) (d e : Dom) (done : List NodeId) : Prop where
  forest : e.Forest
  current : ∀ m, e.Current m ↔ d.Current m ∨ m ∈ e.children track
  node : ∀ m, d.Current m → e.node? m = (d.node? m).map fun p => if m ∈ done then p.marked slideMark else p
  parent : ∀ m, d.Current m → m ∉ done → e.parent? m = d.parent? m
  children : ∀ m, d.Current m → m ≠ track → e.children m = (d.children m).filter (· ∉ done)
  places : List.Forall₂ (fun s x => OnTrack track d e s oneAtATime x) done (e.children track)

theorem filter_more (l done : List NodeId) (s : NodeId) :
    (l.filter (· ∉ done)).filter (· ≠ s) = l.filter (· ∉ done ++ [s]) := by
  rw [List.filter_filter]
  refine List.filter_congr fun x _ => ?_
  by_cases inside : x ∈ done <;> by_cases same : x = s <;> simp [inside,same]

-- The step of the loop. The slides before stay in their places, as the new one came from elsewhere.
theorem Tracked.seat (tracked : Tracked oneAtATime track d e done) (forest : d.Forest) (there : d.Current track)
    (listed : ∀ s ∈ done, d.Current s) (current : d.Current s) (linked : d.parent? s = some id)
    (new : s ∉ done) (seated : Seated oneAtATime track (e.addClass s slideMark) e' s x) :
    Tracked oneAtATime track d e' (done ++ [s]) := by
  have still : ∀ m, e.Current m → (e.addClass s slideMark).Current m := fun m => (addClass_current e s m slideMark).mpr
  have old : ∀ m, d.Current m → e.Current m := fun m there => (tracked.current m).mpr (.inl there)
  have painted := addClass_painted (old s current) slideMark
  have parents : ∀ m, e.Current m → m ≠ s → e'.parent? m = e.parent? m := by
    intro m there other
    rw [seated.parent m (still m there) other,painted.parent]
  have children : ∀ m, e.Current m → e'.children m = if m = track then e.children m ++ [x] else (e.children m).filter (· ≠ s) := by
    intro m there
    rw [seated.children m (still m there),painted.children]
  have behind : e'.children track = e.children track ++ [x] := by rw [children track (old track there),if_pos rfl]
  refine ⟨seated.forest,?_,?_,?_,?_,?_⟩
  · intro m
    rw [seated.current,painted.current,tracked.current,behind,List.mem_append,List.mem_singleton,or_assoc]
  · intro m there
    rw [seated.node m (still m (old m there))]
    by_cases same : m = s
    · subst same
      rw [addClass_node? (old m there),tracked.node m there]
      simp [new]
    · rw [painted.node m (old m there) same,tracked.node m there]
      simp [same]
  · intro m there outside
    rw [List.mem_append,List.mem_singleton,not_or] at outside
    rw [parents m (old m there) outside.2,tracked.parent m there outside.1]
  · intro m there apart
    rw [children m (old m there),if_neg apart,tracked.children m there apart,filter_more]
  · rw [behind]
    refine List.rel_append (List.forall₂_iff_zip.mpr ⟨tracked.places.length_eq,fun {t y} pair => ?_⟩) (.cons ?_ .nil)
    · obtain ⟨before,beside⟩ := List.of_mem_zip pair
      have apart : t ≠ s := by
        rintro rfl
        exact new before
      refine (List.forall₂_zip tracked.places pair).later (fun _ there => there) (parents t (old t (listed t before)) apart) fun absent => ?_
      have here := (tracked.current y).mpr (.inr beside)
      have others : ∀ m, d.Current m → y ≠ m := by
        rintro m there rfl
        exact absent there
      have upward : e.parent? s ≠ some y := by
        rw [tracked.parent s current new,linked]
        simpa using (others _ (forest.up current linked).1).symm
      refine ⟨?_,parents y here (others s current),?_⟩
      · rw [seated.node y (still y here),painted.node y here (others s current)]
      · rw [children y here,if_neg (others track there),tracked.forest.filter_absent here upward]
    · exact seated.place.later (fun m there => still m (old m there)) rfl fun _ => ⟨rfl,rfl,rfl⟩

-- The whole loop.
theorem placeSlides_tracked (oneAtATime : Bool) (forest : d.Forest) (there : d.Current track) (top : d.parent? track = none)
    (empty : d.children track = []) (other : id ≠ track) (once : l.Nodup)
    (told : ∀ s ∈ l, d.Current s ∧ d.parent? s = some id) :
    Tracked oneAtATime track d (l.foldl (placeSlide oneAtATime track) d) l := by
  refine foldl_done (R := fun e done => Tracked oneAtATime track d e done) ?_ fun e done s rest whole tracked => ?_
  · refine ⟨forest,?_,?_,fun _ _ _ => rfl,?_,by rw [empty]; exact .nil⟩
    · simp [empty]
    · simp
    · simp
  · rw [whole] at once told
    obtain ⟨current,linked⟩ := told s (by simp)
    have new : s ∉ done := fun inside => List.disjoint_of_nodup_append once inside List.mem_cons_self
    have listed : ∀ t ∈ done, d.Current t := fun t inside => (told t (List.mem_append_left _ inside)).1
    have outside : track ∉ done := by
      intro inside
      rw [(told track (List.mem_append_left _ inside)).2] at top
      cases top
    have old := fun m there => (tracked.current m).mpr (.inl there)
    obtain ⟨x,seated⟩ := placeSlide_seated oneAtATime tracked.forest (old track there)
      ((tracked.parent track there outside).trans top) (old s current) ((tracked.parent s current new).trans linked) other
    exact tracked.seat forest there listed current linked new seated

-- A document in which the slides of a carousel are on its track, and the track stands behind its other children, with
-- some boxes behind it.
structure Staged (d d' : Dom) (id track : NodeId) (boxes : List Payload) (behind : List NodeId) : Prop where
  forest : d'.Forest
  current : ∀ m, d'.Current m ↔ d.Current m ∨ m ∈ track :: behind ∨ m ∈ d'.children track
  new : ∀ m ∈ track :: behind, ¬ d.Current m
  order : d'.children id = (d.children id).filter (fun c => !onStage d c) ++ track :: behind
  trackNode : d'.node? track = some (trackBox (isShownOneAtATime d id))
  boxes : List.Forall₂ (fun p n => d'.node? n = some p ∧ d'.children n = []) boxes behind
  places : List.Forall₂ (fun s x => OnTrack track d d' s (isShownOneAtATime d id) x) (slides d id) (d'.children track)
  slide : ∀ s ∈ slides d id, d'.node? s = (d.node? s).map (·.marked slideMark)
  node : ∀ m, d.Current m → m ∉ slides d id → d'.node? m = d.node? m
  parent : ∀ m, d.Current m → m ∉ slides d id → d'.parent? m = d.parent? m
  children : ∀ m, d.Current m → m ≠ id → d'.children m = d.children m

-- No slide is above its carousel, and no other node has one for a child.
theorem slide_told (forest : d.Forest) (there : d.Current id) (inside : s ∈ slides d id) :
    d.Current s ∧ d.parent? s = some id ∧ ¬ d.Above s id := by
  have child := (List.mem_filter.mp inside).1
  obtain ⟨current,linked⟩ := forest.down there child
  exact ⟨current,linked,forest.strict there child⟩

theorem Tracked.free (tracked : Tracked oneAtATime track d₀ e (slides d id)) (created : Created d d₀ track p) (forest : d.Forest)
    (there : d.Current id) : ¬ e.Above track id := by
  intro above
  have same : ∀ m, d.Current m ∧ d.Above m id → e.parent? m = d.parent? m := by
    rintro m ⟨old,higher⟩
    rw [tracked.parent m ((created.current m).mpr (.inl old)) fun inside => (slide_told forest there inside).2.2 higher,
      created.parent m old]
  have higher := (above_congr same (fun m q holds linked => by
    rw [same m holds] at linked
    exact ⟨(forest.up holds.1 linked).1,(Above.of_parent linked (.refl q)).trans holds.2⟩) ⟨there,.refl id⟩).mp above
  exact created.fresh track (forest.above there higher) rfl

theorem filter_slides (forest : d.Forest) (there : d.Current id) (current : d.Current m) :
    (d.children m).filter (· ∉ slides d id) = if m = id then (d.children id).filter (fun c => !onStage d c) else d.children m := by
  split
  · rename_i same
    subst same
    refine List.filter_congr fun c child => ?_
    simp [slides,child]
  · rename_i other
    refine List.filter_eq_self.mpr fun c child => decide_eq_true fun inside => ?_
    exact other (Option.some.inj ((forest.down current child).2.symm.trans (slide_told forest there inside).2.1))

-- The track comes behind the children that stay.
theorem Tracked.hang (tracked : Tracked (isShownOneAtATime d id) track d₀ e (slides d id)) (forest : d.Forest) (there : d.Current id)
    (created : Created d d₀ track (trackBox (isShownOneAtATime d id))) : Staged d (e.appendChild id track) id track [] [] := by
  have still : ∀ m, d.Current m → d₀.Current m := fun m old => (created.current m).mpr (.inl old)
  have old : ∀ m, d.Current m → e.Current m := fun m there => (tracked.current m).mpr (.inl (still m there))
  have made := (created.current track).mpr (.inr rfl)
  have current := (tracked.current track).mpr (.inl made)
  have waiting : track ∉ slides d id := fun inside => created.fresh track (slide_told forest there inside).1 rfl
  have top : e.parent? track = none := (tracked.parent track made waiting).trans created.newParent
  have free := tracked.free created forest there
  have moved := appendChild_moved tracked.forest (old id there) current free
  have children : ∀ m, e.Current m → (e.appendChild id track).children m = if m = id then e.children m ++ [track] else e.children m := by
    intro m there
    rw [moved.children m there,tracked.forest.filter_alone there top]
    by_cases same : m = id
    · simp [same]
    · simp [same,Ne.symm same]
  have before : ∀ m, d.Current m →
      e.children m = if m = id then (d.children id).filter (fun c => !onStage d c) else d.children m := by
    intro m inside
    rw [tracked.children m (still m inside) (created.fresh m inside),created.children m inside,filter_slides forest there inside]
  have onTrack : (e.appendChild id track).children track = e.children track := by
    rw [children track current,if_neg (Ne.symm (created.fresh id there))]
  have node : ∀ m, d.Current m →
      (e.appendChild id track).node? m = (d.node? m).map fun p => if m ∈ slides d id then p.marked slideMark else p := by
    intro m there
    rw [moved.node,tracked.node m (still m there),created.node m there]
  refine ⟨moved.receives tracked.forest current ⟨old id there,free,inserts_last _ _⟩,?_,?_,?_,?_,.nil,?_,?_,?_,?_,?_⟩
  · intro m
    rw [moved.current,tracked.current,created.current,onTrack,List.mem_singleton,or_assoc]
  · intro m inside before
    exact created.fresh m before (List.mem_singleton.mp inside)
  · rw [children id (old id there),if_pos rfl,before id there,if_pos rfl]
  · rw [moved.node,tracked.node track made,created.newNode,Option.map_some,if_neg waiting]
  · rw [onTrack]
    refine List.forall₂_iff_zip.mpr ⟨tracked.places.length_eq,fun {s x} pair => ?_⟩
    obtain ⟨inside,beside⟩ := List.of_mem_zip pair
    have slide := old s (slide_told forest there inside).1
    have here := (tracked.current x).mpr (.inr beside)
    have others : ∀ m, d₀.Current m → ¬ d₀.Current x → x ≠ m := by
      rintro m there absent rfl
      exact absent there
    refine (List.forall₂_zip tracked.places pair).later still ?_ fun absent => ⟨moved.node x,?_,?_⟩
    · rw [moved.parent s slide,if_neg]
      rintro rfl
      exact waiting inside
    · rw [moved.parent x here,if_neg (others track made absent)]
    · rw [children x here,if_neg (others id (still id there) absent)]
  · intro s inside
    rw [node s (slide_told forest there inside).1]
    simp [inside]
  · intro m there outside
    rw [node m there]
    simp [outside]
  · intro m inside outside
    rw [moved.parent m (old m inside),if_neg (created.fresh m inside),tracked.parent m (still m inside) outside,
      created.parent m inside]
  · intro m inside other
    rw [children m (old m inside),if_neg other,before m inside,if_neg other]

-- A box more stands behind those that are there.
theorem Staged.put {boxes : List Payload} {behind : List NodeId} (staged : Staged d e id track boxes behind) (forest : d.Forest)
    (there : d.Current id) (joined : Joined e d' id n p) : Staged d d' id track (boxes ++ [p]) (behind ++ [n]) := by
  have old : ∀ m, d.Current m → e.Current m := fun m there => (staged.current m).mpr (.inl there)
  have current : ∀ m ∈ track :: behind, e.Current m := fun m inside => (staged.current m).mpr (.inr (.inl inside))
  have other : ∀ m ∈ track :: behind, m ≠ id := by
    rintro m inside rfl
    exact staged.new m inside there
  have made := current track List.mem_cons_self
  have onTrack : d'.children track = e.children track := by
    rw [joined.children track made,if_neg (other track List.mem_cons_self)]
  refine ⟨joined.forest,?_,?_,?_,?_,?_,?_,?_,?_,?_,?_⟩
  · intro m
    rw [joined.current,staged.current,onTrack]
    simp only [List.mem_cons,List.mem_append,List.not_mem_nil,or_false]
    tauto
  · intro m inside before
    rw [← List.cons_append,List.mem_append] at inside
    rcases inside with inside | same
    · exact staged.new m inside before
    · exact joined.fresh m (old m before) (List.mem_singleton.mp same)
  · rw [joined.children id (old id there),if_pos rfl,staged.order,List.append_assoc,List.cons_append]
  · rw [joined.node track made,staged.trackNode]
  · refine List.rel_append (List.forall₂_iff_zip.mpr ⟨staged.boxes.length_eq,fun {q m} pair => ?_⟩)
      (.cons ⟨joined.newNode,joined.newChildren⟩ .nil)
    have inside := List.mem_cons_of_mem track (List.of_mem_zip pair).2
    obtain ⟨node,bare⟩ := List.forall₂_zip staged.boxes pair
    exact ⟨(joined.node m (current m inside)).trans node,by rw [joined.children m (current m inside),if_neg (other m inside),bare]⟩
  · rw [onTrack]
    refine List.forall₂_iff_zip.mpr ⟨staged.places.length_eq,fun {s x} pair => ?_⟩
    obtain ⟨inside,beside⟩ := List.of_mem_zip pair
    have here := (staged.current x).mpr (.inr (.inr beside))
    refine (List.forall₂_zip staged.places pair).later (fun _ there => there)
      (joined.parent s (old s (slide_told forest there inside).1)) fun absent => ⟨joined.node x here,joined.parent x here,?_⟩
    rw [joined.children x here,if_neg]
    rintro rfl
    exact absent there
  · intro s inside
    rw [joined.node s (old s (slide_told forest there inside).1),staged.slide s inside]
  · intro m there outside
    rw [joined.node m (old m there),staged.node m there outside]
  · intro m there outside
    rw [joined.parent m (old m there),staged.parent m there outside]
  · intro m there other
    rw [joined.children m (old m there),if_neg other,staged.children m there other]

theorem drawCarousel_staged (forest : d.Forest) (there : d.Current id) (scroll : d.hasChildWithClass id slideTrack = false)
    (strip : d.hasChildWithClass id scrollTrack = false) : ∃ track buttons,
    Staged d (drawCarousel d id) id track [backBox (d.hasAttribute id "loop"),nextBox] buttons := by
  rw [drawCarousel_eq scroll strip]
  have created := create_created forest (trackBox (isShownOneAtATime d id))
  have forest₀ := create_forest forest (trackBox (isShownOneAtATime d id))
  generalize (d.create (trackBox (isShownOneAtATime d id))).2 = track at *
  generalize (d.create (trackBox (isShownOneAtATime d id))).1 = d₀ at *
  have told : ∀ s ∈ slides d id, d₀.Current s ∧ d₀.parent? s = some id := by
    intro s inside
    obtain ⟨current,linked,_⟩ := slide_told forest there inside
    exact ⟨(created.current s).mpr (.inl current),(created.parent s current).trans linked⟩
  have tracked := placeSlides_tracked (isShownOneAtATime d id) forest₀ ((created.current track).mpr (.inr rfl))
    created.newParent created.newChildren (created.fresh id there) ((forest.once there).filter _) told
  have hung := tracked.hang forest there created
  have back := put_joined hung.forest ((hung.current id).mpr (.inl there)) (backBox (d.hasAttribute id "loop"))
  have behind := hung.put forest there back
  have next := put_joined behind.forest ((behind.current id).mpr (.inl there)) nextBox
  exact ⟨track,_,behind.put forest there next⟩

theorem slideMark_token : Token slideMark := isToken_iff.mp (by decide)

-- A slide has the classes that adding the mark leaves it.
theorem Staged.hasClass {boxes : List Payload} {behind : List NodeId} (staged : Staged d e id track boxes behind)
    (forest : d.Forest) (there : d.Current id) (inside : s ∈ slides d id) (name : Text) :
    e.hasClass s name = (d.addClass s slideMark).hasClass s name := by
  apply hasClass_congr
  rw [attribute?,attribute?,staged.slide s inside,addClass_node? (slide_told forest there inside).1]

-- A carousel without a track is drawn. The children that are no slides stay in their order, and behind them come the track
-- and the buttons; the slides are on the track, each once and in their order, as they are or each alone in a box. No other
-- node changes, and of a slide nothing but its place and its class attribute. It has the mark and, of its classes, all that
-- adding the mark leaves: each that begins and ends in ink, and exactly those that it had if the value has plain edges.
theorem carousel_keeps_slides (forest : d.Forest) (there : d.Current id) (scroll : d.hasChildWithClass id slideTrack = false)
    (strip : d.hasChildWithClass id scrollTrack = false) : ∃ track buttons,
    Staged d (drawCarousel d id) id track [backBox (d.hasAttribute id "loop"),nextBox] buttons ∧ ∀ s ∈ slides d id,
      (drawCarousel d id).hasClass s slideMark = true ∧ (drawCarousel d id).children s = d.children s ∧
      (∀ name, Token name → d.hasClass s name = true → (drawCarousel d id).hasClass s name = true) ∧
      (d.hasClass s slideMark = true ∨ PlainEdges (d.classValue s) →
        ∀ name, (drawCarousel d id).hasClass s name = true ↔ d.hasClass s name = true ∨ name = slideMark) := by
  obtain ⟨track,buttons,staged⟩ := drawCarousel_staged forest there scroll strip
  refine ⟨track,buttons,staged,fun s inside => ?_⟩
  obtain ⟨current,linked,_⟩ := slide_told forest there inside
  simp only [staged.hasClass forest there inside]
  refine ⟨addClass_gives current slideMark_token,?_,fun name token has => addClass_keeps current current token _ has,
    addClass_hasClass current slideMark_token.filled slideMark_token.solid⟩
  refine staged.children s current ?_
  rintro rfl
  exact forest.apart current linked rfl

def stripPage : Text := "<amp-carousel type=slides><i placeholder></i>text<p class=a><p>"

-- The placeholder and the text stay in front; each paragraph gets a box.
theorem carousel_keeps_slides_boxed : ∃ d track one two buttons, d = drawCarousel (read stripPage) ⟨4,0⟩ ∧
    d.children ⟨4,0⟩ = [⟨5,0⟩,⟨6,0⟩,track] ++ buttons ∧ d.children track = [one,two] ∧ d.children one = [⟨7,0⟩] ∧
    d.children two = [⟨8,0⟩] ∧ d.hasClass ⟨7,0⟩ "a" = true := by
  have facts : (read stripPage).isCurrent ⟨4,0⟩ = true ∧ (read stripPage).hasChildWithClass ⟨4,0⟩ slideTrack = false ∧
      (read stripPage).hasChildWithClass ⟨4,0⟩ scrollTrack = false ∧ isShownOneAtATime (read stripPage) ⟨4,0⟩ = true ∧
      slides (read stripPage) ⟨4,0⟩ = [⟨7,0⟩,⟨8,0⟩] ∧ (read stripPage).hasClass ⟨7,0⟩ "a" = true ∧
      ((read stripPage).children ⟨4,0⟩).filter (fun c => !onStage (read stripPage) c) = [⟨5,0⟩,⟨6,0⟩] := by
    rw [show stripPage = _ from chars_of_literal rfl]
    decide +kernel
  obtain ⟨there,scroll,strip,boxed,inside,before,stay⟩ := facts
  obtain ⟨track,buttons,staged,classes⟩ := carousel_keeps_slides (read_forest stripPage) (isCurrent_iff.mp there) scroll strip
  have order := staged.order
  have places := staged.places
  rw [stay] at order
  rw [inside,boxed] at places
  obtain ⟨one,_,first,rest,onTrack⟩ := List.forall₂_cons_left_iff.mp places
  obtain ⟨two,_,second,none,rfl⟩ := List.forall₂_cons_left_iff.mp rest
  cases List.forall₂_nil_left_iff.mp none
  have alone : ∀ {s x}, OnTrack track (read stripPage) (drawCarousel (read stripPage) ⟨4,0⟩) s true x →
      (drawCarousel (read stripPage) ⟨4,0⟩).children x = [s] := by
    rintro s x (_ | ⟨_,_,_,below,_⟩)
    exact below
  have kept := (classes ⟨7,0⟩ (by simp [inside])).2.2.1 "a" (isToken_iff.mp (by decide)) before
  exact ⟨_,track,one,two,buttons,rfl,order,onTrack,alone first,alone second,kept⟩

end StyleTrim.Amp
