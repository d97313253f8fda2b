import StyleTrim.Proofs.Copying
import StyleTrim.Proofs.Planting
namespace StyleTrim.Amp
open Text Dom
variable {d d' d₁ d₂ : Dom} {id m n : NodeId} {draw : Draw} {drawing : Drawing} {tag : Text}

-- Drawing a page only adds to it, however far it has to follow copies within copies.

theorem drawing_ne_section (drawn : drawing? tag = some drawing) : tag ≠ ("section" : Text) := by
  rintro rfl
  exact absurd (drawing?_begins drawn) (by decide)

theorem accordion_tag (drawn : drawing? tag = some .accordion) : tag = ("amp-accordion" : Text) := by
  unfold drawing? at drawn
  iterate 5 replace drawn := (drawn_cases drawn).resolve_left fun taken => by cases taken.2
  rcases drawn_cases drawn with ⟨named,_⟩ | drawn
  · simpa [isOneOf,ofStrings] using named
  · iterate 5 replace drawn := (drawn_cases drawn).resolve_left fun taken => by cases taken.2
    cases drawn

theorem drawComponent_adds (keeps : Keeps draw) (forest : d.Forest) (top : d.Current root) (there : d.Current id)
    (ran : drawComponent draw d id = some d') : Adds root [] d d' := by
  unfold drawComponent at ran
  split at ran
  · rename_i drawing found
    obtain ⟨tag,named,drawn⟩ := Option.bind_eq_some_iff.mp found
    have steady : d.tag? id ≠ some ("section" : Text) := by
      rw [named]
      exact fun same => drawing_ne_section drawn (Option.some.inj same)
    cases drawing with
    | image => cases ran; exact (drawImage_adds forest there).rehost root
    | video => cases ran; exact (drawVideo_adds forest there steady).rehost root
    | audio => cases ran; exact (drawAudio_adds forest there steady).rehost root
    | frame => cases ran; exact (drawFrame_adds forest there).rehost root
    | carousel => cases ran; exact (drawCarousel_adds forest there steady).rehost root
    | accordion =>
      have own := accordion_tag drawn
      exact drawAccordion_adds keeps forest top there (own ▸ named) ran
    | sidebar => exact drawSidebar_adds keeps forest top there ran
    | fillBox => cases ran; exact (drawFillBox_adds forest there steady).rehost root
    | fitText => cases ran; exact (drawFitText_adds forest there steady).rehost root
    | lightbox => cases ran; exact (drawLightbox_adds forest there).rehost root
    | items => exact drawItems_adds keeps forest top there ran
  · cases ran
    exact .refl forest _

theorem drawElement_adds (keeps : Keeps draw) (forest : d.Forest) (top : d.Current root) (there : d.Current id)
    (ran : drawElement draw d id = some d') : Adds root [] d d' := by
  unfold drawElement at ran
  split at ran
  · obtain ⟨e,drawn,laid⟩ := Option.bind_eq_some_iff.mp ran
    have adds := drawComponent_adds keeps forest top there drawn
    cases laid
    split
    · exact adds.trans ((applyLayout_adds adds.forest (adds.current id there)).rehost root)
    · exact adds
  · cases ran
    exact .refl forest _

theorem drawEach_adds (keeps : Keeps draw) (forest : d.Forest) (top : d.Current root) (there : d.Current id)
    (ran : (d.elementsUnder id).foldlM (drawElement draw) d = some d') : Adds root [] d d' := by
  refine foldlM_keeps (R := Adds root [] _) _ (.refl forest _) ?_ ran
  intro e n e' inside adds drawn
  have current := ((forest.mem_elementsUnder there).mp inside).1.1
  exact adds.trans (drawElement_adds keeps adds.forest (adds.current root top) (adds.current n current) drawn)

theorem drawUnder_keeps (depth : Nat) : Keeps (drawUnder depth) := by
  induction depth with
  | zero => exact fun _ _ _ _ _ _ ran => nomatch ran
  | succ depth ih =>
    intro d n d' forest top there ran
    exact drawEach_adds ih forest top there ran

-- The result of drawing a page, if that comes to an end: no copies lie deeper than some depth.
def Returns (d d' : Dom) : Prop := ∃ depth, drawPageTo depth d = some d'

theorem drawPage_returns (drawn : drawPage d = some d') : Returns d d' := ⟨copyDepth d,drawn⟩

theorem Returns.adds (returns : Returns d d') (forest : d.Forest) (top : d.Current root) : Adds root [] d d' := by
  obtain ⟨depth,ran⟩ := returns
  refine foldlM_keeps (R := Adds root [] _) _ (.refl forest _) ?_ ran
  intro e n e' inside adds drawn
  have current := ((forest.mem_elementsUnder top).mp inside).1.1
  split at drawn
  · exact adds.trans (drawElement_adds (drawUnder_keeps depth) adds.forest (adds.current root top) (adds.current n current) drawn)
  · cases drawn
    exact adds

-- What drawing leaves of a node: its place below the document and all nodes above it, its kind with its tag
-- or text, and the values of its attributes, but for classes and the marks of accordions.
structure Kept (d d' : Dom) (n : NodeId) : Prop where
  attached : d'.isAttached n = true
  kind : d'.kind? n = d.kind? n
  ancestors : ∀ a ∈ d.ancestors n, a ∈ d'.ancestors n
  values : ∀ name, d'.attribute? n name = d.attribute? n name ∨ d.MayChange n name

theorem drawing_only_adds (source : Text) (returns : Returns (read source) d') (inside : n ∈ (read source).descendants root) :
    Kept (read source) d' n := by
  have forest := read_forest source
  have top := read_root source
  have adds := returns.adds forest top
  obtain ⟨current,above⟩ := (forest.mem_descendants top).mp inside
  have there := adds.current n current
  have upward := adds.forest.mem_ancestors (a := root) there
  refine ⟨?_,adds.kind n current,?_,fun name => adds.values n name current⟩
  · rw [isAttached,there.node?,List.contains_iff_mem.mpr (upward.mpr (adds.above current above))]
    rfl
  · intro a inside
    rw [forest.mem_ancestors current] at inside
    exact (adds.forest.mem_ancestors there).mpr (adds.above current inside)

def accordionPage : Text := "<amp-accordion><section><p>"

theorem drawing_only_adds_accordion : ∃ d', Returns (read accordionPage) d' ∧
    ⟨6,0⟩ ∈ (read accordionPage).descendants root ∧ Kept (read accordionPage) d' ⟨6,0⟩ := by
  have drawn : (drawPage (read accordionPage)).isSome = true ∧ ⟨6,0⟩ ∈ (read accordionPage).descendants root := by
    decide +kernel
  obtain ⟨d',page⟩ := Option.isSome_iff_exists.mp drawn.1
  have returns := drawPage_returns page
  exact ⟨d',returns,drawn.2,drawing_only_adds accordionPage returns drawn.2⟩

end StyleTrim.Amp
