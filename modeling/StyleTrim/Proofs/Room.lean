import StyleTrim.Proofs.Simulation
namespace StyleTrim.Amp
open Text Dom
variable {d d' d₁ d₂ : Dom} {id item list section_ : NodeId} {depth more : Nat} {draw wider : Draw}

-- A drawing does not depend on the room there is for it: with more room more pages come to an end, and those that did
-- look the same.

-- Whatever is drawn is drawn alike by another way of drawing copies.
def Within (draw wider : Draw) : Prop := ∀ {d id d'}, draw d id = some d' → wider d id = some d'

theorem foldlM_within {step wide : Dom → NodeId → Option Dom}
    (within : ∀ {d id d'}, step d id = some d' → wide d id = some d') {ids : List NodeId}
    (ran : ids.foldlM step d = some d') : ids.foldlM wide d = some d' := by
  induction ids generalizing d with
  | nil => exact ran
  | cons id ids ih =>
    obtain ⟨e,drawn,rest⟩ := Option.bind_eq_some_iff.mp ran
    exact Option.bind_eq_some_iff.mpr ⟨e,within drawn,ih rest⟩

theorem ite_within {c : Prop} [Decidable c] {yes no yes' no' : Option Dom} (holds : yes = some d' → yes' = some d')
    (fails : no = some d' → no' = some d') (drawn : (if c then yes else no) = some d') :
    (if c then yes' else no') = some d' := by
  split
  · rw [if_pos ‹c›] at drawn
    exact holds drawn
  · rw [if_neg ‹¬c›] at drawn
    exact fails drawn

theorem bind_within {result wide : Option Dom} {next : Dom → Option Dom} (within : ∀ {e}, result = some e → wide = some e)
    (drawn : result.bind next = some d') : wide.bind next = some d' := by
  obtain ⟨e,first,rest⟩ := Option.bind_eq_some_iff.mp drawn
  exact Option.bind_eq_some_iff.mpr ⟨e,within first,rest⟩

theorem doubleSection_within (within : Within draw wider) (drawn : doubleSection draw d section_ = some d') :
    doubleSection wider d section_ = some d' := by
  unfold doubleSection at drawn ⊢
  split at drawn
  · exact drawn
  · exact within drawn

theorem drawAccordion_within (within : Within draw wider) (drawn : drawAccordion draw d id = some d') :
    drawAccordion wider d id = some d' := ite_within (fun same => same) (foldlM_within (doubleSection_within within)) drawn

theorem addItem_within (within : Within draw wider) (drawn : addItem draw list d item = some d') :
    addItem wider list d item = some d' := by
  unfold addItem at drawn ⊢
  split at drawn
  · exact drawn
  · exact within drawn

theorem drawItems_within (within : Within draw wider) (drawn : drawItems draw d id = some d') :
    drawItems wider d id = some d' := by
  refine ite_within (fun same => same) (fun drawn => ?_) drawn
  split at drawn
  · exact drawn
  · exact ite_within (fun same => same) (bind_within (foldlM_within (addItem_within within))) drawn

theorem copyToolbar_within (within : Within draw wider) (drawn : copyToolbar draw d id = some d') :
    copyToolbar wider d id = some d' := by
  unfold copyToolbar at drawn ⊢
  split at drawn
  · exact drawn
  · refine ite_within (fun same => same) (fun drawn => ?_) drawn
    split at drawn
    · exact drawn
    · exact within drawn

theorem drawSidebar_within (within : Within draw wider) (drawn : drawSidebar draw d id = some d') :
    drawSidebar wider d id = some d' := bind_within (foldlM_within (copyToolbar_within within)) drawn

theorem drawComponent_within (within : Within draw wider) (drawn : drawComponent draw d id = some d') :
    drawComponent wider d id = some d' := by
  unfold drawComponent at drawn ⊢
  split at drawn
  · rename_i drawing _
    cases drawing with
    | accordion => exact drawAccordion_within within drawn
    | sidebar => exact drawSidebar_within within drawn
    | items => exact drawItems_within within drawn
    | _ => exact drawn
  · exact drawn

theorem drawElement_within (within : Within draw wider) (drawn : drawElement draw d id = some d') :
    drawElement wider d id = some d' := ite_within (bind_within (drawComponent_within within)) (fun same => same) drawn

theorem drawUnder_within (deeper : depth ≤ more) : Within (drawUnder depth) (drawUnder more) := by
  induction depth generalizing more with
  | zero => exact fun drawn => nomatch drawn
  | succ depth ih =>
    obtain ⟨more,rfl⟩ : ∃ n, more = n + 1 := ⟨more - 1,by omega⟩
    exact foldlM_within (drawElement_within (ih (by omega)))

theorem drawPageTo_more (deeper : depth ≤ more) (drawn : drawPageTo depth d = some d') : drawPageTo more d = some d' :=
  foldlM_within (ite_within (drawElement_within (drawUnder_within deeper)) (fun same => same)) drawn

-- A page has at most one drawing, however deep its copies lie.
theorem Returns.unique (first : Returns d d₁) (second : Returns d d₂) : d₁ = d₂ := by
  obtain ⟨depth,first⟩ := first
  obtain ⟨more,second⟩ := second
  have deep := drawPageTo_more (Nat.le_max_left depth more) first
  rw [drawPageTo_more (Nat.le_max_right depth more) second] at deep
  exact (Option.some.inj deep).symm

end StyleTrim.Amp
