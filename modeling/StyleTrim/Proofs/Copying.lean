import StyleTrim.Proofs.Drawing
namespace StyleTrim
open Text

-- Copies of what the author wrote are added like any other new nodes, and so is what is drawn in them.

namespace Dom
variable {d d' d₁ d₂ : Dom} {c copy id m n p q s host : NodeId} {held l : List NodeId} {payload : Payload}

-- A copy that is new and stands alone.
structure Copied (d d' : Dom) (n copy : NodeId) : Prop where
  new : ¬ d.Current copy
  current : d'.Current copy
  top : d'.parent? copy = none
  tag : d'.tag? copy = d.tag? n

theorem Copied.later (copied : Copied d d₁ n copy) (adds : Adds host [] d₁ d₂) : Copied d d₂ n copy := by
  refine ⟨copied.new,adds.current copy copied.current,adds.top copy copied.current copied.top,?_⟩
  rw [adds.tag copied.current,copied.tag]

-- Of two nodes that stand alone, one can be put under the other.
theorem link_alone (forest : d.Forest) (there : d.Current p) (above : d.parent? p = none) (current : d.Current c)
    (top : d.parent? c = none) (apart : p ≠ c) :
    Moved d (d.link p c (· ++ [c])) (some p) c (· ++ [c]) ∧ Receives d p c (· ++ [c]) := by
  have moved := link_moved forest there current apart (· ++ [c])
  have resting : d.detach c = d := by rw [detach,top]
  rw [resting] at moved
  refine ⟨moved,there,fun upper => ?_,inserts_last _ _⟩
  rcases upper.cases with same | ⟨q,linked,_⟩
  · exact apart same.symm
  · rw [above] at linked
    cases linked

-- A copied child is put under the copy of its parent.
theorem Copied.linked (copied : Copied d d₁ n copy) (forest : d₁.Forest) (current : d₁.Current c) (top : d₁.parent? c = none)
    (apart : copy ≠ c) : Moved d₁ (d₁.link copy c (· ++ [c])) (some copy) c (· ++ [c]) ∧ Receives d₁ copy c (· ++ [c]) :=
  link_alone forest copied.current copied.top current top apart

theorem Copied.moved {place : List NodeId → List NodeId} {target : Option NodeId} (copied : Copied d d₁ n copy)
    (moved : Moved d₁ d₂ target c place) (apart : copy ≠ c) : Copied d d₂ n copy := by
  refine ⟨copied.new,(moved.current copy).mpr copied.current,?_,?_⟩
  · rw [moved.parent copy copied.current,if_neg apart,copied.top]
  · rw [tag?,moved.node,← tag?,copied.tag]

theorem cloneTo_adds (h : Nat) (forest : d.Forest) : Adds root [] d (d.cloneTo n h).1 ∧
    ∀ copy, (d.cloneTo n h).2 = some copy → Copied d (d.cloneTo n h).1 n copy := by
  induction h generalizing d n with
  | zero => exact ⟨.refl forest _,nofun⟩
  | succ h ih =>
    rw [cloneTo]
    split
    · exact ⟨.refl forest _,nofun⟩
    · rename_i payload found
      have created := create_created forest payload
      have adds := (Adds.refl forest root).create payload
      have fresh : Copied d (d.create payload).1 n (d.create payload).2 := by
        refine ⟨fun old => created.fresh _ old rfl,(created.current _).mpr (.inr rfl),created.newParent,?_⟩
        rw [tag?,tag?,created.newNode,found]
      dsimp only
      generalize (d.create payload).1.children n = l
      generalize (d.create payload).1 = e at adds fresh
      generalize (d.create payload).2 = copy at fresh ⊢
      suffices filled : Adds root [] d _ ∧ Copied d _ n copy from
        ⟨filled.1,fun _ same => Option.some.inj same ▸ filled.2⟩
      -- The copy stays alone while the copies of the children are put under it.
      induction l generalizing e with
      | nil => exact ⟨adds,fresh⟩
      | cons child more next =>
        obtain ⟨inner,copied⟩ := ih (n := child) adds.forest
        rw [List.foldl_cons]
        generalize e.cloneTo child h = cloned at inner copied ⊢
        obtain ⟨e',childCopy?⟩ := cloned
        cases childCopy? with
        | none => exact next e' (adds.trans inner) (fresh.later inner)
        | some childCopy =>
          have isNew := copied childCopy rfl
          have apart : copy ≠ childCopy := by
            rintro rfl
            exact isNew.new fresh.current
          have copied := fresh.later inner
          obtain ⟨moved,received⟩ := copied.linked inner.forest isNew.current isNew.top apart
          have new : ¬ d.Current childCopy := fun old => isNew.new (adds.current _ old)
          exact next _ ((adds.trans inner).attach new isNew.current isNew.top moved received) (copied.moved moved apart)

theorem clone_adds (forest : d.Forest) (n : NodeId) : Adds root [] d (d.clone n).1 ∧
    ∀ copy, (d.clone n).2 = some copy → Copied d (d.clone n).1 n copy := cloneTo_adds d.height forest

-- A store that differs from another in attributes only.
structure Relabelled (d d' : Dom) : Prop where
  current : ∀ m, d'.Current m ↔ d.Current m
  parent : ∀ m, d'.parent? m = d.parent? m
  kind : ∀ m, d'.kind? m = d.kind? m

theorem Relabelled.refl (d : Dom) : Relabelled d d := ⟨fun _ => .rfl,fun _ => rfl,fun _ => rfl⟩

theorem Relabelled.trans (one : Relabelled d d₁) (other : Relabelled d₁ d₂) : Relabelled d d₂ := by
  refine ⟨?_,?_,?_⟩
  · intro m
    rw [other.current,one.current]
  · intro m
    rw [other.parent,one.parent]
  · intro m
    rw [other.kind,one.kind]

theorem edit_relabelled (d : Dom) (n : NodeId) (f : List Attribute → List Attribute) : Relabelled d (d.editAttributes n f) :=
  ⟨fun _ => edit_current,fun m => edit_parent? d n m f,fun m => edit_kind? d n m f⟩

theorem addClass_relabelled (d : Dom) (n : NodeId) (name : Text) : Relabelled d (d.addClass n name) := by
  unfold addClass
  split
  · exact .refl d
  · exact edit_relabelled d n _

theorem Copied.relabelled (copied : Copied d d₁ n copy) (same : Relabelled d₁ d₂) : Copied d d₂ n copy := by
  refine ⟨copied.new,(same.current copy).mpr copied.current,by rw [same.parent,copied.top],?_⟩
  rw [tag?_congr (same.kind copy),copied.tag]

end Dom

namespace Amp
open Dom
variable {d d' d₁ d₂ : Dom} {c copy id m n p s list navigation : NodeId} {l : List NodeId} {draw : Draw}

def heading (d : Dom) (header : NodeId) (isOpen : Bool) : Dom :=
  (((d.addClass header headerMark).setAttribute header "role" "button").setAttribute header "tabindex" "0").setAttribute
    header "aria-expanded" (if isOpen then "true" else "false")

theorem heading_relabelled (d : Dom) (header : NodeId) (isOpen : Bool) : Relabelled d (heading d header isOpen) :=
  (((addClass_relabelled d header headerMark).trans (edit_relabelled _ _ _)).trans (edit_relabelled _ _ _)).trans
    (edit_relabelled _ _ _)

theorem heading_adds (adds : Adds root [] d d₁) (current : d₁.Current n) (part : d.Current n → d.IsPart n) (isOpen : Bool) :
    Adds root [] d (heading d₁ n isOpen) := by
  have marked := adds.addClass current headerMark
  have here := ((addClass_relabelled d₁ n headerMark).current n).mpr current
  have role := marked.set (p := "role") here (fun old => .inr ⟨by decide,part old⟩) "button"
  have index := role.set (p := "tabindex") (edit_current.mpr here) (fun old => .inr ⟨by decide,part old⟩) "0"
  exact index.set (edit_current.mpr (edit_current.mpr here)) (fun old => .inr ⟨by decide,part old⟩) _

def showing (d : Dom) (content : NodeId) : Dom :=
  (d.addClass content "i-amphtml-accordion-content").setAttribute content "role" "region"

theorem markSection_eq (d : Dom) (s : NodeId) (isOpen : Bool) :
    ∃ d₁, d₁ = (if isOpen then d.setAttribute s "expanded" [] else d.removeAttribute s "expanded") ∧
    ∃ d₂, d₂ = (match (d₁.elementChildren s)[0]? with | some header => heading d₁ header isOpen | none => d₁) ∧
    markSection d s isOpen = match (d₁.elementChildren s)[1]? with | some content => showing d₂ content | none => d₂ :=
  ⟨_,rfl,_,rfl,rfl⟩

theorem markSection_relabelled (d : Dom) (s : NodeId) (isOpen : Bool) : Relabelled d (markSection d s isOpen) := by
  obtain ⟨d₁,opened,d₂,headed,whole⟩ := markSection_eq d s isOpen
  have first : Relabelled d d₁ := by
    rw [opened]
    split
    · exact edit_relabelled d s _
    · exact edit_relabelled d s _
  have second : Relabelled d₁ d₂ := by
    rw [headed]
    split
    · exact heading_relabelled d₁ _ isOpen
    · exact .refl d₁
  rw [whole]
  refine (first.trans second).trans ?_
  split
  · exact (addClass_relabelled d₂ _ _).trans (edit_relabelled _ _ _)
  · exact .refl d₂

theorem markSection_adds (adds : Adds root [] d d₁) (current : d₁.Current s) (tag : d₁.tag? s = some ("section" : Text))
    (isSection : d.Current s → d.IsSection s) (isOpen : Bool) : Adds root [] d (markSection d₁ s isOpen) := by
  obtain ⟨e₁,opened,e₂,headed,whole⟩ := markSection_eq d₁ s isOpen
  have mark : ∀ n name, name ∈ sectionMarks → (d.Current n → d.IsPart n) → d.Current n → d.MayChange n name :=
    fun n name inside part old => .inr ⟨inside,part old⟩
  have same : Relabelled d₁ e₁ := by
    rw [opened]
    split
    · exact edit_relabelled d₁ s _
    · exact edit_relabelled d₁ s _
  have first : Adds root [] d e₁ := by
    have own := mark s "expanded" (by decide) fun old => ⟨s,isSection old,.inl rfl⟩
    rw [opened]
    split
    · exact adds.set current own []
    · exact adds.unset current own
  have here := (same.current s).mpr current
  have tag' : e₁.tag? s = some ("section" : Text) := by rw [tag?_congr (same.kind s),tag]
  have part : ∀ i n, i < 2 → (e₁.elementChildren s)[i]? = some n → e₁.Current n ∧ (d.Current n → d.IsPart n) := by
    intro i n bound found
    have inside : n ∈ (e₁.elementChildren s).take 2 := List.mem_of_getElem? (by rw [List.getElem?_take_of_lt bound,found])
    refine ⟨(first.forest.down here (mem_elementChildren.mp (List.mem_of_mem_take inside)).1).1,?_⟩
    intro old
    exact first.part_of_section old here tag' isSection inside
  have second : Adds root [] d e₂ := by
    rw [headed]
    split
    · rename_i header found
      obtain ⟨current,part⟩ := part 0 header (by decide) found
      exact heading_adds first current part isOpen
    · exact first
  have same' : Relabelled e₁ e₂ := by
    rw [headed]
    split
    · exact heading_relabelled e₁ _ isOpen
    · exact .refl e₁
  rw [whole]
  split
  · rename_i content found
    obtain ⟨current,part⟩ := part 1 content (by decide) found
    have there := (same'.current content).mpr current
    have marked := second.addClass there "i-amphtml-accordion-content"
    exact marked.set (((addClass_relabelled e₂ content _).current content).mpr there) (mark content "role" (by decide) part) _
  · exact second

-- What is handed the copies.
def Keeps (draw : Draw) : Prop :=
  ∀ d n d', d.Forest → d.Current root → d.Current n → draw d n = some d' → Adds root [] d d'

theorem foldlM_keeps {R : Dom → Prop} {step : Dom → NodeId → Option Dom} (l : List NodeId) (start : R d₁)
    (each : ∀ e c e', c ∈ l → R e → step e c = some e' → R e') (ran : l.foldlM step d₁ = some d₂) : R d₂ := by
  induction l generalizing d₁ with
  | nil =>
    cases ran
    exact start
  | cons c more ih =>
    rw [List.foldlM_cons] at ran
    obtain ⟨e,first,later⟩ := Option.bind_eq_some_iff.mp ran
    exact ih (each d₁ c e List.mem_cons_self start first)
      (fun e c e' inside => each e c e' (List.mem_cons_of_mem _ inside)) later

theorem doubleSection_adds (keeps : Keeps draw) (top : d.Current root) (isSection : d.IsSection s) (adds : Adds root [] d d₁)
    (ran : doubleSection draw d₁ s = some d₂) : Adds root [] d d₂ := by
  have there := adds.base.section_current isSection
  have tag := (adds.tag there).trans (isSection_tag isSection)
  obtain ⟨inner,copied⟩ := clone_adds adds.forest s
  unfold doubleSection at ran
  generalize d₁.clone s = cloned at inner copied ran
  obtain ⟨e,copy?⟩ := cloned
  cases copy? with
  | none =>
    cases ran
    exact adds.trans inner
  | some copy =>
    have copied := copied copy rfl
    have all := adds.trans inner
    have tag' := (all.tag there).trans (isSection_tag isSection)
    have shown := markSection_adds all (all.current s there) tag' (fun _ => isSection) true
    have same := markSection_relabelled e s true
    have copied' := copied.relabelled same
    have new : ¬ d.Current copy := fun old => copied.new (adds.current copy old)
    have shut := markSection_adds shown copied'.current (copied'.tag.trans tag) (fun old => absurd old new) false
    have same' := markSection_relabelled (markSection e s true) copy false
    have copied'' := copied'.relabelled same'
    have put := shut.after (n := s) new copied''.current copied''.top (shut.current s there)
    refine put.trans (keeps _ copy _ put.forest (put.current root top) ?_ ran)
    exact (insertAfter_current _ s copy copy).mpr copied''.current

theorem drawAccordion_adds (keeps : Keeps draw) (forest : d.Forest) (top : d.Current root) (there : d.Current id)
    (tag : d.tag? id = some ("amp-accordion" : Text)) (ran : drawAccordion draw d id = some d') : Adds root [] d d' := by
  simp only [drawAccordion] at ran
  split at ran
  · cases ran
    exact .refl forest _
  · refine foldlM_keeps (R := Adds root [] _) _ (.refl forest _) ?_ ran
    intro e s e' inside adds
    exact doubleSection_adds keeps top ⟨id,there,tag,inside⟩ adds

theorem addItem_adds (keeps : Keeps draw) (top : d.Current root) (there : d.Current list) (adds : Adds root [] d d₁)
    (ran : addItem draw list d₁ n = some d₂) : Adds root [] d d₂ := by
  obtain ⟨inner,copied⟩ := clone_adds adds.forest n
  unfold addItem at ran
  generalize d₁.clone n = cloned at inner copied ran
  obtain ⟨e,copy?⟩ := cloned
  cases copy? with
  | none =>
    cases ran
    exact adds.trans inner
  | some copy =>
    have copied := copied copy rfl
    have new : ¬ d.Current copy := fun old => copied.new (adds.current copy old)
    have named := (adds.trans inner).set copied.current (p := "role") (fun old => absurd old new) "listitem"
    have copied' := copied.relabelled (edit_relabelled e copy (putAttribute "role" "listitem"))
    have put := named.append (p := list) new copied'.current copied'.top (named.current list there)
    refine put.trans (keeps _ copy _ put.forest (put.current root top) ?_ ran)
    exact (appendChild_current _ list copy copy).mpr copied'.current

theorem drawItems_adds (keeps : Keeps draw) (forest : d.Forest) (top : d.Current root) (there : d.Current id)
    (ran : drawItems draw d id = some d') : Adds root [] d d' := by
  have settled : Adds root [] d d := .refl forest _
  unfold drawItems at ran
  split at ran
  · cases ran
    exact settled
  · split at ran
    · cases ran
      exact settled
    · rename_i template _
      extract_lets items at ran
      split at ran
      · cases ran
        exact settled
      · obtain ⟨filled,filling,put⟩ := Option.bind_eq_some_iff.mp ran
        cases put
        have made := settled.create (.element "div" [⟨"role","list"⟩])
        have created := create_created forest (.element "div" [⟨"role","list"⟩])
        have list := (created.current _).mpr (.inr rfl)
        have inner := foldlM_keeps (R := Adds root [] _) _ (.refl made.forest _)
          (fun e n e' _ adds => addItem_adds keeps (made.current root top) list adds) filling
        have all := made.trans inner
        refine all.append ?_ (inner.current _ list) (inner.top _ list created.newParent) (all.current id there)
        intro old
        exact created.fresh _ old rfl

theorem elementById_current (forest : d.Forest) (top : d.Current root) {value : Text} (found : d.elementById? value = some n) :
    d.Current n := by
  exact ((forest.mem_elementsUnder top).mp (List.mem_of_find?_eq_some found)).1.1

theorem copyToolbar_adds (keeps : Keeps draw) (top : d.Current root) (adds : Adds root [] d d₁)
    (ran : copyToolbar draw d₁ navigation = some d₂) : Adds root [] d d₂ := by
  unfold copyToolbar at ran
  split at ran
  · cases ran
    exact adds
  · rename_i target named
    split at ran
    · cases ran
      exact adds
    · obtain ⟨value,_,found⟩ := Option.bind_eq_some_iff.mp named
      have there := elementById_current adds.forest (adds.current root top) found
      obtain ⟨inner,copied⟩ := clone_adds adds.forest navigation
      generalize d₁.clone navigation = cloned at inner copied ran
      obtain ⟨e,copy?⟩ := cloned
      cases copy? with
      | none =>
        cases ran
        exact adds.trans inner
      | some copy =>
        have copied := copied copy rfl
        have new : ¬ d.Current copy := fun old => copied.new (adds.current copy old)
        have marked := (adds.trans inner).addClass copied.current toolbarMark
        have copied' := copied.relabelled (addClass_relabelled e copy toolbarMark)
        have here := ((addClass_relabelled e copy toolbarMark).current target).mpr (inner.current target there)
        have put := marked.append (p := target) new copied'.current copied'.top here
        refine put.trans (keeps _ copy _ put.forest (put.current root top) ?_ ran)
        exact (appendChild_current _ target copy copy).mpr copied'.current

theorem drawSidebar_adds (keeps : Keeps draw) (forest : d.Forest) (top : d.Current root) (there : d.Current id)
    (ran : drawSidebar draw d id = some d') : Adds root [] d d' := by
  obtain ⟨copied,copying,masked⟩ := Option.bind_eq_some_iff.mp ran
  have all := foldlM_keeps (R := Adds root [] _) _ (.refl forest _) (fun e n e' _ adds => copyToolbar_adds keeps top adds) copying
  dsimp only at masked
  split at masked
  · cases masked
    exact all
  · cases masked
    have made := all.create (.element "div" [⟨"class",maskMark⟩])
    have created := create_created all.forest (.element "div" [⟨"class",maskMark⟩])
    refine made.after ?_ ((created.current _).mpr (.inr rfl)) created.newParent (made.current id there)
    intro old
    exact created.fresh _ (all.current _ old) rfl

end Amp
end StyleTrim
