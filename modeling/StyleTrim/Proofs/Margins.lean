import StyleTrim.Proofs.Building
namespace StyleTrim.Amp
open Text Dom
variable {d d' d₁ d₂ e e' : Dom} {c copy id list m n p q s : NodeId} {out still : NodeId → Prop} {draw : Draw} {drawing : Drawing}
  {payload : Payload} {place : List NodeId → List NodeId} {f : List Attribute → List Attribute}

-- What drawing in one part of a document does to the others, however many copies are made and drawn on the way.

-- `out` are nodes outside of the part that is drawn, with all above them. Of the part itself, nodes that no component
-- moves or marks may be `still` with them: those right below the others, and what lies in a section among these.
structure Margin (out still : NodeId → Prop) (d : Dom) : Prop where
  current : ∀ m, still m → d.Current m
  within : ∀ m, out m → still m
  outer : ∀ m p, out m → d.parent? m = some p → out p
  upper : ∀ m p, still m → d.parent? m = some p → still p
  inner : ∀ m p, still m → d.parent? m = some p → ¬ out p → d.tag? p = some ("section" : Text)
  rim : ∀ p c, out p → c ∈ d.children p → ¬ out c → d.tag? c ≠ some ("amp-sidebar" : Text)

-- A node whose children are the ones that it had, with nothing but toolbars behind them.
def Lengthens (d d' : Dom) (m : NodeId) : Prop :=
  ∃ more, d'.children m = d.children m ++ more ∧ ∀ c ∈ more, d'.tag? c = some ("nav" : Text)

theorem Lengthens.same (same : d'.children m = d.children m) : Lengthens d d' m :=
  ⟨[],by rw [same,List.append_nil],List.forall_mem_nil _⟩

theorem Lengthens.trans (one : Lengthens d d₁ m) (other : Lengthens d₁ d₂ m) (tags : ∀ c ∈ d₁.children m, d₂.tag? c = d₁.tag? c) :
    Lengthens d d₂ m := by
  obtain ⟨more,whole,toolbars⟩ := one
  obtain ⟨later,whole',toolbars'⟩ := other
  refine ⟨more ++ later,by rw [whole',whole,List.append_assoc],fun c inside => ?_⟩
  rcases List.mem_append.mp inside with first | last
  · rw [tags c (whole ▸ List.mem_append_right _ first)]
    exact toolbars c first
  · exact toolbars' c last

-- The nodes outside stay as they are, but for classes and toolbars.
structure Guards (out still : NodeId → Prop) (d d' : Dom) : Prop where
  margin : Margin out still d
  base : d.Forest
  forest : d'.Forest
  current : ∀ m, d.Current m → d'.Current m
  kind : ∀ m, d.Current m → d'.kind? m = d.kind? m
  parent : ∀ m, still m → d'.parent? m = d.parent? m
  values : ∀ m name, still m → name ≠ ("class" : Text) → d'.attribute? m name = d.attribute? m name
  classes : ∀ m name, d.Current m → Token name → d.hasClass m name = true → d'.hasClass m name = true
  behind : ∀ m, out m → Lengthens d d' m

theorem Guards.refl (margin : Margin out still d) (forest : d.Forest) : Guards out still d d :=
  ⟨margin,forest,forest,fun _ there => there,fun _ _ => rfl,fun _ _ => rfl,fun _ _ _ _ => rfl,fun _ _ _ _ has => has,
    fun _ _ => .same rfl⟩

theorem Guards.tag (guards : Guards out still d d') (there : d.Current m) : d'.tag? m = d.tag? m := tag?_congr (guards.kind m there)

theorem Margin.there (margin : Margin out still d) (outside : out m) : d.Current m := margin.current m (margin.within m outside)

-- The margin is the same afterwards.
theorem Guards.now (guards : Guards out still d d') : Margin out still d' := by
  have margin := guards.margin
  refine ⟨?_,margin.within,?_,?_,?_,?_⟩
  · intro m quiet
    exact guards.current m (margin.current m quiet)
  · intro m p outside linked
    rw [guards.parent m (margin.within m outside)] at linked
    exact margin.outer m p outside linked
  · intro m p quiet linked
    rw [guards.parent m quiet] at linked
    exact margin.upper m p quiet linked
  · intro m p quiet linked inside
    rw [guards.parent m quiet] at linked
    rw [guards.tag (guards.base.up (margin.current m quiet) linked).1]
    exact margin.inner m p quiet linked inside
  · intro p c outside child inside
    obtain ⟨more,whole,toolbars⟩ := guards.behind p outside
    rw [whole] at child
    rcases List.mem_append.mp child with old | new
    · rw [guards.tag (guards.base.down (margin.there outside) old).1]
      exact margin.rim p c outside old inside
    · rw [toolbars c new]
      decide

theorem Guards.trans (one : Guards out still d d₁) (other : Guards out still d₁ d₂) : Guards out still d d₂ := by
  refine ⟨one.margin,one.base,other.forest,?_,?_,?_,?_,?_,?_⟩
  · intro m there
    exact other.current m (one.current m there)
  · intro m there
    rw [other.kind m (one.current m there),one.kind m there]
  · intro m quiet
    rw [other.parent m quiet,one.parent m quiet]
  · intro m name quiet apart
    rw [other.values m name quiet apart,one.values m name quiet apart]
  · intro m name there token has
    exact other.classes m name (one.current m there) token (one.classes m name there token has)
  · intro m outside
    exact (one.behind m outside).trans (other.behind m outside) fun c child =>
      other.tag (one.forest.down (one.now.there outside) child).1

-- Nothing below the part that is drawn is outside.
theorem Margin.below (margin : Margin out still d) (inside : ¬ out n) (above : d.Above n m) : ¬ out m := by
  obtain ⟨k,steps⟩ := above
  induction k generalizing m with
  | zero =>
    cases steps
    exact inside
  | succ k ih =>
    obtain ⟨p,linked,more⟩ := steps
    exact fun outside => ih more (margin.outer m p outside linked)

-- What is no toolbar does not come under a node outside.
theorem Guards.inside (guards : Guards out still d d') (there : d.Current c) (other : d.tag? c ≠ some ("nav" : Text))
    (free : ∀ p, d.parent? c = some p → ¬ out p) : ∀ p, d'.parent? c = some p → ¬ out p := by
  intro p linked outside
  obtain ⟨more,whole,toolbars⟩ := guards.behind p outside
  have child := (guards.forest.up (guards.current c there) linked).2
  rw [whole] at child
  rcases List.mem_append.mp child with old | new
  · exact free p (guards.base.down (guards.margin.there outside) old).2 outside
  · exact other ((guards.tag there).symm.trans (toolbars c new))

theorem Guards.beside (guards : Guards out still d d₁) (beside : Beside d₁ d₂) : Guards out still d d₂ := by
  refine guards.trans ⟨guards.now,guards.forest,beside.forest,beside.current,?_,?_,?_,?_,?_⟩
  · intro m there
    rw [kind?,beside.node m there,kind?]
  · intro m quiet
    exact beside.parent m (guards.now.current m quiet)
  · intro m name quiet _
    rw [attribute?,beside.node m (guards.now.current m quiet),attribute?]
  · intro m name there _ has
    rwa [hasClass,attribute?,beside.node m there]
  · intro m outside
    exact .same (beside.children m (guards.now.there outside))

theorem Guards.create (guards : Guards out still d d₁) (payload : Payload) : Guards out still d (d₁.create payload).1 :=
  guards.beside (create_beside guards.forest payload)

theorem Guards.moved (guards : Guards out still d d₁) (moved : Moved d₁ d₂ (some p) c place) (current : d₁.Current c)
    (received : Receives d₁ p c place) (loose : ¬ still c) (inside : ∀ q, d₁.parent? c = some q → ¬ out q)
    (goal : ¬ out p ∨ place = (· ++ [c]) ∧ d₁.tag? c = some ("nav" : Text)) : Guards out still d d₂ := by
  have same : ∀ m name, d₂.attribute? m name = d₁.attribute? m name := fun m name => by rw [attribute?,moved.node m,attribute?]
  refine guards.trans ⟨guards.now,guards.forest,moved.receives guards.forest current received,?_,?_,?_,?_,?_,?_⟩
  · intro m there
    exact (moved.current m).mpr there
  · intro m there
    rw [kind?,moved.node m,kind?]
  · intro m quiet
    rw [moved.parent m (guards.now.current m quiet),if_neg]
    rintro rfl
    exact loose quiet
  · intro m name _ _
    exact same m name
  · intro m name _ _ has
    rwa [hasClass,same]
  · intro m outside
    have there := guards.now.there outside
    have others := guards.forest.filter_absent there fun linked => inside m linked outside
    have children := moved.children m there
    rw [others] at children
    split at children
    · rename_i here
      cases here
      obtain ⟨rfl,toolbar⟩ := goal.resolve_left (not_not.mpr outside)
      refine ⟨[c],children,fun x last => ?_⟩
      rw [List.mem_singleton.mp last,tag?,moved.node,← tag?,toolbar]
    · exact .same children

theorem Guards.append (guards : Guards out still d d₁) (there : d₁.Current p) (current : d₁.Current c) (loose : ¬ still c)
    (inside : ∀ q, d₁.parent? c = some q → ¬ out q) (goal : ¬ out p ∨ d₁.tag? c = some ("nav" : Text)) :
    Guards out still d (d₁.appendChild p c) := by
  rcases appendChild_cases guards.forest there current with same | ⟨moved,received⟩
  · rw [same]
    exact guards
  · exact guards.moved moved current received loose inside (goal.imp_right fun toolbar => ⟨rfl,toolbar⟩)

theorem Guards.after (guards : Guards out still d d₁) (there : d₁.Current n) (current : d₁.Current c) (loose : ¬ still c)
    (top : d₁.parent? c = none) (goal : ∀ p, d₁.parent? n = some p → ¬ out p) : Guards out still d (d₁.insertAfter n c) := by
  rcases insertAfter_cases guards.forest current there top with same | ⟨p,linked,moved,received⟩
  · rw [same]
    exact guards
  · exact guards.moved moved current received loose (fun q upward => by rw [top] at upward; cases upward) (.inl (goal p linked))

theorem Guards.edit (guards : Guards out still d d₁) (current : d₁.Current n) (loose : ¬ still n)
    (classes : d.Current n → ∀ l, (f l).find? (·.name == ("class" : Text)) = l.find? (·.name == ("class" : Text))) :
    Guards out still d (d₁.editAttributes n f) := by
  refine ⟨guards.margin,guards.base,edit_forest guards.forest,?_,?_,?_,?_,?_,?_⟩
  · intro m there
    exact edit_current.mpr (guards.current m there)
  · intro m there
    rw [edit_kind?,guards.kind m there]
  · intro m quiet
    rw [edit_parent?,guards.parent m quiet]
  · intro m name quiet apart
    have other : m ≠ n := fun same => loose (same ▸ quiet)
    rw [edit_apart current (guards.now.current m quiet) other f name,guards.values m name quiet apart]
  · intro m name there token has
    refine (hasClass_congr ?_ name).trans (guards.classes m name there token has)
    by_cases same : m = n
    · subst same
      exact edit_attribute? (classes there) m m
    · exact edit_apart current (guards.current m there) same f _
  · intro m outside
    exact (guards.behind m outside).trans (.same (edit_children d₁ n m f)) fun c _ => tag?_congr (edit_kind? d₁ n c f)

theorem Guards.set {name : Text} (guards : Guards out still d d₁) (current : d₁.Current n) (loose : ¬ still n)
    (apart : ("class" : Text) ≠ name) (value : Text) : Guards out still d (d₁.setAttribute n name value) :=
  guards.edit current loose fun _ => find_putAttribute apart value

theorem Guards.addClass (guards : Guards out still d d₁) (current : d₁.Current n) (name : Text) :
    Guards out still d (d₁.addClass n name) := by
  have same := addClass_relabelled d₁ n name
  refine guards.trans ⟨guards.now,guards.forest,addClass_forest guards.forest n name,?_,?_,?_,?_,?_,?_⟩
  · intro m there
    exact (same.current m).mpr there
  · intro m _
    exact same.kind m
  · intro m _
    exact same.parent m
  · intro m other _ apart
    exact addClass_attribute? apart d₁ n m name
  · intro m token there isToken has
    exact addClass_keeps current there isToken name has
  · intro m _
    exact .same (addClass_children d₁ n m name)

-- What was made meanwhile lies in the component, so that nothing comes to the nodes outside.
theorem Built.guards (built : Built id d e) (margin : Margin out still d) (inside : ¬ out id) :
    Guards out still d e ∧ ∀ m, out m → e.children m = d.children m := by
  have forest := built.base.1
  have own : ∀ c, ¬ d.Current c → ¬ still c := fun c new quiet => new (margin.current c quiet)
  induction built with
  | start => exact ⟨.refl margin forest,fun _ _ => rfl⟩
  | @create e payload built ih =>
    refine ⟨ih.1.create payload,fun m outside => ?_⟩
    rw [(create_created built.forest payload).children m (ih.1.now.there outside),ih.2 m outside]
  | @append e p c built there goal current moves ih =>
    obtain ⟨guards,kept⟩ := ih
    have target : ¬ out p := by
      rcases goal with rfl | new
      · exact inside
      · exact fun outside => new (margin.there outside)
    have loose : ¬ still c := by
      by_cases old : d.Current c
      · obtain ⟨linked,steady⟩ := moves old
        intro quiet
        rw [guards.parent c quiet] at linked
        exact steady (margin.inner c id quiet linked inside)
      · exact own c old
    have free : ∀ q, e.parent? c = some q → ¬ out q := by
      intro q linked outside
      have child := (guards.forest.up current linked).2
      rw [kept q outside] at child
      have linked' := (moves (forest.down (margin.there outside) child).1).1
      cases linked.symm.trans linked'
      exact inside outside
    rcases appendChild_cases guards.forest there current with same | ⟨moved,received⟩
    · rw [same]
      exact ⟨guards,kept⟩
    · refine ⟨guards.moved moved current received loose free (.inl target),fun m outside => ?_⟩
      rw [moved.children m (guards.now.there outside),if_neg,guards.forest.filter_absent (guards.now.there outside),kept m outside]
      · exact fun linked => free m linked outside
      · rintro ⟨⟩
        exact target outside
  | @prepend e c built current new ih =>
    obtain ⟨guards,kept⟩ := ih
    have free : ∀ q, e.parent? c = some q → ¬ out q := by
      intro q linked outside
      have child := (guards.forest.up current linked).2
      rw [kept q outside] at child
      exact new (forest.down (margin.there outside) child).1
    rcases prependChild_cases guards.forest built.here current with same | ⟨moved,received⟩
    · rw [same]
      exact ⟨guards,kept⟩
    · refine ⟨guards.moved moved current received (own c new) free (.inl inside),fun m outside => ?_⟩
      rw [moved.children m (guards.now.there outside),if_neg,guards.forest.filter_absent (guards.now.there outside),kept m outside]
      · exact fun linked => free m linked outside
      · rintro ⟨⟩
        exact inside outside
  | @set e n name value built current new ih =>
    refine ⟨ih.1.edit current (own n new) fun old => absurd old new,fun m outside => ?_⟩
    rw [setAttribute,edit_children,ih.2 m outside]
  | @addClass e n name built current ih =>
    refine ⟨ih.1.addClass current name,fun m outside => ?_⟩
    rw [addClass_children,ih.2 m outside]

-- What is handed the copies.
def Minds (draw : Draw) : Prop := ∀ (out still : NodeId → Prop) (d : Dom) (n : NodeId) (d' : Dom), Margin out still d → d.Forest →
  d.Current root → d.Current n → ¬ out n → draw d n = some d' → Guards out still d d'

-- What is below a node that may be marked may be marked itself.
theorem Margin.loose (margin : Margin out still d) (linked : d.parent? c = some p) (loose : ¬ still p) : ¬ still c :=
  fun quiet => loose (margin.upper c p quiet linked)

theorem Guards.mark (guards : Guards out still d e) (current : e.Current s) (loose : ¬ still s) (isOpen : Bool) :
    Guards out still d (markSection e s isOpen) := by
  obtain ⟨e₁,opened,e₂,headed,whole⟩ := markSection_eq e s isOpen
  have first : Guards out still d e₁ ∧ e₁.Current s := by
    rw [opened]
    split
    · exact ⟨guards.set current loose (by decide) [],edit_current.mpr current⟩
    · exact ⟨guards.edit current loose fun _ => find_filter_name (by decide),edit_current.mpr current⟩
  have part : ∀ (i : Nat) n, (e₁.elementChildren s)[i]? = some n → e₁.Current n ∧ ¬ still n := by
    intro i n found
    obtain ⟨current,linked⟩ := first.1.forest.down first.2 (mem_elementChildren.mp (List.mem_of_getElem? found)).1
    exact ⟨current,first.1.now.loose linked loose⟩
  have second : Guards out still d e₂ ∧ ∀ n, e₁.Current n → e₂.Current n := by
    rw [headed]
    split
    · rename_i header found
      obtain ⟨current,loose⟩ := part 0 header found
      refine ⟨?_,fun n => ((heading_relabelled e₁ header isOpen).current n).mpr⟩
      have here := (addClass_current e₁ header header headerMark).mpr current
      exact (((first.1.addClass current headerMark).set here loose (by decide) _).set (edit_current.mpr here) loose (by decide) _).set
        (edit_current.mpr (edit_current.mpr here)) loose (by decide) _
    · exact ⟨first.1,fun _ there => there⟩
  rw [whole]
  split
  · rename_i content found
    obtain ⟨current,loose⟩ := part 1 content found
    have there := second.2 content current
    exact (second.1.addClass there _).set ((addClass_current e₂ content content _).mpr there) loose (by decide) _
  · exact second.1

-- A copy that stands alone is marked and put somewhere before it is drawn.
theorem cloned_guards (put : Dom → NodeId → Dom) (minds : Minds draw) (margin : Margin out still d) (forest : d.Forest)
    (top : d.Current root) (edits : ∀ e copy, Copied d e n copy → Beside d e → Guards out still d e → ¬ still copy →
      Guards out still d (put e copy) ∧ (put e copy).Current copy)
    (ran : (match d.clone n with | (e,none) => some e | (e,some copy) => draw (put e copy) copy) = some d') :
    Guards out still d d' := by
  have beside := clone_beside forest n
  have copied := (clone_adds forest n).2
  have cloned := (Guards.refl margin forest).beside beside
  generalize d.clone n = result at beside copied cloned ran
  obtain ⟨e,copy?⟩ := result
  cases copy? with
  | none =>
    cases ran
    exact cloned
  | some copy =>
    have copied := copied copy rfl
    have loose : ¬ still copy := fun quiet => copied.new (margin.current copy quiet)
    obtain ⟨guards,current⟩ := edits e copy copied beside cloned loose
    exact guards.trans (minds _ _ _ copy d' guards.now guards.forest (guards.current root top) current
      (fun outside => loose (margin.within copy outside)) ran)

theorem unplaced {q : NodeId} (top : d.parent? c = none) (linked : d.parent? c = some q) : ¬ out q := by
  rw [top] at linked
  cases linked

-- A section is doubled beside it, in an accordion that lies in the part that is drawn.
theorem doubleSection_guards (minds : Minds draw) (margin : Margin out still d) (forest : d.Forest) (top : d.Current root)
    (there : d.Current s) (loose : ¬ still s) (free : ∀ p, d.parent? s = some p → ¬ out p)
    (ran : doubleSection draw d s = some d') : Guards out still d d' := by
  refine cloned_guards _ minds margin forest top (fun e copy copied beside cloned new => ?_) ran
  have opened := markSection_relabelled e s true
  have closed := markSection_relabelled (markSection e s true) copy false
  have copied := (copied.relabelled opened).relabelled closed
  have shown := cloned.mark (cloned.current s there) loose true
  have shut := shown.mark ((closed.current copy).mp copied.current) new false
  refine ⟨shut.after (shut.current s there) copied.current new copied.top fun p linked => ?_,
    (insertAfter_current _ s copy copy).mpr copied.current⟩
  rw [closed.parent,opened.parent,beside.parent s there] at linked
  exact free p linked

theorem drawAccordion_guards (minds : Minds draw) (margin : Margin out still d) (forest : d.Forest) (top : d.Current root)
    (there : d.Current id) (inside : ¬ out id) (tag : d.tag? id = some ("amp-accordion" : Text))
    (ran : drawAccordion draw d id = some d') : Guards out still d d' := by
  simp only [drawAccordion] at ran
  split at ran
  · cases ran
    exact .refl margin forest
  · refine foldlM_keeps (R := Guards out still d) _ (.refl margin forest) (fun e s e' member guards ran => ?_) ran
    obtain ⟨current,linked,named⟩ := (mem_childrenByTag_iff forest there).mp member
    have loose : ¬ still s := by
      intro quiet
      have section_ := margin.inner s id quiet linked inside
      rw [tag] at section_
      revert section_
      decide
    have free := guards.inside current (by rw [named]; decide) fun p upward => by
      cases upward.symm.trans linked
      exact inside
    exact guards.trans (doubleSection_guards minds guards.now guards.forest (guards.current root top) (guards.current s current)
      loose free ran)

theorem addItem_guards (minds : Minds draw) (margin : Margin out still d) (forest : d.Forest) (top : d.Current root)
    (there : d.Current list) (inside : ¬ out list) (ran : addItem draw list d n = some d') : Guards out still d d' := by
  refine cloned_guards (fun e copy => (e.setAttribute copy "role" "listitem").appendChild list copy) minds margin forest top
    (fun e copy copied beside cloned new => ?_) ran
  have named : Guards out still d (e.setAttribute copy "role" "listitem") := cloned.set copied.current new (by decide) "listitem"
  have copied := copied.relabelled (edit_relabelled e copy (putAttribute "role" "listitem"))
  exact ⟨named.append (named.current list there) copied.current new (fun q => unplaced copied.top) (.inl inside),
    (appendChild_current _ list copy copy).mpr copied.current⟩

theorem drawItems_guards (minds : Minds draw) (margin : Margin out still d) (forest : d.Forest) (top : d.Current root)
    (there : d.Current id) (inside : ¬ out id) (ran : drawItems draw d id = some d') : Guards out still d d' := by
  have settled := Guards.refl margin forest
  unfold drawItems at ran
  split at ran
  · cases ran
    exact settled
  · split at ran
    · cases ran
      exact settled
    · extract_lets items at ran
      split at ran
      · cases ran
        exact settled
      · obtain ⟨filled,filling,put⟩ := Option.bind_eq_some_iff.mp ran
        cases put
        have created := create_created forest (.element "div" [⟨"role","list"⟩])
        have list := made_current forest (.element "div" [⟨"role","list"⟩])
        have new := made_absent forest (.element "div" [⟨"role","list"⟩])
        have made := settled.create (.element "div" [⟨"role","list"⟩])
        have outer : ¬ out (d.create (.element "div" [⟨"role","list"⟩])).2 := fun outside => new (margin.there outside)
        have inner := foldlM_keeps (R := Guards out still _) _ (.refl made.now made.forest) (fun e n e' _ guards ran =>
          guards.trans (addItem_guards minds guards.now guards.forest (guards.current root (made.current root top))
            (guards.current _ list) outer ran)) filling
        have whole := made.trans inner
        have free := inner.inside list (by rw [tag?,created.newNode]; decide) fun p linked => by
          rw [created.newParent] at linked
          cases linked
        exact whole.append (whole.current id there) (inner.current _ list) (fun quiet => new (margin.current _ quiet)) free (.inl inside)

theorem copyToolbar_guards (minds : Minds draw) (margin : Margin out still d) (forest : d.Forest) (top : d.Current root)
    (tag : d.tag? n = some ("nav" : Text)) (ran : copyToolbar draw d n = some d') : Guards out still d d' := by
  have settled := Guards.refl margin forest
  unfold copyToolbar at ran
  split at ran
  · cases ran
    exact settled
  · rename_i target named
    split at ran
    · cases ran
      exact settled
    · obtain ⟨value,_,found⟩ := Option.bind_eq_some_iff.mp named
      have goal := elementById_current forest top found
      refine cloned_guards (fun e copy => (e.addClass copy toolbarMark).appendChild target copy) minds margin forest top
        (fun e copy copied beside cloned new => ?_) ran
      have marked := cloned.addClass copied.current toolbarMark
      have copied := copied.relabelled (addClass_relabelled e copy toolbarMark)
      exact ⟨marked.append (marked.current target goal) copied.current new (fun q => unplaced copied.top) (.inr (copied.tag.trans tag)),
        (appendChild_current _ target copy copy).mpr copied.current⟩

-- The mask is put beside the sidebar, which no sidebar in the part that is drawn has outside of that part.
theorem addMask_guards (margin : Margin out still d) (forest : d.Forest) (there : d.Current id) (inside : ¬ out id)
    (tag : d.tag? id = some ("amp-sidebar" : Text)) : Guards out still d (addMask d id) := by
  have settled := Guards.refl margin forest
  unfold addMask
  split
  · exact settled
  · have created := create_created forest (.element "div" [⟨"class",maskMark⟩])
    have mask := made_current forest (.element "div" [⟨"class",maskMark⟩])
    have new := made_absent forest (.element "div" [⟨"class",maskMark⟩])
    have made := settled.create (.element "div" [⟨"class",maskMark⟩])
    refine made.after (made.current id there) mask (fun quiet => new (margin.current _ quiet)) created.newParent fun p linked outside => ?_
    have child := (made.forest.up (made.current id there) linked).2
    exact made.now.rim p id outside child inside ((made.tag there).trans tag)

theorem drawSidebar_guards (minds : Minds draw) (margin : Margin out still d) (forest : d.Forest) (top : d.Current root)
    (there : d.Current id) (inside : ¬ out id) (tag : d.tag? id = some ("amp-sidebar" : Text))
    (ran : drawSidebar draw d id = some d') : Guards out still d d' := by
  rw [drawSidebar_eq] at ran
  obtain ⟨copied,copying,masked⟩ := Option.bind_eq_some_iff.mp ran
  cases masked
  have toolbars := foldlM_keeps (R := Guards out still d) _ (.refl margin forest) (fun e n e' member guards ran => by
    obtain ⟨current,_,named⟩ := (mem_childrenByTag_iff forest there).mp member
    exact guards.trans (copyToolbar_guards minds guards.now guards.forest (guards.current root top)
      ((guards.tag current).trans named) ran)) copying
  exact toolbars.trans (addMask_guards toolbars.now toolbars.forest (toolbars.current id there) inside ((toolbars.tag there).trans tag))

theorem sidebar_tag {tag : Text} (drawn : drawing? tag = some .sidebar) : tag = ("amp-sidebar" : Text) := by
  unfold drawing? at drawn
  iterate 6 replace drawn := (drawn_cases drawn).resolve_left fun taken => by cases taken.2
  rcases drawn_cases drawn with ⟨named,_⟩ | drawn
  · simpa [isOneOf,ofStrings] using named
  · iterate 4 replace drawn := (drawn_cases drawn).resolve_left fun taken => by cases taken.2
    cases drawn

theorem drawComponent_guards (minds : Minds draw) (margin : Margin out still d) (forest : d.Forest) (top : d.Current root)
    (there : d.Current id) (inside : ¬ out id) (ran : drawComponent draw d id = some d') : Guards out still d d' := by
  unfold drawComponent at ran
  split at ran
  · rename_i drawing found
    obtain ⟨tag,named,drawn⟩ := Option.bind_eq_some_iff.mp found
    by_cases copies : drawing ∈ copying
    · rcases mem_copying.mp copies with rfl | rfl | rfl
      · exact drawAccordion_guards minds margin forest top there inside (accordion_tag drawn ▸ named) ran
      · exact drawSidebar_guards minds margin forest top there inside (sidebar_tag drawn ▸ named) ran
      · exact drawItems_guards minds margin forest top there inside ran
    · have steady : d.tag? id ≠ some ("section" : Text) := by
        rw [named]
        exact fun same => drawing_ne_section drawn (Option.some.inj same)
      obtain ⟨e,ran',built⟩ := drawAs_built draw forest there steady copies
      cases ran.symm.trans ran'
      exact (built.guards margin inside).1
  · cases ran
    exact .refl margin forest

theorem drawElement_guards (minds : Minds draw) (margin : Margin out still d) (forest : d.Forest) (top : d.Current root)
    (there : d.Current id) (inside : ¬ out id) (ran : drawElement draw d id = some d') : Guards out still d d' := by
  unfold drawElement at ran
  split at ran
  · obtain ⟨e,drawn,laid⟩ := Option.bind_eq_some_iff.mp ran
    have guards := drawComponent_guards minds margin forest top there inside drawn
    cases laid
    split
    · exact guards.trans ((applyLayout_built guards.forest (guards.current id there)).guards guards.now inside).1
    · exact guards
  · cases ran
    exact .refl margin forest

theorem drawUnder_minds (depth : Nat) : Minds (drawUnder depth) := by
  induction depth with
  | zero => exact fun _ _ _ _ _ _ _ _ _ _ ran => nomatch ran
  | succ depth ih =>
    intro out still d n d' margin forest top there inside ran
    refine foldlM_keeps (R := Guards out still d) _ (.refl margin forest) (fun e c e' member guards ran => ?_) ran
    obtain ⟨⟨current,above⟩,_⟩ := (forest.mem_elementsUnder there).mp member
    exact guards.trans (drawElement_guards ih guards.now guards.forest (guards.current root top) (guards.current c current)
      (margin.below inside above) ran)

end StyleTrim.Amp
