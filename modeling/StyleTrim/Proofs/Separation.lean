import StyleTrim.Proofs.Covering
import StyleTrim.Proofs.Shapes
namespace StyleTrim.Dom
open Text
variable {d d' d₁ d₂ e : Dom} {a b c copy m n p text : NodeId} {l : List NodeId} {value : Text} {target : Option NodeId}

-- Of a node and its copy, neither is concerned by what is done to the other.

-- Whether one of two nodes is above the other.
def Akin (d : Dom) (b m : NodeId) : Prop := d.Above b m ∨ d.Above m b

-- What is below a node that is not akin is not akin either.
theorem not_akin_below (apart : ¬ d.Akin b n) (below : d.Above n m) : ¬ d.Akin b m := by
  rintro (under | higher)
  · exact apart (under.comparable below)
  · exact apart (.inr (below.trans higher))

-- A store in which a node stays where it was, and all below it as they were.
structure Unmoved (d d' : Dom) (b : NodeId) : Prop where
  forest : d'.Forest
  current : ∀ m, d.Current m → d.Akin b m → d'.Current m
  parent : ∀ m, d.Current m → d.Akin b m → d'.parent? m = d.parent? m
  node : ∀ m, d.Current m → d.Above b m → d'.node? m = d.node? m
  children : ∀ m, d.Current m → d.Above b m → d'.children m = d.children m

theorem Unmoved.refl (forest : d.Forest) (b : NodeId) : Unmoved d d b :=
  ⟨forest,fun _ there _ => there,fun _ _ _ => rfl,fun _ _ _ => rfl,fun _ _ _ => rfl⟩

theorem Unmoved.above (unmoved : Unmoved d d' b) (forest : d.Forest) (there : d.Current m) (akin : d.Akin b m) :
    d'.Above a m ↔ d.Above a m := by
  refine above_congr (P := fun m => d.Current m ∧ d.Akin b m) (fun m line => unmoved.parent m line.1 line.2) ?_ ⟨there,akin⟩
  rintro m p ⟨there,akin⟩ linked
  rw [unmoved.parent m there akin] at linked
  refine ⟨(forest.up there linked).1,?_⟩
  rcases akin with under | higher
  · rcases under.cases with rfl | ⟨q,upward,under⟩
    · exact .inr (.of_parent linked (.refl p))
    · cases Option.some.inj (linked.symm.trans upward)
      exact .inl under
  · exact .inr ((Above.of_parent linked (.refl p)).trans higher)

theorem Unmoved.akin (unmoved : Unmoved d d' b) (forest : d.Forest) (current : d.Current b) (there : d.Current m)
    (akin : d.Akin b m) : d'.Akin b m :=
  akin.imp (unmoved.above forest there akin).mpr (unmoved.above forest current (.inl (.refl b))).mpr

-- No other nodes come above or below it.
theorem Unmoved.below_back (unmoved : Unmoved d d' b) (forest : d.Forest) (current : d.Current b) (there : d'.Current m)
    (below : d'.Above b m) : d.Current m ∧ d.Above b m := by
  obtain ⟨i,steps⟩ := below
  induction i generalizing m with
  | zero =>
    cases steps
    exact ⟨current,.refl b⟩
  | succ i ih =>
    obtain ⟨p,linked,more⟩ := steps
    obtain ⟨above,child⟩ := unmoved.forest.up there linked
    obtain ⟨above,below⟩ := ih above more
    rw [unmoved.children p above below] at child
    obtain ⟨old,linked⟩ := forest.down above child
    exact ⟨old,.of_parent linked below⟩

theorem Unmoved.akin_back (unmoved : Unmoved d d' b) (forest : d.Forest) (current : d.Current b) (there : d'.Current m)
    (akin : d'.Akin b m) : d.Current m ∧ d.Akin b m := by
  rcases akin with under | higher
  · exact (unmoved.below_back forest current there under).imp_right .inl
  · have higher := (unmoved.above forest current (.inl (.refl b))).mp higher
    exact ⟨forest.above current higher,.inr higher⟩

theorem Unmoved.trans (one : Unmoved d d₁ b) (other : Unmoved d₁ d₂ b) (forest : d.Forest) (current : d.Current b) :
    Unmoved d d₂ b := by
  have later := fun m there akin => one.akin (m := m) forest current there akin
  have below := fun m there under => (one.above (m := m) (a := b) forest there (.inl under)).mpr under
  refine ⟨other.forest,?_,?_,?_,?_⟩
  · intro m there akin
    exact other.current m (one.current m there akin) (later m there akin)
  · intro m there akin
    rw [other.parent m (one.current m there akin) (later m there akin),one.parent m there akin]
  · intro m there under
    rw [other.node m (one.current m there (.inl under)) (below m there under),one.node m there under]
  · intro m there under
    rw [other.children m (one.current m there (.inl under)) (below m there under),one.children m there under]

theorem Unmoved.mirrors (unmoved : Unmoved d d' b) (forest : d.Forest) (current : d.Current b) : Mirrors d d' b b :=
  mirrors_self forest current fun m there below => ⟨unmoved.node m there below,unmoved.children m there below⟩

theorem Beside.unmoved (beside : Beside d d') (b : NodeId) : Unmoved d d' b :=
  ⟨beside.forest,fun m there _ => beside.current m there,fun m there _ => beside.parent m there,
    fun m there _ => beside.node m there,fun m there _ => beside.children m there⟩

theorem Carried.unmoved (carried : Carried d d' c target) (forest : d.Forest) (forest' : d'.Forest) (apart : ¬ d.Akin b c)
    (outside : ∀ p ∈ target, ¬ d.Above b p) : Unmoved d d' b := by
  have others := carried.others
  have other : ∀ m, d.Akin b m → m ∉ [c] := by
    intro m akin same
    exact apart (List.mem_singleton.mp same ▸ akin)
  refine ⟨forest',fun m there _ => (others.current m).mpr there,fun m there akin => others.parent m there (other m akin),
    fun m _ _ => others.node m,?_⟩
  intro m there under
  have before : ∀ x ∈ d.children m, x ∉ [c] := by
    intro x child
    exact other x (.inl (.of_parent (forest.down there child).2 under))
  have behind : ∀ x ∈ d'.children m, x ∉ [c] := by
    intro x child same
    have linked := (forest'.down ((others.current m).mpr there) child).2
    rw [List.mem_singleton.mp same,carried.parent] at linked
    exact outside m linked under
  have order := others.order m there
  rwa [List.filter_eq_self.mpr fun x child => decide_eq_true (before x child),
    List.filter_eq_self.mpr fun x child => decide_eq_true (behind x child)] at order

theorem Removed.unmoved (removed : Removed d d' n) (forest : d.Forest) (apart : ¬ d.Akin b n) : Unmoved d d' b := by
  have stays : ∀ m, d.Current m → d.Akin b m → d'.Current m :=
    fun m there akin => (removed.current m).mpr ⟨there,fun below => not_akin_below apart below akin⟩
  refine ⟨removed.forest,stays,fun m there akin => removed.parent m (stays m there akin),
    fun m there under => removed.node m (stays m there (.inl under)),?_⟩
  intro m there under
  rw [removed.children m (stays m there (.inl under))]
  refine List.filter_eq_self.mpr fun x child => decide_eq_true ?_
  rintro rfl
  exact apart (.inl (.of_parent (forest.down there child).2 under))

theorem Painted.unmoved (painted : Painted d d' n) (forest' : d'.Forest) (apart : ¬ d.Akin b n) : Unmoved d d' b := by
  refine ⟨forest',fun m there _ => (painted.current m).mpr there,fun m _ _ => painted.parent m,?_,fun m _ _ => painted.children m⟩
  intro m there under
  refine painted.node m there ?_
  rintro rfl
  exact apart (.inl under)

theorem Retold.unmoved (retold : Retold d d' n text value) (forest : d.Forest) (there : d.Current n) (apart : ¬ d.Akin b n) :
    Unmoved d d' b := by
  have other : ∀ m, d.Current m → m ≠ text := by
    rintro m there rfl
    exact retold.fresh there
  have stays : ∀ m, d.Current m → d.Akin b m → d'.Current m := by
    intro m old akin
    refine (retold.current m).mpr (.inl ⟨old,fun c child below => ?_⟩)
    have linked := (forest.down there child).2
    exact not_akin_below apart ((Above.of_parent linked (.refl n)).trans below) akin
  refine ⟨retold.forest,stays,fun m old akin => retold.parent m (stays m old akin) (other m old),
    fun m old under => retold.node m (stays m old (.inl under)) (other m old),?_⟩
  intro m old under
  rw [retold.children m (stays m old (.inl under)) (other m old),if_neg]
  rintro rfl
  exact apart (.inl under)

theorem appendChild_unmoved (forest : d.Forest) (there : d.Current p) (current : d.Current c) (apart : ¬ d.Akin b p)
    (apart' : ¬ d.Akin b c) : Unmoved d (d.appendChild p c) b := by
  obtain ⟨still,carried⟩ := append_effect forest there current
  by_cases above : d.Above c p
  · rw [still above]
    exact .refl forest b
  · refine (carried above).1.unmoved forest (appendChild_forest forest there current) apart' fun q same => ?_
    cases same
    exact fun under => apart (.inl under)

theorem gather_unmoved (l : List NodeId) (forest : d.Forest) (start : d.Current b) (there : d.Current p) (apart : ¬ d.Akin b p)
    (current : ∀ c ∈ l, d.Current c ∧ ¬ d.Akin b c) : Unmoved d (l.foldl (fun d child => d.appendChild p child) d) b := by
  induction l generalizing d with
  | nil => exact .refl forest b
  | cons c more ih =>
    obtain ⟨here,apart'⟩ := current c List.mem_cons_self
    have step := appendChild_unmoved forest there here apart apart'
    have still : ∀ m, d.Current m → ¬ d.Akin b m → (d.appendChild p c).Current m ∧ ¬ (d.appendChild p c).Akin b m := by
      intro m there apart
      have there := (appendChild_current d p c m).mpr there
      exact ⟨there,fun akin => apart (step.akin_back forest start there akin).2⟩
    obtain ⟨there,apart⟩ := still p there apart
    refine step.trans (ih step.forest (step.current b start (.inl (.refl b))) there apart fun x inside => ?_) forest start
    obtain ⟨current,apart⟩ := current x (List.mem_cons_of_mem c inside)
    exact still x current apart

theorem forall_pair {P : NodeId → Prop} (holds : ∀ n ∈ [a,b], P n) : P a ∧ P b := by simpa using holds

theorem wrapChildren_unmoved (forest : d.Forest) (start : d.Current b) (there : d.Current p) (current : d.Current c)
    (apart : ¬ d.Akin b p) (apart' : ¬ d.Akin b c) : Unmoved d (d.wrapChildren p c) b := by
  have told : ∀ x ∈ d.children p, d.Current x ∧ ¬ d.Akin b x := by
    intro x child
    obtain ⟨inside,linked⟩ := forest.down there child
    exact ⟨inside,not_akin_below apart (.of_parent linked (.refl p))⟩
  have gathered := gather_unmoved (d.children p) forest start current apart' told
  obtain ⟨forest₁,places⟩ := gather_rearranged (d.children p) forest current fun x child => (told x child).1
  have still : ∀ m, d.Current m → ¬ d.Akin b m → ¬ Akin _ b m :=
    fun m there apart akin => apart (gathered.akin_back forest start ((places.current m).mpr there) akin).2
  refine gathered.trans (appendChild_unmoved forest₁ ((places.current p).mpr there) ((places.current c).mpr current) ?_ ?_) forest start
  · exact still p there apart
  · exact still c current apart'

-- One step: an edit leaves a node alone if it is told none that are above it or below it.
theorem edit_unmoved (forest : d.Forest) (start : d.Current b) (step : Edit)
    (told : ∀ n ∈ step.nodes, d.Current n ∧ ¬ d.Akin b n) : Unmoved d (step.apply d) b := by
  obtain ⟨forest',effect⟩ := edit_keeps forest step fun n inside => (told n inside).1
  cases step with
  | create payload => exact (create_beside forest payload).unmoved b
  | append p c =>
    obtain ⟨⟨there,apart⟩,current,apart'⟩ := forall_pair told
    exact appendChild_unmoved forest there current apart apart'
  | prepend p c =>
    obtain ⟨⟨there,apart⟩,current,apart'⟩ := forall_pair told
    by_cases above : d.Above c p
    · rw [effect.1 above]
      exact .refl forest b
    · refine (effect.2 above).1.unmoved forest forest' apart' fun q same => ?_
      cases same
      exact fun under => apart (.inl under)
  | after n c =>
    obtain ⟨⟨there,apart⟩,current,apart'⟩ := forall_pair told
    by_cases above : d.Above c n
    · rw [effect.1 above]
      exact .refl forest b
    · exact (effect.2 above).1.unmoved forest forest' apart' fun q linked under => apart (.inl (.of_parent linked under))
  | wrap p wrapper =>
    obtain ⟨⟨there,apart⟩,current,apart'⟩ := forall_pair told
    exact wrapChildren_unmoved forest start there current apart apart'
  | remove n => exact effect.unmoved forest (told n List.mem_cons_self).2
  | setAttribute n name value => exact effect.unmoved forest' (told n List.mem_cons_self).2
  | removeAttribute n name => exact effect.unmoved forest' (told n List.mem_cons_self).2
  | addClass n name => exact effect.unmoved forest' (told n List.mem_cons_self).2
  | setText n value =>
    obtain ⟨there,apart⟩ := told n List.mem_cons_self
    obtain ⟨text,retold⟩ := effect
    exact retold.unmoved forest there apart
  | clone n => exact Beside.unmoved effect b

-- The documents that come about by edits in one subtree: each is told nodes that were there, or that are new.
inductive Tended (d : Dom) (a : NodeId) : Dom → Prop where
  | start : Tended d a d
  | edit {e : Dom} (step : Edit) : Tended d a e → (∀ n ∈ step.nodes, e.Current n ∧ (d.Current n → d.Above a n)) →
    Tended d a (step.apply e)

-- The whole run: the nodes that are told are never akin to one that was not akin to the first.
theorem Tended.unmoved (tended : Tended d a e) (forest : d.Forest) (current : d.Current b) (apart : ¬ d.Akin b a) :
    Unmoved d e b := by
  induction tended with
  | start => exact .refl forest b
  | @edit e step _ told ih =>
    refine ih.trans (edit_unmoved ih.forest (ih.current b current (.inl (.refl b))) step fun n inside => ?_) forest current
    obtain ⟨there,inner⟩ := told n inside
    refine ⟨there,fun akin => ?_⟩
    obtain ⟨old,akin⟩ := ih.akin_back forest current there akin
    exact not_akin_below apart (inner old) akin

-- A copy is new and stands alone, looks like what it copies and is printed like it. The nodes that were there before stay
-- as they were, and the others are those of the copy. Whatever is done in one of the two subtrees then, the other one
-- looks the same and is printed the same.
theorem clone_faithful (forest : d.Forest) (current : d.Current n) : ∃ copy e, d.clone n = (e,some copy) ∧
    e.Current copy ∧ e.parent? copy = none ∧ Mirrors d e n copy ∧ (∀ raw, e.markupOf raw copy = d.markupOf raw n) ∧
    Beside d e ∧ (∀ m, e.Current m → (e.Above copy m ↔ ¬ d.Current m)) ∧
    (∀ e', Tended e copy e' → Mirrors e e' n n ∧ ∀ raw, e'.markupOf raw n = e.markupOf raw n) ∧
    ∀ e', Tended e n e' → Mirrors e e' copy copy ∧ ∀ raw, e'.markupOf raw copy = e.markupOf raw copy := by
  obtain ⟨copy,payload,made,_,headed,alike⟩ := clone_headed forest current
  have whole := ((clone_copies forest n).1 copy made).whole
  generalize d.clone n = cloned at made headed alike whole
  obtain ⟨e,copy?⟩ := cloned
  cases made
  have beside := headed.beside
  have outside : ∀ m, d.Current m → ¬ e.Above copy m := by
    intro m there above
    exact headed.new (forest.above there ((above_kept forest (fun m there => (beside.parent m there).symm) there).mpr above))
  have apart : ¬ e.Akin n copy := by
    rintro (under | higher)
    · rcases under.cases with rfl | ⟨p,linked,_⟩
      · exact headed.new current
      · rw [headed.top] at linked
        cases linked
    · exact outside n current higher
  have tended : ∀ {a b e'}, e.Current b → ¬ e.Akin b a → Tended e a e' →
      Mirrors e e' b b ∧ ∀ raw, e'.markupOf raw b = e.markupOf raw b := by
    intro a b e' there apart tended
    have unmoved := tended.unmoved beside.forest there apart
    have same := unmoved.mirrors beside.forest there
    exact ⟨same,same.markupOf beside.forest unmoved.forest there (unmoved.current b there (.inl (.refl b)))⟩
  refine ⟨copy,e,rfl,headed.current,headed.top,alike,alike.markupOf forest beside.forest current headed.current,beside,?_,?_,?_⟩
  · intro m there
    exact ⟨fun above before => outside m before above,whole m there⟩
  · exact fun e' => tended (beside.current n current) apart
  · exact fun e' => tended headed.current fun akin => apart akin.symm

def cardPage : Text := "<p class=a>one<b>two</b></p>"
def cardText : Text := "<p class=\"a\">one<b>two</b></p>"

-- A paragraph is copied. When it gets another text and class, the copy is printed as before.
theorem clone_faithful_card : ∃ copy e e', (read cardPage).clone ⟨4,0⟩ = (e,some copy) ∧
    e' = (e.setText ⟨4,0⟩ "three").addClass ⟨4,0⟩ "b" ∧ e.markupOf false copy = cardText ∧ e'.markupOf false copy = cardText := by
  have facts : (read cardPage).isCurrent ⟨4,0⟩ = true ∧ (read cardPage).markupOf false ⟨4,0⟩ = cardText := by
    rw [show cardPage = _ from chars_of_literal rfl,show cardText = _ from chars_of_literal rfl]
    decide +kernel
  have current := isCurrent_iff.mp facts.1
  obtain ⟨copy,e,made,_,_,_,printed,beside,_,_,apart⟩ := clone_faithful (read_forest cardPage) current
  have there := beside.current _ current
  have told : ∀ n ∈ [(⟨4,0⟩ : NodeId)], e.Current n ∧ (e.Current n → e.Above ⟨4,0⟩ n) :=
    List.forall_mem_singleton.mpr ⟨there,fun _ => .refl _⟩
  have texted := Tended.edit (.setText ⟨4,0⟩ "three") .start told
  have still := ((setText_retold beside.forest there "three").current _).mpr
    (.inl ⟨there,fun c child => beside.forest.strict there child⟩)
  have tended := texted.edit (.addClass ⟨4,0⟩ "b") (List.forall_mem_singleton.mpr ⟨still,fun _ => .refl _⟩)
  have same := (printed false).trans facts.2
  exact ⟨copy,e,_,made,rfl,same,((apart _ tended).2 false).trans same⟩

end StyleTrim.Dom
