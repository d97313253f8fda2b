import StyleTrim.Proofs.Simulation
import StyleTrim.Proofs.Stocking
namespace StyleTrim
open Text

-- No component is left without its drawing: whoever makes copies draws all of them, and nobody undoes what
-- another one has drawn.

namespace Dom
variable {d d' d₁ d₂ : Dom} {a b c copy m n p : NodeId} {host? : Option NodeId}
  {New : Option NodeKind → Option Text → Prop}

def Any : Option NodeKind → Option Text → Prop := fun _ _ => True

-- Everything new is the copy or below it.
structure Copies (d d' : Dom) (copy : NodeId) : Prop where
  spares : Spares none Any d d'
  whole : ∀ m, d'.Current m → ¬ d.Current m → d'.Above copy m

-- The copy of a child, made behind the others, is put under the copy of its parent.
theorem Copies.moved {place : List NodeId → List NodeId} (copies : Copies d d₁ copy) (inner : Copies d₁ d₂ c)
    (moved : Moved d₂ d' (some copy) c place) (received : Receives d₂ copy c place) (new : ¬ d.Current c)
    (current : d₂.Current c) (top : d₂.parent? c = none) : Copies d d' copy := by
  have step : Spares none Any d₂ d' := (Spares.still inner.spares.forest).moved moved current received fun _ => top
  refine ⟨(copies.spares.trans inner.spares).moved moved current received fun old => absurd old new,?_⟩
  intro m there absent
  rw [moved.current] at there
  by_cases between : d₁.Current m
  · exact step.above there (inner.spares.above between (copies.whole m between absent))
  · have upper : d'.parent? c = some copy := by rw [moved.parent c current,if_pos rfl]
    exact (Above.of_parent upper (.refl copy)).trans (step.above there (inner.whole m there between))

theorem cloneTo_copies (h : Nat) (forest : d.Forest) :
    (∀ copy, (d.cloneTo n h).2 = some copy → Copies d (d.cloneTo n h).1 copy) ∧
      ((d.cloneTo n h).2 = none → (d.cloneTo n h).1 = d) := by
  induction h generalizing d n with
  | zero => exact ⟨(fun _ same => by cases same),fun _ => rfl⟩
  | succ h ih =>
    rw [cloneTo]
    split
    · exact ⟨(fun _ same => by cases same),fun _ => rfl⟩
    · rename_i payload found
      have created := create_created forest payload
      have fresh : Copied d (d.create payload).1 n (d.create payload).2 := by
        refine ⟨fun old => created.fresh _ old rfl,(created.current _).mpr (.inr rfl),created.newParent,?_⟩
        rw [tag?,tag?,created.newNode,found]
      have start : Copies d (d.create payload).1 (d.create payload).2 := by
        refine ⟨(Spares.still forest).create payload trivial,fun m there absent => ?_⟩
        rw [((created.current m).mp there).resolve_left absent]
        exact .refl _
      dsimp only
      generalize (d.create payload).1.children n = l
      generalize (d.create payload).1 = e at fresh start
      generalize (d.create payload).2 = copy at fresh start ⊢
      suffices filled : Copies d _ copy from
        ⟨fun _ same => Option.some.inj same ▸ filled,fun same => by cases same⟩
      -- The copies of the children are made one after the other.
      induction l generalizing e with
      | nil => exact start
      | cons child more next =>
        obtain ⟨some,none⟩ := ih (n := child) start.spares.forest
        obtain ⟨inner,copied⟩ := cloneTo_adds (n := child) h start.spares.forest
        rw [List.foldl_cons]
        generalize e.cloneTo child h = cloned at some none inner copied ⊢
        obtain ⟨e',childCopy?⟩ := cloned
        cases childCopy? with
        | none =>
          cases none rfl
          exact next e' fresh start
        | some childCopy =>
          have isNew := copied childCopy rfl
          have apart : copy ≠ childCopy := by
            rintro rfl
            exact isNew.new fresh.current
          have copied := fresh.later inner
          obtain ⟨moved,received⟩ := copied.linked inner.forest isNew.current isNew.top apart
          have new : ¬ d.Current childCopy := fun old => isNew.new (start.spares.current _ old)
          exact next _ (copied.moved moved apart) (start.moved (some childCopy rfl) moved received new isNew.current isNew.top)

theorem clone_copies (forest : d.Forest) (n : NodeId) : (∀ copy, (d.clone n).2 = some copy → Copies d (d.clone n).1 copy) ∧
    ((d.clone n).2 = none → (d.clone n).1 = d) := cloneTo_copies d.height forest

theorem top_unique (one : d.Above a n) (top : d.parent? a = none) (other : d.Above b n) (top' : d.parent? b = none) : a = b := by
  obtain ⟨k,steps⟩ := one
  induction k generalizing n with
  | zero =>
    cases steps
    rcases other.cases with same | ⟨p,linked,_⟩
    · exact same.symm
    · rw [top] at linked
      cases linked
  | succ k ih =>
    obtain ⟨p,linked,more⟩ := steps
    rcases other.cases with rfl | ⟨q,linked',above⟩
    · rw [top'] at linked
      cases linked
    · cases linked.symm.trans linked'
      exact ih above more

theorem Grounded.top_exists (grounded : d.Grounded n) : ∃ r, d.Above r n ∧ d.parent? r = none := by
  induction grounded with
  | @top n none => exact ⟨n,.refl n,none⟩
  | under linked _ ih =>
    obtain ⟨r,above,none⟩ := ih
    exact ⟨r,.of_parent linked above,none⟩

-- What is in the document and was there before was in it before.
theorem Adds.above_back (adds : Adds root [] d d') (alone : d.parent? root = none) (top : d.Current root) (there : d.Current n)
    (above : d'.Above root n) : d.Above root n := by
  obtain ⟨r,upper,none⟩ := (adds.base.grounded there).top_exists
  have first := adds.top r (adds.base.above there upper) none
  cases top_unique (adds.above there upper) first above (adds.top root top alone)
  exact upper

theorem read_alone (source : Text) : (read source).parent? root = none := by
  rw [(read_grown source).parent root (empty_current.mpr rfl)]
  rfl

end Dom

namespace Amp
open Dom
variable {d d' d₁ d₂ e e' : Dom} {c copy id list m n s : NodeId} {l : List NodeId} {draw : Draw} {drawing : Drawing}
  {host? : Option NodeId} {New : Option NodeKind → Option Text → Prop}

-- What was drawn stays drawn, and what is new is drawn already.
structure Covers (d d' : Dom) : Prop where
  forest : d'.Forest
  current : ∀ m, d.Current m → d'.Current m
  kind : ∀ m, d.Current m → d'.kind? m = d.kind? m
  ink : ∀ m, d.Current m → d.classInk m ≤ d'.classInk m
  kept : ∀ m, d.Current m → Settled d m → Settled d' m
  fresh : ∀ m, d'.Current m → ¬ d.Current m → Settled d' m

theorem Covers.refl (forest : d.Forest) : Covers d d :=
  ⟨forest,fun _ there => there,fun _ _ => rfl,fun _ _ => Nat.le_refl _,fun _ _ settled => settled,
    fun _ there new => absurd there new⟩

theorem Covers.trans (one : Covers d d₁) (other : Covers d₁ d₂) : Covers d d₂ := by
  refine ⟨other.forest,?_,?_,?_,?_,?_⟩
  · intro m there
    exact other.current m (one.current m there)
  · intro m there
    rw [other.kind m (one.current m there),one.kind m there]
  · intro m there
    exact Nat.le_trans (one.ink m there) (other.ink m (one.current m there))
  · intro m there settled
    exact other.kept m (one.current m there) (one.kept m there settled)
  · intro m there new
    by_cases between : d₁.Current m
    · exact other.kept m between (one.fresh m between new)
    · exact other.fresh m there between

-- A host may lose what it was marked with only where it was not drawn yet.
theorem covers_of_hosted (spares : Spares host? Inert d d') (bare : ∀ h ∈ host?, ¬ Settled d h) : Covers d d' := by
  refine ⟨spares.forest,spares.current,spares.kind,spares.ink,?_,fun m there new => (spares.fresh m there new).settled⟩
  intro m there settled
  refine settled.later spares there fun same => ?_
  exact bare m same.symm settled

theorem covers_of_spares (spares : Spares none Inert d d') : Covers d d' := covers_of_hosted spares fun _ same => by cases same

-- Something is there that was not, or more is written in the classes of a node.
def Outgrows (d d' : Dom) : Prop :=
  (∃ m, d'.Current m ∧ ¬ d.Current m) ∨ ∃ m, d.Current m ∧ d.classInk m < d'.classInk m

theorem Outgrows.irrefl : ¬ Outgrows d d := by
  rintro (⟨m,there,new⟩ | ⟨m,_,more⟩)
  · exact new there
  · exact Nat.lt_irrefl _ more

theorem Outgrows.stays (more : Outgrows d d₁) (one : Covers d d₁) (other : Covers d₁ d₂) : Outgrows d d₂ := by
  rcases more with ⟨m,there,new⟩ | ⟨m,there,more⟩
  · exact .inl ⟨m,other.current m there,new⟩
  · exact .inr ⟨m,there,Nat.lt_of_lt_of_le more (other.ink m (one.current m there))⟩

-- A step of drawing leaves all as it is, which tells that `P` holds, or adds something that stays.
structure Progress (P : Prop) (d d' : Dom) : Prop where
  covers : Covers d d'
  either : d' = d ∧ P ∨ Outgrows d d'

theorem Progress.rest {P : Prop} (forest : d.Forest) (holds : P) : Progress P d d := ⟨.refl forest,.inl ⟨rfl,holds⟩⟩

theorem Progress.grown {P : Prop} (covers : Covers d d') (new : ∃ m, d'.Current m ∧ ¬ d.Current m) : Progress P d d' :=
  ⟨covers,.inr (.inl new)⟩

theorem Progress.mono {P Q : Prop} (progress : Progress P d d') (weaker : P → Q) : Progress Q d d' :=
  ⟨progress.covers,progress.either.imp_left fun ⟨same,holds⟩ => ⟨same,weaker holds⟩⟩

-- The second step starts from the same document where the first has left all as it is.
theorem Progress.trans {P : Prop} {Q : Dom → Prop} (one : Progress P d d₁) (other : Progress (Q d₁) d₁ d₂) :
    Progress (P ∧ Q d) d d₂ := by
  refine ⟨one.covers.trans other.covers,?_⟩
  rcases one.either with ⟨rfl,first⟩ | more
  · exact other.either.imp_left fun ⟨same,second⟩ => ⟨same,first,second⟩
  · exact .inr (more.stays one.covers other.covers)

theorem Progress.foldlM {P : Dom → NodeId → Prop} {step : Dom → NodeId → Option Dom} (l : List NodeId) (forest : d.Forest)
    (each : ∀ e c e', c ∈ l → Covers d e → step e c = some e' → Progress (P e c) e e') (ran : l.foldlM step d = some d') :
    Progress (∀ c ∈ l, P d c) d d' := by
  induction l generalizing d with
  | nil =>
    cases ran
    exact .rest forest nofun
  | cons c more ih =>
    rw [List.foldlM_cons] at ran
    obtain ⟨e,first,later⟩ := Option.bind_eq_some_iff.mp ran
    have one := each d c e List.mem_cons_self (.refl forest) first
    have rest := ih one.covers.forest
      (fun e' c e'' inside covers => each e' c e'' (List.mem_cons_of_mem _ inside) (one.covers.trans covers)) later
    exact (one.trans (Q := fun d => ∀ c ∈ more, P d c) rest).mono List.forall_mem_cons.mpr

theorem Fills.progress (fills : Fills d d' id drawing) (forest : d.Forest) (found : drawingOf? d id = some drawing) :
    Progress (Drawn d id drawing) d d' := by
  by_cases drawn : Drawn d id drawing
  · rw [fills.rests drawn]
    exact .rest forest drawn
  · refine .grown (covers_of_hosted (fills.spares drawn) fun h same settled => ?_) (fills.grown drawn)
    cases same
    exact drawn (settled.drawn drawing found)

-- What the drawing of copies has to do.
def Settles (draw : Draw) : Prop := ∀ d n d', d.Forest → d.Current root → d.Current n → draw d n = some d' →
  Covers d d' ∧ ∀ m, d.Current m → d.Above n m → Settled d' m

-- A copy is marked and put somewhere before it is drawn.
theorem covers_of_copies (copies : Copies d e copy) (edited : Spares none Any e e') (same : ∀ m, e'.Current m → e.Current m)
    (settles : Settles draw) (top : d.Current root) (there : e.Current copy) (ran : draw e' copy = some d') :
    Covers d d' ∧ d'.Current copy := by
  have whole := copies.spares.trans edited
  have here := edited.current copy there
  obtain ⟨covers,own⟩ := settles e' copy d' whole.forest (whole.current root top) here ran
  refine ⟨⟨covers.forest,?_,?_,?_,?_,?_⟩,covers.current copy here⟩
  · intro m there
    exact covers.current m (whole.current m there)
  · intro m there
    rw [covers.kind m (whole.current m there),whole.kind m there]
  · intro m there
    exact Nat.le_trans (whole.ink m there) (covers.ink m (whole.current m there))
  · intro m there settled
    exact covers.kept m (whole.current m there) (settled.later whole there nofun)
  · intro m there new
    by_cases between : e'.Current m
    · have before := same m between
      exact own m between (edited.above before (copies.whole m before new))
    · exact covers.fresh m there between

theorem heading_spares (spares : Spares host? New d d₁) (current : d₁.Current n) (isOpen : Bool) :
    Spares host? New d (heading d₁ n isOpen) :=
  (((spares.addClass current headerMark).set (by decide) (by decide) _).set (by decide) (by decide) _).set (by decide) (by decide) _

theorem markSection_spares (spares : Spares host? New d d₁) (current : d₁.Current s) (isOpen : Bool) :
    Spares host? New d (markSection d₁ s isOpen) := by
  obtain ⟨e₁,opened,e₂,headed,whole⟩ := markSection_eq d₁ s isOpen
  have first : Spares host? New d e₁ ∧ e₁.Current s := by
    rw [opened]
    split
    · exact ⟨spares.set (by decide) (by decide) _,edit_current.mpr current⟩
    · exact ⟨spares.unset (by decide) (by decide),edit_current.mpr current⟩
  have part : ∀ i n, (e₁.elementChildren s)[i]? = some n → e₁.Current n := fun i n found =>
    (first.1.forest.down first.2 (mem_elementChildren.mp (List.mem_of_getElem? found)).1).1
  have second : Spares host? New d e₂ ∧ ∀ n, e₁.Current n → e₂.Current n := by
    rw [headed]
    split
    · rename_i header found
      exact ⟨heading_spares first.1 (part 0 header found) isOpen,fun n => ((heading_relabelled e₁ header isOpen).current n).mpr⟩
    · exact ⟨first.1,fun _ there => there⟩
  rw [whole]
  split
  · rename_i content found
    exact (second.1.addClass (second.2 content (part 1 content found)) _).set (by decide) (by decide) _
  · exact second.1

theorem clone_some (there : d.Current n) : (d.clone n).2 ≠ none := by
  obtain ⟨payload,found⟩ := Option.isSome_iff_exists.mp there.node?
  rw [clone,height,cloneTo,found]
  exact Option.some_ne_none _

-- Whoever copies a node, marks the copy and puts it somewhere, and has it drawn, has covered it.
theorem cloned_progress {put : Dom → NodeId → Dom} (settles : Settles draw) (forest : d.Forest) (top : d.Current root)
    (there : d.Current n) (edits : ∀ e copy, Copied d e n copy → Spares none Any d e →
      Spares none Any e (put e copy) ∧ ∀ m, (put e copy).Current m → e.Current m)
    (ran : (match d.clone n with | (e,none) => some e | (e,some copy) => draw (put e copy) copy) = some d') :
    Progress False d d' := by
  have copies := (clone_copies forest n).1
  have copied := (clone_adds forest n).2
  have copying := clone_some there
  generalize d.clone n = cloned at copies copied copying ran
  obtain ⟨e,copy?⟩ := cloned
  cases copy? with
  | none => exact absurd rfl copying
  | some copy =>
    have copies := copies copy rfl
    have copied := copied copy rfl
    obtain ⟨edited,same⟩ := edits e copy copied copies.spares
    obtain ⟨covers,current⟩ := covers_of_copies copies edited same settles top copied.current ran
    exact .grown covers ⟨copy,current,copied.new⟩

theorem doubleSection_progress (settles : Settles draw) (forest : d.Forest) (top : d.Current root) (there : d.Current s)
    (ran : doubleSection draw d s = some d') : Progress False d d' := by
  refine cloned_progress settles forest top there (fun e copy copied spares => ?_) ran
  have here := spares.current s there
  have shown := markSection_relabelled e s true
  have shut := markSection_relabelled (markSection e s true) copy false
  have first : Spares none Any e _ := markSection_spares (.still spares.forest) here true
  have second := markSection_spares first ((shown.current copy).mpr copied.current) false
  have copied' := (copied.relabelled shown).relabelled shut
  refine ⟨second.after ((shut.current s).mpr ((shown.current s).mpr here)) copied'.current copied'.top fun _ => copied'.top,?_⟩
  intro m
  rw [insertAfter_current,shut.current,shown.current]
  exact fun there => there

-- What tells a component that it is not to be drawn again. The copies of an accordion are known by their headers,
-- those of a sidebar by where they were put, and those of a list by what holds them.
def Recognized (d : Dom) (n : NodeId) : Drawing → Prop
  | .accordion => d.childrenByTag n "section" = [] ∨ ∃ s ∈ d.childrenByTag n "section", isMarked d s = true
  | .sidebar => hasMask d n = true ∧ ∀ navigation ∈ d.childrenByTag n "nav", ∀ target,
      (d.attribute? navigation "toolbar-target").bind d.elementById? = some target →
        d.hasChildWithClass target toolbarMark = true
  | .items => hasItems d n = true ∨ ∀ template, template? d n = some template → d.elementChildren template = []
  | drawing => Drawn d n drawing

theorem drawAccordion_progress (settles : Settles draw) (forest : d.Forest) (top : d.Current root) (there : d.Current id)
    (ran : drawAccordion draw d id = some d') : Progress (Recognized d id .accordion) d d' := by
  simp only [drawAccordion] at ran
  split at ran
  · rename_i marked
    cases ran
    exact .rest forest (.inr (List.any_eq_true.mp marked))
  · have doubled : Progress (∀ s ∈ d.childrenByTag id "section", False) d d' := by
      refine Progress.foldlM (P := fun _ _ => False) _ forest (fun e s e' inside covers doubled => ?_) ran
      have current := (forest.down there (mem_childrenByTag.mp inside).1).1
      exact doubleSection_progress settles covers.forest (covers.current root top) (covers.current s current) doubled
    exact doubled.mono fun none => .inl (List.eq_nil_iff_forall_not_mem.mpr none)

theorem addItem_progress (settles : Settles draw) (forest : d.Forest) (top : d.Current root) (there : d.Current list)
    (current : d.Current n) (ran : addItem draw list d n = some d') : Progress False d d' := by
  refine cloned_progress settles forest top current (fun e copy copied spares => ?_) ran
  have named : Spares none Any e (e.setAttribute copy "role" "listitem") :=
    (Spares.still spares.forest).set (by decide) (by decide) _
  refine ⟨named.append (edit_current.mpr (spares.current list there)) (edit_current.mpr copied.current) fun _ => ?_,?_⟩
  · exact (edit_parent? e copy copy _).trans copied.top
  · intro m there
    exact edit_current.mp ((appendChild_current _ list copy m).mp there)

theorem template_current (forest : d.Forest) (top : d.Current root) (there : d.Current id) {template : NodeId}
    (found : template? d id = some template) : d.Current template := by
  unfold template? at found
  split at found
  · exact elementById_current forest top found
  · exact (forest.down there (mem_childrenByTag.mp (List.mem_of_head? found)).1).1

theorem drawItems_progress (keeps : Keeps draw) (settles : Settles draw) (forest : d.Forest) (top : d.Current root)
    (there : d.Current id) (ran : drawItems draw d id = some d') : Progress (Recognized d id .items) d d' := by
  unfold drawItems at ran
  split at ran
  · rename_i shown
    cases ran
    exact .rest forest (.inl shown)
  · split at ran
    · rename_i none
      cases ran
      exact .rest forest (.inr fun template found => by rw [none] at found; cases found)
    · rename_i template found
      extract_lets items at ran
      split at ran
      · rename_i empty
        cases ran
        refine .rest forest (.inr fun other same => ?_)
        cases found.symm.trans same
        exact List.isEmpty_iff.mp empty
      · obtain ⟨filled,filling,put⟩ := Option.bind_eq_some_iff.mp ran
        cases put
        have made : Spares none Inert d _ := (Spares.still forest).create (.element "div" [⟨"role","list"⟩]) (admits_plain (by decide) rfl)
        have list := made_current forest (.element "div" [⟨"role","list"⟩])
        have alone := (create_created forest (.element "div" [⟨"role","list"⟩])).newParent
        have source := template_current forest top there found
        have adds := foldlM_keeps (R := Adds root [] _) _ (.refl made.forest _)
          (fun e n e' _ adds => addItem_adds keeps (made.current root top) list adds) filling
        have covers := foldlM_keeps (R := Covers _) _ (.refl made.forest) (fun e n e' inside covers ran => by
          obtain ⟨l,repeated,inside⟩ := List.mem_flatten.mp inside
          rw [List.eq_of_mem_replicate repeated] at inside
          have item := (forest.down source (mem_elementChildren.mp inside).1).1
          exact covers.trans (addItem_progress settles covers.forest (covers.current root (made.current root top))
            (covers.current _ list) (covers.current n (made.current n item)) ran).covers) filling
        have here := covers.current id (made.current id there)
        have put : Spares none Inert filled _ := (Spares.still covers.forest).append here (covers.current _ list) fun _ =>
          adds.top _ list alone
        exact .grown (((covers_of_spares made).trans covers).trans (covers_of_spares put))
          ⟨_,put.current _ (covers.current _ list),made_absent forest _⟩

theorem copyToolbar_progress (settles : Settles draw) (forest : d.Forest) (top : d.Current root) (there : d.Current n)
    (ran : copyToolbar draw d n = some d') : Progress (∀ target,
      (d.attribute? n "toolbar-target").bind d.elementById? = some target → d.hasChildWithClass target toolbarMark = true) d d' := by
  unfold copyToolbar at ran
  split at ran
  · rename_i none
    cases ran
    exact .rest forest fun target found => by rw [none] at found; cases found
  · rename_i target named
    split at ran
    · rename_i marked
      cases ran
      refine .rest forest fun other same => ?_
      cases named.symm.trans same
      exact marked
    · obtain ⟨value,_,found⟩ := Option.bind_eq_some_iff.mp named
      have goal := elementById_current forest top found
      refine (cloned_progress settles forest top there (fun e copy copied spares => ?_) ran).mono False.elim
      have same := addClass_relabelled e copy toolbarMark
      have marked : Spares none Any e _ := (Spares.still spares.forest).addClass copied.current toolbarMark
      have here := (same.current target).mpr (spares.current target goal)
      refine ⟨marked.append here ((same.current copy).mpr copied.current) fun _ => (same.parent copy).trans copied.top,?_⟩
      intro m there
      exact (same.current m).mp ((appendChild_current _ target copy m).mp there)

def addMask (d : Dom) (id : NodeId) : Dom :=
  if hasMask d id then d
  else
    let (d,mask) := box d maskMark
    d.insertAfter id mask

theorem drawSidebar_eq (draw : Draw) (d : Dom) (id : NodeId) : drawSidebar draw d id =
    ((d.childrenByTag id "nav").foldlM (copyToolbar draw) d).bind fun d => some (addMask d id) := by
  unfold drawSidebar addMask
  refine Option.bind_congr fun e _ => ?_
  split <;> rfl

theorem addMask_progress (forest : d.Forest) (there : d.Current id) : Progress (hasMask d id = true) d (addMask d id) := by
  unfold addMask
  split
  · exact .rest forest ‹_›
  · have created := create_created forest (.element "div" [⟨"class",maskMark⟩])
    have mask := made_current forest (.element "div" [⟨"class",maskMark⟩])
    have made : Spares none Inert d _ := (Spares.still forest).create (.element "div" [⟨"class",maskMark⟩]) (admits_plain (by decide) rfl)
    have put := made.after (made.current id there) mask created.newParent fun _ => created.newParent
    exact .grown (covers_of_spares put) ⟨_,(insertAfter_current _ _ _ _).mpr mask,made_absent forest _⟩

theorem drawSidebar_progress (settles : Settles draw) (forest : d.Forest) (top : d.Current root) (there : d.Current id)
    (ran : drawSidebar draw d id = some d') : Progress (Recognized d id .sidebar) d d' := by
  rw [drawSidebar_eq] at ran
  obtain ⟨copied,copying,masked⟩ := Option.bind_eq_some_iff.mp ran
  cases masked
  have toolbars := Progress.foldlM (P := fun d n => ∀ target, (d.attribute? n "toolbar-target").bind d.elementById? = some target →
      d.hasChildWithClass target toolbarMark = true) _ forest (fun e n e' inside covers ran => by
    have current := (forest.down there (mem_childrenByTag.mp inside).1).1
    exact copyToolbar_progress settles covers.forest (covers.current root top) (covers.current n current) ran) copying
  have masked := addMask_progress toolbars.covers.forest (toolbars.covers.current id there)
  exact (toolbars.trans (Q := fun d => hasMask d id = true) masked).mono And.symm

end Amp
end StyleTrim
