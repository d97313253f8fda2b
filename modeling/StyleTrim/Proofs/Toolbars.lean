import StyleTrim.Proofs.Margins
import StyleTrim.Proofs.Shapes
namespace StyleTrim
open Text

-- A navigation of a sidebar comes into the element that it names, as a copy with everything in it.

namespace Dom
variable {d e e' : Dom} {a c k m n : NodeId} {h : Nat}

-- Nodes that were there stay in their order, with new ones behind and between them.
theorem below_old (forest : d.Forest) (forest' : e.Forest) (current : ∀ m, d.Current m → e.Current m)
    (parent : ∀ m, d.Current m → e.parent? m = d.parent? m)
    (grows : ∀ m, d.Current m → ∃ more, e.children m = d.children m ++ more) (there : d.Current a) :
    (e.below h a).filter d.isCurrent = d.below h a := by
  induction h generalizing a with
  | zero => rfl
  | succ h ih =>
    obtain ⟨more,whole⟩ := grows a there
    have new : ∀ c ∈ more, (e.below h c).filter d.isCurrent = [] := by
      intro c inside
      have child : c ∈ e.children a := by simp [whole,inside]
      obtain ⟨current',linked⟩ := forest'.down (current a there) child
      have absent : ¬ d.Current c := by
        intro old
        rw [parent c old] at linked
        have once := forest'.once (current a there)
        rw [whole] at once
        exact List.disjoint_of_nodup_append once (forest.up old linked).2 inside
      refine List.filter_eq_nil_iff.mpr fun x under old => absent ?_
      have old := isCurrent_iff.mp old
      obtain ⟨_,k,_,steps⟩ := (forest'.mem_below current').mp under
      exact forest.above old ((above_kept forest (fun m there => (parent m there).symm) old).mpr ⟨k,steps⟩)
    have none : more.flatMap (fun c => (e.below h c).filter d.isCurrent) = [] := List.flatMap_eq_nil_iff.mpr new
    rw [below,below,List.filter_cons_of_pos (isCurrent_iff.mpr there),whole,List.filter_flatMap,List.flatMap_append,none,
      List.append_nil]
    congr 1
    exact List.flatMap_congr fun c child => ih (forest.down there child).1

-- The first that is found in a longer list is the one found before, or one that was not there.
theorem find_among {p q old : NodeId → Bool} (l : List NodeId) (same : ∀ x, old x = true → p x = q x)
    (found : (l.filter old).find? q = some a) : ∃ t, l.find? p = some t ∧ (t = a ∨ old t = false) := by
  induction l with
  | nil => cases found
  | cons x more ih =>
    rw [List.find?_cons]
    cases was : old x with
    | true =>
      rw [List.filter_cons_of_pos was,List.find?_cons,← same x was] at found
      cases fits : p x with
      | true =>
        rw [fits] at found
        exact ⟨x,rfl,.inl (Option.some.inj found)⟩
      | false =>
        rw [fits] at found
        exact ih found
    | false =>
      rw [List.filter_cons_of_neg (by simp [was])] at found
      cases p x with
      | true => exact ⟨x,rfl,.inr was⟩
      | false => exact ih found

-- What stands for a node: it has its kind and its classes.
structure Keeping (d e : Dom) (m k : NodeId) : Prop where
  current : e.Current k
  kind : e.kind? k = d.kind? m
  classes : ∀ name, Token name → d.hasClass m name = true → e.hasClass k name = true

theorem Keeping.trans {x : NodeId} (one : Keeping d e m k) (other : Keeping e e' k x) : Keeping d e' m x :=
  ⟨other.current,other.kind.trans one.kind,fun name token has => other.classes name token (one.classes name token has)⟩

theorem keeping_node (current : e.Current k) (same : e.node? k = d.node? m) : Keeping d e m k := by
  refine ⟨current,by rw [kind?,same,kind?],fun name _ has => ?_⟩
  rwa [hasClass,attribute?,same]

theorem keeping_class (current : d.Current c) (there : d.Current m) (mark : Text) : Keeping d (d.addClass c mark) m m :=
  ⟨((addClass_relabelled d c mark).current m).mpr there,(addClass_relabelled d c mark).kind m,
    fun _ token has => addClass_keeps current there token mark has⟩

-- What is done to a document elsewhere.
structure Onward (d e : Dom) : Prop where
  keeping : ∀ m, d.Current m → Keeping d e m m
  parent : ∀ m, d.Current m → e.parent? m = d.parent? m
  values : ∀ m name, d.Current m → name ≠ ("class" : Text) → e.attribute? m name = d.attribute? m name

theorem Beside.onward (beside : Beside d e) : Onward d e := by
  refine ⟨fun m there => keeping_node (beside.current m there) (beside.node m there),beside.parent,fun m name there _ => ?_⟩
  rw [attribute?,beside.node m there,attribute?]

-- A new node is put somewhere.
theorem Beside.put {target : Option NodeId} {place : List NodeId → List NodeId} (beside : Beside d e) (new : ¬ d.Current c)
    (moved : Moved e e' target c place) : Onward d e' := by
  have node : ∀ m, d.Current m → e'.node? m = d.node? m := fun m there => (moved.node m).trans (beside.node m there)
  refine ⟨fun m there => keeping_node ((moved.current m).mpr (beside.current m there)) (node m there),?_,?_⟩
  · intro m there
    rw [moved.parent m (beside.current m there),if_neg,beside.parent m there]
    rintro rfl
    exact new there
  · intro m name there _
    rw [attribute?,node m there,attribute?]

theorem Beside.addClass (beside : Beside d e) (new : ¬ d.Current c) (current : e.Current c) (mark : Text) :
    Beside d (e.addClass c mark) := by
  have painted := addClass_painted current mark
  refine ⟨addClass_forest beside.forest c mark,fun m there => (painted.current m).mpr (beside.current m there),?_,?_,?_⟩
  · intro m there
    rw [painted.node m (beside.current m there) fun same => new (same ▸ there),beside.node m there]
  · intro m there
    rw [painted.parent,beside.parent m there]
  · intro m there
    rw [painted.children,beside.children m there]

theorem Onward.above (onward : Onward d e) (forest : d.Forest) (there : d.Current m) : e.Above n m ↔ d.Above n m :=
  (above_kept forest (fun m there => (onward.parent m there).symm) there).symm

end Dom

namespace Amp
open Dom
variable {d d' d₁ d₂ e e' : Dom} {c copy id k m n t t₀ : NodeId} {done rest : List NodeId} {value : Text}

-- What is done to a document when all that is there counts as outside: nothing but classes and toolbars come.
theorem margin_all (forest : d.Forest) : Margin d.Current d.Current d :=
  ⟨fun _ there => there,fun _ there => there,fun _ _ there linked => (forest.up there linked).1,
    fun _ _ there linked => (forest.up there linked).1,fun _ _ there linked inside => absurd (forest.up there linked).1 inside,
    fun _ _ there child inside => absurd (forest.down there child).1 inside⟩

theorem Guards.elements (guards : Guards d.Current d.Current d e) (top : d.Current root) :
    e.elements.filter d.isCurrent = d.elements := by
  have forest := guards.base
  have above := guards.current root top
  have deep : (e.below e.height root).filter d.isCurrent = d.below d.height root := by
    calc (e.below e.height root).filter d.isCurrent
      _ = (e.below (e.height + d.height) root).filter d.isCurrent := by
        rw [below_deep guards.forest above (guards.forest.shallower root)]
      _ = d.below (d.height + e.height) root := by
        rw [below_old forest guards.forest guards.current guards.parent
          (fun m there => (guards.behind m there).imp fun _ grows => grows.1) top,Nat.add_comm]
      _ = d.below d.height root := below_deep forest top (forest.shallower root) _
  rw [Dom.elements,Dom.elements,elementsUnder,elementsUnder,descendants,descendants,← deep,List.filter_filter,List.filter_filter]
  refine List.filter_congr fun x _ => ?_
  cases old : d.isCurrent x with
  | false => simp
  | true => simp [isElement_congr (guards.kind x (isCurrent_iff.mp old))]

-- What a name stands for is what it stood for before, or new.
theorem Guards.elementById (guards : Guards d.Current d.Current d e) (top : d.Current root)
    (found : d.elementById? value = some t₀) : ∃ t, e.elementById? value = some t ∧ (t = t₀ ∨ ¬ d.Current t) := by
  rw [elementById?,← guards.elements top] at found
  have same : ∀ x, d.isCurrent x = true →
      decide (e.attribute? x "id" = some value) = decide (d.attribute? x "id" = some value) :=
    fun x old => by rw [guards.values x "id" (isCurrent_iff.mp old) (by decide)]
  obtain ⟨t,first,known⟩ := find_among e.elements same found
  refine ⟨t,first,known.imp_right fun absent old => ?_⟩
  rw [isCurrent_iff.mpr old] at absent
  cases absent

theorem Guards.keeping {out still : NodeId → Prop} (guards : Guards out still d e) (there : d.Current m) : Keeping d e m m :=
  ⟨guards.current m there,guards.kind m there,fun name token has => guards.classes m name there token has⟩

theorem Guards.onward (guards : Guards d.Current d.Current d e) : Onward d e :=
  ⟨fun _ there => guards.keeping there,guards.parent,guards.values⟩

-- A child of `t` that is a copy of the navigation `n`: to all below the one there is something below the other.
structure Toolbar (d d' : Dom) (n t c : NodeId) : Prop where
  new : ¬ d.Current c
  current : d'.Current c
  parent : d'.parent? c = some t
  kind : d'.kind? c = d.kind? n
  named : d'.attribute? c "toolbar-target" = d.attribute? n "toolbar-target"
  mark : d'.hasClass c toolbarMark = true
  whole : ∀ m, d.Current m → d.Above n m → ∃ k, d'.Above c k ∧ Keeping d d' m k

theorem toolbarMark_token : Token toolbarMark := isToken_iff.mp (by decide)

-- A copy that was put under its target, before it is drawn.
theorem put_toolbar (forest : e.Forest) (there : e.Current n) (target : e.Current t) : ∃ f c, e.clone n = (f,some c) ∧
    ((f.addClass c toolbarMark).appendChild t c).Forest ∧ Onward e ((f.addClass c toolbarMark).appendChild t c) ∧
    Toolbar e ((f.addClass c toolbarMark).appendChild t c) n t c := by
  obtain ⟨c,payload,made,found,headed,alike⟩ := clone_headed forest there
  generalize e.clone n = result at made headed alike
  obtain ⟨f,c?⟩ := result
  cases made
  have beside := headed.beside
  have forest₁ := addClass_forest beside.forest c toolbarMark
  have current := (addClass_current f c c toolbarMark).mpr headed.current
  have outside := (addClass_current f c t toolbarMark).mpr (beside.current t target)
  have above : ∀ m, (f.addClass c toolbarMark).Above c m ↔ f.Above c m := fun m =>
    above_congr (P := fun _ => True) (fun m _ => addClass_parent? f c m toolbarMark) (fun _ _ _ _ => trivial) trivial
  have free : ¬ (f.addClass c toolbarMark).Above c t := by
    rw [above,← above_kept forest (fun m there => (beside.parent m there).symm) target]
    exact fun above => headed.new (forest.above target above)
  have moved := appendChild_moved forest₁ outside current free
  have carried := ((append_effect forest₁ outside current).2 free).1
  have received := moved.receives forest₁ current ⟨outside,free,inserts_last _ _⟩
  refine ⟨f,c,rfl,received,(beside.addClass headed.new headed.current toolbarMark).put headed.new moved,headed.new,
    (moved.current c).mpr current,?_,?_,?_,?_,?_⟩
  · rw [moved.parent c current,if_pos rfl]
  · rw [kind?,moved.node,← kind?,(addClass_relabelled f c toolbarMark).kind,kind?,headed.node,kind?,found]
  · rw [attribute?,moved.node,← attribute?,addClass_attribute? (by decide),attribute?,headed.node,attribute?,found]
  · rw [hasClass,attribute?,moved.node]
    exact addClass_gives headed.current toolbarMark_token
  · rintro m old ⟨i,steps⟩
    obtain ⟨k,inside,steps,same⟩ := alike.below forest beside.forest there headed.current old steps
    have marked := keeping_class headed.current inside toolbarMark
    have under := (forest₁.mem_descendants current).mpr ⟨marked.current,(above k).mpr ⟨i,steps⟩⟩
    rw [← carried.subtree] at under
    refine ⟨k,((received.mem_descendants ((moved.current c).mpr current)).mp under).2,?_⟩
    exact ((keeping_node inside (mirrors_iff.mp same).1).trans marked).trans
      (keeping_node ((moved.current k).mpr marked.current) (moved.node k))

-- The copy is drawn, and stays the same to what is around it.
theorem margin_outside (forest : d.Forest) (tag : d.tag? c ≠ some ("amp-sidebar" : Text)) :
    Margin (fun m => d.Current m ∧ ¬ d.Above c m) (fun m => d.Current m ∧ ¬ d.Above c m) d := by
  have upper : ∀ m p, d.Current m ∧ ¬ d.Above c m → d.parent? m = some p → d.Current p ∧ ¬ d.Above c p :=
    fun m p outside linked => ⟨(forest.up outside.1 linked).1,fun above => outside.2 (.of_parent linked above)⟩
  refine ⟨fun _ outside => outside.1,fun _ outside => outside,upper,upper,?_,?_⟩
  · intro m p outside linked inside
    exact absurd (upper m p outside linked) inside
  · intro p x outside child inside
    obtain ⟨current,linked⟩ := forest.down outside.1 child
    have above : d.Above c x := by
      by_contra other
      exact inside ⟨current,other⟩
    rcases above.cases with rfl | ⟨q,upward,above⟩
    · exact tag
    · cases Option.some.inj (linked.symm.trans upward)
      exact absurd above outside.2

theorem Toolbar.drawn (toolbar : Toolbar d e n t c) (adds : Adds root [] e e')
    (guards : Guards (fun m => e.Current m ∧ ¬ e.Above c m) (fun m => e.Current m ∧ ¬ e.Above c m) e e') : Toolbar d e' n t c := by
  obtain ⟨target,child⟩ := guards.base.up toolbar.current toolbar.parent
  obtain ⟨more,whole,_⟩ := guards.behind t ⟨target,guards.base.strict target child⟩
  refine ⟨toolbar.new,guards.current c toolbar.current,?_,(guards.kind c toolbar.current).trans toolbar.kind,?_,
    guards.classes c toolbarMark toolbar.current toolbarMark_token toolbar.mark,?_⟩
  · exact (guards.forest.down (guards.current t target) (whole ▸ List.mem_append_left more child)).2
  · have free : ¬ e.MayChange c "toolbar-target" := by
      rintro (same | ⟨inside,_⟩)
      · exact absurd same (by decide)
      · exact absurd inside (by decide)
    exact ((adds.values c _ toolbar.current).resolve_right free).trans toolbar.named
  · intro m old under
    obtain ⟨k,above,keeping⟩ := toolbar.whole m old under
    exact ⟨k,adds.above keeping.current above,keeping.trans (guards.keeping keeping.current)⟩

theorem Toolbar.later (toolbar : Toolbar d e n t c) (onward : Onward e e') (forest : e.Forest) : Toolbar d e' n t c := by
  have kept := onward.keeping c toolbar.current
  refine ⟨toolbar.new,kept.current,(onward.parent c toolbar.current).trans toolbar.parent,kept.kind.trans toolbar.kind,
    (onward.values c _ toolbar.current (by decide)).trans toolbar.named,kept.classes _ toolbarMark_token toolbar.mark,?_⟩
  intro m old under
  obtain ⟨k,above,keeping⟩ := toolbar.whole m old under
  exact ⟨k,(onward.above forest keeping.current).mpr above,keeping.trans (onward.keeping k keeping.current)⟩

theorem Toolbar.earlier (toolbar : Toolbar e e' n t c) (onward : Onward d e) (forest : d.Forest) (there : d.Current n) :
    Toolbar d e' n t c := by
  refine ⟨fun old => toolbar.new (onward.keeping c old).current,toolbar.current,toolbar.parent,
    toolbar.kind.trans (onward.keeping n there).kind,toolbar.named.trans (onward.values n _ there (by decide)),toolbar.mark,?_⟩
  intro m old under
  obtain ⟨k,above,keeping⟩ := toolbar.whole m (onward.keeping m old).current ((onward.above forest old).mpr under)
  exact ⟨k,above,(onward.keeping m old).trans keeping⟩

theorem addMask_onward (forest : d.Forest) (there : d.Current id) : Onward d (addMask d id) := by
  unfold addMask
  split
  · exact ⟨fun m old => keeping_node old rfl,fun _ _ => rfl,fun _ _ _ _ => rfl⟩
  · have beside := create_beside forest (.element "div" [⟨"class",maskMark⟩])
    have created := create_created forest (.element "div" [⟨"class",maskMark⟩])
    have mask := made_current forest (.element "div" [⟨"class",maskMark⟩])
    rcases insertAfter_cases beside.forest mask (beside.current id there) created.newParent with same | ⟨p,_,moved,_⟩
    · exact (congrArg (Onward d) same).mpr beside.onward
    · exact beside.put (made_absent forest _) moved

-- A navigation whose turn it is, and whose target has no toolbar yet.
theorem copyToolbar_lands (depth : Nat) (forest : e.Forest) (top : e.Current root) (there : e.Current n)
    (tag : e.tag? n = some ("nav" : Text)) (named : e.attribute? n "toolbar-target" = some value)
    (found : e.elementById? value = some t) (bare : e.hasChildWithClass t toolbarMark = false)
    (ran : copyToolbar (drawUnder depth) e n = some e') : (∃ c, Toolbar e e' n t c) ∧ e'.attribute? t "id" = some value := by
  have target := elementById_current forest top found
  obtain ⟨f,c,cloned,forest₁,onward,toolbar⟩ := put_toolbar forest there target
  simp only [copyToolbar,named,Option.bind_some,found,bare,cloned,Bool.false_eq_true,if_false] at ran
  generalize (f.addClass c toolbarMark).appendChild t c = g at *
  have top₁ := (onward.keeping root top).current
  have kind : g.tag? c = some ("nav" : Text) := (tag?_congr toolbar.kind).trans tag
  have adds := drawUnder_keeps depth g c e' forest₁ top₁ toolbar.current ran
  have guards := drawUnder_minds depth _ _ g c e' (margin_outside forest₁ (by rw [kind]; decide)) forest₁ top₁ toolbar.current
    (fun outside => outside.2 (.refl c)) ran
  refine ⟨⟨c,toolbar.drawn adds guards⟩,?_⟩
  have child := (forest₁.up toolbar.current toolbar.parent).2
  have target₁ := (onward.keeping t target).current
  rw [guards.values t "id" ⟨target₁,forest₁.strict target₁ child⟩ (by decide),onward.values t "id" target (by decide)]
  have holds := List.find?_some found
  rwa [decide_eq_true_eq] at holds

-- Navigations one after the other.
theorem copyToolbars_guards (depth : Nat) (l : List NodeId) (forest : d.Forest) (top : d.Current root)
    (navs : ∀ n ∈ l, d.Current n ∧ d.tag? n = some ("nav" : Text)) (ran : l.foldlM (copyToolbar (drawUnder depth)) d = some e) :
    Guards d.Current d.Current d e := by
  refine foldlM_keeps (R := Guards d.Current d.Current d) _ (.refl (margin_all forest) forest) (fun e n e' inside guards ran => ?_) ran
  obtain ⟨current,named⟩ := navs n inside
  exact guards.trans (copyToolbar_guards (drawUnder_minds depth) guards.now guards.forest (guards.current root top)
    ((guards.tag current).trans named) ran)

-- A sidebar is drawn. When the turn of one of its navigations comes, after those in front of it, and the name that it tells
-- stood for an element before, it stands for that element or for a new one. If that element has no toolbar among its children
-- then, it has one in the end that is a copy of the navigation with all below it; if it has one, the navigation is passed over.
theorem toolbars_reach_targets (depth : Nat) (forest : d.Forest) (top : d.Current root) (there : d.Current id)
    (ran : drawSidebar (drawUnder depth) d id = some d') (whole : d.childrenByTag id "nav" = done ++ n :: rest)
    (named : d.attribute? n "toolbar-target" = some value) (found : d.elementById? value = some t₀) :
    ∃ e t, done.foldlM (copyToolbar (drawUnder depth)) d = some e ∧ e.elementById? value = some t ∧ (t = t₀ ∨ ¬ d.Current t) ∧
      (e.hasChildWithClass t toolbarMark = false → d'.attribute? t "id" = some value ∧ ∃ c ∈ d'.children t, Toolbar d d' n t c) ∧
      (e.hasChildWithClass t toolbarMark = true → copyToolbar (drawUnder depth) e n = some e) := by
  have navs : ∀ m ∈ done ++ n :: rest, d.Current m ∧ d.tag? m = some ("nav" : Text) := by
    intro m inside
    rw [← whole,mem_childrenByTag] at inside
    exact ⟨(forest.down there inside.1).1,inside.2⟩
  have forest' := (drawSidebar_adds (drawUnder_keeps depth) forest top there ran).forest
  rw [drawSidebar_eq,whole,List.foldlM_append] at ran
  obtain ⟨copied,copying,masked⟩ := Option.bind_eq_some_iff.mp ran
  obtain ⟨e,before,copying⟩ := Option.bind_eq_some_iff.mp copying
  rw [List.foldlM_cons] at copying
  obtain ⟨e₁,turn,behind⟩ := Option.bind_eq_some_iff.mp copying
  cases masked
  obtain ⟨current,tag⟩ := navs n (by simp)
  have guards := copyToolbars_guards depth done forest top (fun m inside => navs m (List.mem_append_left _ inside)) before
  obtain ⟨t,first,known⟩ := guards.elementById top found
  have named' := (guards.values n "toolbar-target" current (by decide)).trans named
  refine ⟨e,t,before,first,known,fun bare => ?_,fun marked => ?_⟩
  · have top' := guards.current root top
    obtain ⟨⟨c,toolbar⟩,still⟩ := copyToolbar_lands depth guards.forest top' (guards.current n current)
      ((guards.tag current).trans tag) named' first bare turn
    have turned := copyToolbar_guards (drawUnder_minds depth) guards.now guards.forest top' ((guards.tag current).trans tag) turn
    have before₁ := guards.trans turned
    have behind₁ := copyToolbars_guards depth rest turned.forest (turned.current root top') (fun m inside => by
      obtain ⟨there,tag⟩ := navs m (by simp [inside])
      exact ⟨before₁.current m there,(before₁.tag there).trans tag⟩) behind
    have mask := addMask_onward behind₁.forest (behind₁.current id (before₁.current id there))
    have lasting := ((toolbar.later behind₁.onward turned.forest).later mask behind₁.forest).earlier guards.onward forest current
    have target := turned.current t (elementById_current guards.forest top' first)
    refine ⟨?_,c,(forest'.up lasting.current lasting.parent).2,lasting⟩
    rw [mask.values t "id" (behind₁.current t target) (by decide),behind₁.values t "id" target (by decide),still]
  · rw [copyToolbar,named',Option.bind_some,first]
    exact if_pos marked

def menuPage : Text := "<amp-sidebar><nav toolbar-target=t><p class=x></nav><nav toolbar-target=t></amp-sidebar><p id=t>"

-- Of two navigations for one element the first comes there, with its paragraph, and the second is passed over.
theorem toolbars_reach_targets_shared : ∃ d' c k e, drawSidebar (drawUnder 1) (read menuPage) ⟨4,0⟩ = some d' ∧
    c ∈ d'.children ⟨8,0⟩ ∧ d'.hasClass c toolbarMark = true ∧ d'.Above c k ∧ d'.hasClass k "x" = true ∧
    copyToolbar (drawUnder 1) (read menuPage) ⟨5,0⟩ = some e ∧ copyToolbar (drawUnder 1) e ⟨7,0⟩ = some e := by
  have facts : (read menuPage).isCurrent root = true ∧ (read menuPage).isCurrent ⟨4,0⟩ = true ∧
      (read menuPage).childrenByTag ⟨4,0⟩ "nav" = [⟨5,0⟩,⟨7,0⟩] ∧
      (read menuPage).attribute? ⟨5,0⟩ "toolbar-target" = some ("t" : Text) ∧
      (read menuPage).attribute? ⟨7,0⟩ "toolbar-target" = some ("t" : Text) ∧
      (read menuPage).elementById? "t" = some ⟨8,0⟩ ∧ (read menuPage).hasChildWithClass ⟨8,0⟩ toolbarMark = false ∧
      (read menuPage).isCurrent ⟨6,0⟩ = true ∧ (read menuPage).parent? ⟨6,0⟩ = some ⟨5,0⟩ ∧ (read menuPage).hasClass ⟨6,0⟩ "x" = true ∧
      (drawSidebar (drawUnder 1) (read menuPage) ⟨4,0⟩).isSome = true ∧
      ((copyToolbar (drawUnder 1) (read menuPage) ⟨5,0⟩).map fun e => (e.elementById? "t").map fun t =>
        e.hasChildWithClass t toolbarMark) = some (some true) := by
    rw [show menuPage = _ from chars_of_literal rfl]
    decide +kernel
  have forest := read_forest menuPage
  generalize read menuPage = d at *
  obtain ⟨top,there,navs,first,second,found,bare,paragraph,linked,has,ends,marked⟩ := facts
  obtain ⟨d',ran⟩ := Option.isSome_iff_exists.mp ends
  rw [isCurrent_iff] at top there paragraph
  have front : d.childrenByTag ⟨4,0⟩ "nav" = [] ++ ⟨5,0⟩ :: [⟨7,0⟩] := navs
  have behind : d.childrenByTag ⟨4,0⟩ "nav" = [⟨5,0⟩] ++ ⟨7,0⟩ :: [] := navs
  obtain ⟨_,_,before,named,_,lands,_⟩ := toolbars_reach_targets 1 forest top there ran front first found
  cases before
  cases found.symm.trans named
  obtain ⟨_,c,inside,toolbar⟩ := lands bare
  obtain ⟨k,above,keeping⟩ := toolbar.whole _ paragraph (.of_parent linked (.refl _))
  obtain ⟨e,t,before,named,_,_,passes⟩ := toolbars_reach_targets 1 forest top there ran behind second found
  have turn : copyToolbar (drawUnder 1) d ⟨5,0⟩ = some e := by simpa using before
  rw [turn,Option.map_some,named] at marked
  exact ⟨d',c,k,e,ran,inside,toolbar.mark,above,keeping.classes "x" (isToken_iff.mp (by decide)) has,turn,passes (by simpa using marked)⟩

end Amp
end StyleTrim
