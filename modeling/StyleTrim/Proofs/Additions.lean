import Mathlib.Logic.Relation
import StyleTrim.Proofs.Edits
namespace StyleTrim.Dom
open Text
variable {d d' d₁ d₂ : Dom} {a c m n p q s x y host : NodeId} {held : List NodeId} {name : Text} {payload : Payload}
  {place : List NodeId → List NodeId}

-- A document to which nodes were added. No node that was there is lost, changed in kind or taken out from
-- under another one; of its attributes, only those may change that the runtime marks components with.

def kind? (d : Dom) (n : NodeId) : Option NodeKind := (d.node? n).map (·.kind)

theorem tag?_congr (same : d'.kind? n = d.kind? m) : d'.tag? n = d.tag? m := by
  simp only [kind?] at same
  rw [tag?,tag?]
  cases one : d'.node? n <;> cases other : d.node? m <;> rw [one,other] at same <;> simp_all [Payload.tag?]

theorem isElement_congr (same : d'.kind? n = d.kind? m) : d'.isElement n = d.isElement m := by
  rw [isElement,isElement,tag?_congr same]

-- A section of an accordion.
def IsSection (d : Dom) (s : NodeId) : Prop :=
  ∃ a, d.Current a ∧ d.tag? a = some ("amp-accordion" : Text) ∧ s ∈ d.childrenByTag a "section"

-- A section of an accordion, its header or its content.
def IsPart (d : Dom) (n : NodeId) : Prop := ∃ s, d.IsSection s ∧ (n = s ∨ n ∈ (d.elementChildren s).take 2)

def sectionMarks : List Text := ofStrings ["expanded","role","tabindex","aria-expanded"]

def MayChange (d : Dom) (n : NodeId) (name : Text) : Prop := name = "class" ∨ name ∈ sectionMarks ∧ d.IsPart n

-- The way up, as it will be when the held nodes have been put under their host.
def Linked (d : Dom) (host : NodeId) (held : List NodeId) (x y : NodeId) : Prop :=
  d.parent? x = some y ∨ x ∈ held ∧ y = host

def Over (d : Dom) (host : NodeId) (held : List NodeId) (a n : NodeId) : Prop :=
  Relation.ReflTransGen (d.Linked host held) n a

theorem over_nil : d.Over host [] a n ↔ d.Above a n := by
  constructor
  · intro path
    induction path using Relation.ReflTransGen.head_induction_on with
    | refl => exact .refl a
    | head link _ ih =>
      rcases link with linked | ⟨inside,_⟩
      · exact .of_parent linked ih
      · cases inside
  · rintro ⟨k,steps⟩
    induction k generalizing n with
    | zero =>
      cases steps
      exact .refl
    | succ k ih =>
      obtain ⟨p,linked,more⟩ := steps
      exact .head (.inl linked) (ih more)

theorem over_lift {held' : List NodeId} {host' : NodeId} (forest : d₁.Forest) (target : held ≠ [] → d₁.Current host)
    (step : ∀ x y, d₁.Current x → d₁.Linked host held x y → d₂.Over host' held' y x) (there : d₁.Current n)
    (path : d₁.Over host held a n) : d₂.Over host' held' a n := by
  suffices reached : d₂.Over host' held' a n ∧ d₁.Current a from reached.1
  induction path with
  | refl => exact ⟨.refl,there⟩
  | tail _ link ih =>
    refine ⟨ih.1.trans (step _ _ ih.2 link),?_⟩
    rcases link with linked | ⟨inside,rfl⟩
    · exact (forest.up ih.2 linked).1
    · exact target (List.ne_nil_of_mem inside)

-- What the runtime wraps nodes into is neither an accordion nor one of its sections.
def PlainTag (tag : Option Text) : Prop := tag ≠ some ("amp-accordion" : Text) ∧ tag ≠ some ("section" : Text)

instance (tag : Option Text) : Decidable (PlainTag tag) := inferInstanceAs (Decidable (_ ∧ _))

def Plain (d : Dom) (n : NodeId) : Prop := PlainTag (d.tag? n)

-- A new node that is held for its host.
structure Loose (host : NodeId) (d d' : Dom) (x : NodeId) : Prop where
  new : ¬ d.Current x
  current : d'.Current x
  top : d'.parent? x = none
  apart : ¬ d'.Above x host
  plain : d'.Plain x

-- The held nodes are new ones that still have to be put under their host.
structure Adds (host : NodeId) (held : List NodeId) (d d' : Dom) : Prop where
  base : d.Forest
  forest : d'.Forest
  current : ∀ m, d.Current m → d'.Current m
  kind : ∀ m, d.Current m → d'.kind? m = d.kind? m
  values : ∀ m name, d.Current m → d'.attribute? m name = d.attribute? m name ∨ d.MayChange m name
  top : ∀ m, d.Current m → d.parent? m = none → d'.parent? m = none
  path : ∀ n p, d.Current n → d.parent? n = some p → d'.Over host held p n
  own : ∀ c p, d.Current c → d'.parent? c = some p → d.parent? c = some p ∨ ¬ d.Current p ∧ d'.Plain p
  order : ∀ a, d.Current a → d.tag? a = some ("section" : Text) → (d.children a).Sublist (d'.children a)
  loose : ∀ x ∈ held, Loose host d d' x
  target : held ≠ [] → d'.Current host
  single : held.Nodup

theorem Adds.refl (forest : d.Forest) (host : NodeId) : Adds host [] d d := by
  refine ⟨forest,forest,fun _ there => there,fun _ _ => rfl,fun _ _ _ => .inl rfl,fun _ _ none => none,?_,
    fun _ _ _ linked => .inl linked,fun _ _ _ => .refl _,by simp,by simp,.nil⟩
  intro n p there linked
  exact .single (.inl linked)

theorem Adds.rehost (adds : Adds host [] d d') (host' : NodeId) : Adds host' [] d d' := by
  refine ⟨adds.base,adds.forest,adds.current,adds.kind,adds.values,adds.top,?_,adds.own,adds.order,by simp,by simp,.nil⟩
  intro n p there linked
  exact over_nil.mpr (over_nil.mp (adds.path n p there linked))

theorem Adds.swap {held' : List NodeId} (adds : Adds host held d d') (same : held.Perm held') : Adds host held' d d' := by
  refine ⟨adds.base,adds.forest,adds.current,adds.kind,adds.values,adds.top,?_,adds.own,adds.order,?_,?_,
    same.nodup_iff.mp adds.single⟩
  · intro n p there linked
    refine over_lift adds.forest adds.target ?_ (adds.current n there) (adds.path n p there linked)
    rintro x y _ (real | ⟨inside,rfl⟩)
    · exact .single (.inl real)
    · exact .single (.inr ⟨same.mem_iff.mp inside,rfl⟩)
  · intro x inside
    exact adds.loose x (same.mem_iff.mpr inside)
  · intro some
    refine adds.target fun none => some ?_
    rw [none] at same
    exact List.nil_perm.mp same

theorem Adds.tag (adds : Adds host held d d') (there : d.Current m) : d'.tag? m = d.tag? m := tag?_congr (adds.kind m there)

-- A child of an accordion or of a section was one before.
theorem Adds.own_child (adds : Adds host held d d') (there : d.Current c) (linked : d'.parent? c = some p)
    (special : ¬ d'.Plain p) : d.parent? c = some p :=
  (adds.own c p there linked).resolve_right fun other => special other.2

theorem mem_childrenByTag {tag : Text} : c ∈ d.childrenByTag a tag ↔ c ∈ d.children a ∧ d.tag? c = some tag := by
  rw [childrenByTag,List.mem_filter,decide_eq_true_eq]

theorem mem_elementChildren : c ∈ d.elementChildren a ↔ c ∈ d.children a ∧ d.isElement c = true := by
  rw [elementChildren,List.mem_filter]

-- What is among the first is still among them when others are left out.
theorem mem_take_of_sublist {α : Type} {l l' : List α} {k : Nat} {x : α} (sub : l.Sublist l') (once : l'.Nodup)
    (early : x ∈ l'.take k) (inside : x ∈ l) : x ∈ l.take k := by
  induction sub generalizing k with
  | slnil => cases inside
  | cons y sub ih =>
    obtain ⟨absent,once⟩ := List.nodup_cons.mp once
    cases k with
    | zero => simp at early
    | succ k =>
      rcases List.mem_cons.mp early with rfl | later
      · exact absurd (sub.subset inside) absent
      · exact (List.take_sublist_take_left (Nat.le_succ k)).subset (ih once later inside)
  | cons_cons y sub ih =>
    obtain ⟨absent,once⟩ := List.nodup_cons.mp once
    cases k with
    | zero => simp at early
    | succ k =>
      rcases List.mem_cons.mp early with rfl | later
      · exact List.mem_cons_self
      · rcases List.mem_cons.mp inside with rfl | inside
        · exact List.mem_cons_self
        · exact List.mem_cons_of_mem y (ih once later inside)

theorem Adds.section_back (adds : Adds host held d d') (there : d.Current s) (isSection : d'.IsSection s) : d.IsSection s := by
  obtain ⟨a,current,tag,child⟩ := isSection
  obtain ⟨child,own⟩ := mem_childrenByTag.mp child
  have linked := (adds.forest.down current child).2
  have before := adds.own_child there linked fun plain => plain.1 tag
  obtain ⟨upper,child⟩ := adds.base.up there before
  refine ⟨a,upper,?_,mem_childrenByTag.mpr ⟨child,?_⟩⟩
  · rw [← adds.tag upper,tag]
  · rw [← adds.tag there,own]

theorem Adds.part_of_section (adds : Adds host held d d') (there : d.Current n) (current : d'.Current s)
    (tag : d'.tag? s = some ("section" : Text)) (isSection : d.Current s → d.IsSection s)
    (inside : n ∈ (d'.elementChildren s).take 2) : d.IsPart n := by
  have child := (mem_elementChildren.mp (List.mem_of_mem_take inside)).1
  have linked := (adds.forest.down current child).2
  have before := adds.own_child there linked fun plain => plain.2 tag
  obtain ⟨upper,child⟩ := adds.base.up there before
  refine ⟨s,isSection upper,.inr ?_⟩
  have tag' := tag
  rw [adds.tag upper] at tag'
  have same : ∀ x ∈ d.children s, d'.isElement x = d.isElement x := by
    intro x inside
    exact isElement_congr (adds.kind x (adds.base.down upper inside).1)
  have sub : (d.elementChildren s).Sublist (d'.elementChildren s) := by
    rw [elementChildren,List.filter_congr fun x inside => (same x inside).symm]
    exact (adds.order s upper tag').filter _
  refine mem_take_of_sublist sub ((adds.forest.once current).filter _) inside (mem_elementChildren.mpr ⟨child,?_⟩)
  rw [← same n child]
  exact (mem_elementChildren.mp (List.mem_of_mem_take inside)).2

theorem isSection_tag (isSection : d.IsSection s) : d.tag? s = some ("section" : Text) := by
  obtain ⟨_,_,_,child⟩ := isSection
  exact (mem_childrenByTag.mp child).2

theorem Forest.section_current (forest : d.Forest) (isSection : d.IsSection s) : d.Current s := by
  obtain ⟨_,current,_,child⟩ := isSection
  exact (forest.down current (mem_childrenByTag.mp child).1).1

theorem Adds.part_back (adds : Adds host held d d') (there : d.Current n) (part : d'.IsPart n) : d.IsPart n := by
  obtain ⟨s,isSection,rfl | inside⟩ := part
  · exact ⟨n,adds.section_back there isSection,.inl rfl⟩
  · refine adds.part_of_section there (adds.forest.section_current isSection) (isSection_tag isSection) ?_ inside
    intro before
    exact adds.section_back before isSection

theorem Adds.above (adds : Adds host [] d d') (there : d.Current n) (above : d.Above a n) : d'.Above a n := by
  have link : ∀ x y, d.Current x → d.Linked host [] x y → d'.Over host [] y x := by
    rintro x y there (linked | ⟨inside,_⟩)
    · exact adds.path x y there linked
    · cases inside
  exact over_nil.mp (over_lift adds.base (by simp) link there (over_nil.mpr above))

theorem Adds.trans (one : Adds host [] d d₁) (other : Adds host [] d₁ d₂) : Adds host [] d d₂ := by
  refine ⟨one.base,other.forest,?_,?_,?_,?_,?_,?_,?_,by simp,by simp,.nil⟩
  · intro m there
    exact other.current m (one.current m there)
  · intro m there
    rw [other.kind m (one.current m there),one.kind m there]
  · intro m name there
    rcases other.values m name (one.current m there) with same | changed
    · rw [same]
      exact one.values m name there
    · rcases changed with isClass | ⟨mark,part⟩
      · exact .inr (.inl isClass)
      · exact .inr (.inr ⟨mark,one.part_back there part⟩)
  · intro m there none
    exact other.top m (one.current m there) (one.top m there none)
  · intro n p there linked
    have between := one.path n p there linked
    exact over_nil.mpr (other.above (one.current n there) (over_nil.mp between))
  · intro c p there linked
    rcases other.own c p (one.current c there) linked with before | ⟨new,plain⟩
    · rcases one.own c p there before with first | ⟨new,plain⟩
      · exact .inl first
      · refine .inr ⟨new,?_⟩
        have upper := (one.forest.up (one.current c there) before).1
        rw [Plain,other.tag upper]
        exact plain
    · exact .inr ⟨fun old => new (one.current p old),plain⟩
  · intro a there tag
    refine (one.order a there tag).trans (other.order a (one.current a there) ?_)
    rw [one.tag there,tag]

theorem Adds.create (adds : Adds host held d d₁) (payload : Payload) : Adds host held d (d₁.create payload).1 := by
  have created := create_created adds.forest payload
  have forest := create_forest adds.forest payload
  generalize (d₁.create payload).1 = d₂ at created forest ⊢
  have still : ∀ m, d₁.Current m → d₂.Current m := fun m there => (created.current m).mpr (.inl there)
  have kind : ∀ m, d₁.Current m → d₂.kind? m = d₁.kind? m := by
    intro m there
    rw [kind?,created.node m there,kind?]
  refine ⟨adds.base,forest,?_,?_,?_,?_,?_,?_,?_,?_,?_,adds.single⟩
  · intro m there
    exact still m (adds.current m there)
  · intro m there
    rw [kind m (adds.current m there),adds.kind m there]
  · intro m name there
    rw [attribute?,created.node m (adds.current m there),← attribute?]
    exact adds.values m name there
  · intro m there none
    rw [created.parent m (adds.current m there)]
    exact adds.top m there none
  · intro n p there linked
    refine over_lift adds.forest adds.target ?_ (adds.current n there) (adds.path n p there linked)
    rintro x y there (real | pending)
    · rw [← created.parent x there] at real
      exact .single (.inl real)
    · exact .single (.inr pending)
  · intro c p there linked
    rw [created.parent c (adds.current c there)] at linked
    have upper := (adds.forest.up (adds.current c there) linked).1
    rw [Plain,tag?_congr (kind p upper)]
    exact adds.own c p there linked
  · intro a there tag
    rw [created.children a (adds.current a there)]
    exact adds.order a there tag
  · intro x inside
    obtain ⟨new,current,top,apart,plain⟩ := adds.loose x inside
    refine ⟨new,still x current,by rw [created.parent x current,top],fun above => apart ?_,?_⟩
    swap
    · rw [Plain,tag?_congr (kind x current)]
      exact plain
    refine (above_congr (P := d₁.Current) created.parent ?_ (adds.target (List.ne_nil_of_mem inside))).mp above
    intro m p there linked
    rw [created.parent m there] at linked
    exact (adds.forest.up there linked).1
  · intro some
    exact still host (adds.target some)

-- A new node that nothing is below can be held for any host.
theorem Adds.hold (adds : Adds host held d d₁) (new : ¬ d.Current x) (current : d₁.Current x) (top : d₁.parent? x = none)
    (there : d₁.Current host) (apart : ¬ d₁.Above x host) (plain : d₁.Plain x) (other : x ∉ held) :
    Adds host (x :: held) d d₁ := by
  refine ⟨adds.base,adds.forest,adds.current,adds.kind,adds.values,adds.top,?_,adds.own,adds.order,?_,fun _ => there,
    List.nodup_cons.mpr ⟨other,adds.single⟩⟩
  · intro n p there linked
    refine over_lift adds.forest adds.target ?_ (adds.current n there) (adds.path n p there linked)
    rintro x y _ (real | ⟨inside,rfl⟩)
    · exact .single (.inl real)
    · exact .single (.inr ⟨List.mem_cons_of_mem _ inside,rfl⟩)
  · intro y inside
    rcases List.mem_cons.mp inside with rfl | old
    · exact ⟨new,current,top,apart,plain⟩
    · exact adds.loose y old

theorem Adds.createHeld (adds : Adds host held d d₁) (there : d₁.Current host) (plain : PlainTag payload.tag?) :
    Adds host ((d₁.create payload).2 :: held) d (d₁.create payload).1 := by
  have created := create_created adds.forest payload
  have tag : (d₁.create payload).1.tag? (d₁.create payload).2 = payload.tag? := by
    rw [tag?,created.newNode]
    rfl
  refine (adds.create payload).hold ?_ ((created.current _).mpr (.inr rfl)) created.newParent
    ((created.current host).mpr (.inl there)) (created.apart adds.forest there) ?_ ?_
  · intro old
    exact created.fresh _ (adds.current _ old) rfl
  · rw [Plain,tag]
    exact plain
  · intro old
    exact created.fresh _ (adds.loose _ old).current rfl

-- What a move leaves of a relation: its own links are for the caller to see to.
theorem Adds.moved {rest : List NodeId} (adds : Adds host held d d₁) (moved : Moved d₁ d₂ (some p) c place)
    (current : d₁.Current c) (received : Receives d₁ p c place) (new : ¬ d.Current c ∨ ¬ d.Current p ∧ d₁.Plain p)
    (top : ∀ m, d.Current m → m = c → d₁.parent? m ≠ none)
    (steady : ∀ a, d.Current a → d.tag? a = some ("section" : Text) → d.Current c → d₁.parent? c ≠ some a)
    (link : ∀ x y, d₁.Current x → d₁.Linked host held x y → d₂.Over host rest y x) (fewer : rest.Sublist held)
    (apart : c ∉ rest) (clear : rest ≠ [] → ¬ d₁.Above c host) : Adds host rest d d₂ := by
  have forest := moved.receives adds.forest current received
  have kind : ∀ m, d₂.kind? m = d₁.kind? m := by
    intro m
    rw [kind?,moved.node m,kind?]
  refine ⟨adds.base,forest,?_,?_,?_,?_,?_,?_,?_,?_,?_,adds.single.sublist fewer⟩
  · intro m there
    exact (moved.current m).mpr (adds.current m there)
  · intro m there
    rw [kind m,adds.kind m there]
  · intro m name there
    rw [attribute?,moved.node m,← attribute?]
    exact adds.values m name there
  · intro m there none
    have before := adds.top m there none
    rw [moved.parent m (adds.current m there),if_neg,before]
    intro same
    exact top m there same before
  · intro n p there linked
    exact over_lift adds.forest adds.target link (adds.current n there) (adds.path n p there linked)
  · intro x q there linked
    rw [Plain,tag?_congr (kind q)]
    rw [moved.parent x (adds.current x there)] at linked
    split at linked
    · rename_i same
      subst same
      cases linked
      rcases new with new | plain
      · exact absurd there new
      · exact .inr plain
    · exact adds.own x q there linked
  · intro a there tag
    have before := adds.order a there tag
    have kept : (d.children a).Sublist ((d₁.children a).filter (· ≠ c)) := by
      by_cases old : d.Current c
      · rw [adds.forest.filter_absent (adds.current a there) (steady a there tag old)]
        exact before
      · have absent : (d.children a).filter (· ≠ c) = d.children a := by
          refine List.filter_eq_self.mpr fun x child => ?_
          rw [decide_eq_true_eq]
          rintro rfl
          exact old (adds.base.down there child).1
        rw [← absent]
        exact before.filter _
    rw [moved.children a (adds.current a there)]
    split
    · rename_i same
      cases same
      exact kept.trans received.2.2.sublist
    · exact kept
  · intro x inside
    obtain ⟨new,there,none,free,plain⟩ := adds.loose x (fewer.subset inside)
    have distinct : x ≠ c := by
      rintro rfl
      exact apart inside
    have under := clear (List.ne_nil_of_mem inside)
    have host' := adds.target (List.ne_nil_of_mem (fewer.subset inside))
    refine ⟨new,(moved.current x).mpr there,by rw [moved.parent x there,if_neg distinct,none],fun above => free ?_,?_⟩
    swap
    · rw [Plain,tag?_congr (kind x)]
      exact plain
    exact (moved.above adds.forest host' under).mp above
  · intro some
    have nonempty : held ≠ [] := by
      rintro rfl
      exact some (List.sublist_nil.mp fewer)
    exact (moved.current host).mpr (adds.target nonempty)

theorem Adds.settle (adds : Adds host (c :: held) d d₁) (moved : Moved d₁ d₂ (some p) c place)
    (received : Receives d₁ p c place) (goal : p = host ∨ p ∈ held) : Adds host held d d₂ := by
  obtain ⟨new,current,none,free,_⟩ := adds.loose c List.mem_cons_self
  have absent := (List.nodup_cons.mp adds.single).1
  refine adds.moved moved current received (.inl new) ?_ ?_ ?_ (List.sublist_cons_self c held) absent fun _ => free
  · rintro m old rfl
    exact absurd old new
  · intro a _ _ old
    exact absurd old new
  · rintro x y there (real | ⟨inside,rfl⟩)
    · refine .single (.inl ?_)
      rw [moved.parent x there,if_neg,real]
      rintro rfl
      rw [none] at real
      cases real
    · rcases List.mem_cons.mp inside with rfl | held
      · have drawn : d₂.parent? x = some p := by rw [moved.parent x there,if_pos rfl]
        rcases goal with rfl | held
        · exact .single (.inl drawn)
        · exact .head (.inl drawn) (.single (.inr ⟨held,rfl⟩))
      · exact .single (.inr ⟨held,rfl⟩)

theorem Adds.settleLast (adds : Adds host (c :: held) d d₁) (goal : p = host ∨ p ∈ held) :
    Adds host held d (d₁.appendChild p c) := by
  obtain ⟨_,current,_,free,_⟩ := adds.loose c List.mem_cons_self
  have absent := (List.nodup_cons.mp adds.single).1
  have parent : d₁.Current p ∧ ¬ d₁.Above c p := by
    rcases goal with rfl | held
    · exact ⟨adds.target (by simp),free⟩
    · obtain ⟨_,there,none,_,_⟩ := adds.loose p (List.mem_cons_of_mem c held)
      refine ⟨there,fun above => ?_⟩
      rcases above.cases with rfl | ⟨q,linked,_⟩
      · exact absent held
      · rw [none] at linked
        cases linked
  exact adds.settle (appendChild_moved adds.forest parent.1 current parent.2) ⟨parent.1,parent.2,inserts_last _ _⟩ goal

theorem Adds.settleFirst (adds : Adds host (c :: held) d d₁) : Adds host held d (d₁.prependChild host c) := by
  obtain ⟨_,current,_,free,_⟩ := adds.loose c List.mem_cons_self
  have there := adds.target (by simp)
  exact adds.settle (prependChild_moved adds.forest there current free) ⟨there,free,inserts_first _ _⟩ (.inl rfl)

theorem Adds.elementHeld (adds : Adds host held d d₁) (there : d₁.Current host) (tag : Text) (attributes : List Attribute)
    (plain : PlainTag (some tag)) :
    Adds host ((d₁.createElement tag attributes).2 :: held) d (d₁.createElement tag attributes).1 :=
  adds.createHeld there plain

-- A new last child.
theorem Adds.child (adds : Adds host [] d d₁) (there : d₁.Current host) (tag : Text) (attributes : List Attribute)
    (plain : PlainTag (some tag)) :
    Adds host [] d ((d₁.createElement tag attributes).1.appendChild host (d₁.createElement tag attributes).2) :=
  (adds.elementHeld there tag attributes plain).settleLast (.inl rfl)

-- What an edit leaves of all nodes but one.
structure Leaves (c : NodeId) (d d' : Dom) : Prop where
  current : ∀ m, d.Current m → d'.Current m
  parent : ∀ m, d.Current m → m ≠ c → d'.parent? m = d.parent? m

theorem Leaves.refl (c : NodeId) (d : Dom) : Leaves c d d := ⟨fun _ there => there,fun _ _ _ => rfl⟩

-- What is done to a node that was not there counts for nothing.
theorem Leaves.trans (one : Leaves c d d₁) (other : Leaves n d₁ d₂) (new : n = c ∨ ¬ d.Current n) : Leaves c d d₂ := by
  refine ⟨fun m there => other.current m (one.current m there),?_⟩
  intro m there apart
  rw [other.parent m (one.current m there),one.parent m there apart]
  rintro rfl
  rcases new with same | new
  · exact apart same
  · exact new there

theorem appendChild_leaves (forest : d.Forest) (there : d.Current p) (current : d.Current c) :
    Leaves c d (d.appendChild p c) := by
  rcases appendChild_cases forest there current with same | ⟨moved,_⟩
  · rw [same]
    exact .refl c d
  · refine ⟨fun m there => (moved.current m).mpr there,?_⟩
    intro m there apart
    rw [moved.parent m there,if_neg apart]

theorem appendChild_forest (forest : d.Forest) (there : d.Current p) (current : d.Current c) : (d.appendChild p c).Forest := by
  rcases appendChild_cases forest there current with same | ⟨moved,received⟩
  · rw [same]
    exact forest
  · exact moved.receives forest current received

theorem create_leaves (forest : d.Forest) (payload : Payload) (c : NodeId) : Leaves c d (d.create payload).1 := by
  have created := create_created forest payload
  exact ⟨fun m there => (created.current m).mpr (.inl there),fun m there _ => created.parent m there⟩

-- A child of the host moves into a held node.
theorem Adds.shift (adds : Adds host held d d₁) (into : p ∈ held) (current : d₁.Current c)
    (linked : d₁.parent? c = some host) (steady : d₁.tag? host ≠ some ("section" : Text)) :
    Adds host held d (d₁.appendChild p c) := by
  obtain ⟨new,there,_,_,plain⟩ := adds.loose p into
  rcases appendChild_cases adds.forest there current with same | ⟨moved,received⟩
  · rw [same]
    exact adds
  refine adds.moved moved current received (.inr ⟨new,plain⟩) ?_ ?_ ?_ (.refl held) ?_ ?_
  · rintro m _ rfl none
    rw [none] at linked
    cases linked
  · intro a there tag _ linked'
    cases Option.some.inj (linked.symm.trans linked')
    exact steady ((adds.tag there).trans tag)
  · rintro x y there (real | pending)
    · by_cases same : x = c
      · subst same
        cases Option.some.inj (real.symm.trans linked)
        have drawn : (d₁.appendChild p x).parent? x = some p := by rw [moved.parent x there,if_pos rfl]
        exact .head (.inl drawn) (.single (.inr ⟨into,rfl⟩))
      · refine .single (.inl ?_)
        rw [moved.parent x there,if_neg same,real]
    · exact .single (.inr pending)
  · intro inside
    rw [(adds.loose c inside).top] at linked
    cases linked
  · intro _
    exact (adds.forest.grounded current).acyclic linked

-- A new node without a parent is put somewhere.
theorem Adds.attach (adds : Adds host [] d d₁) (new : ¬ d.Current c) (current : d₁.Current c) (top : d₁.parent? c = none)
    (moved : Moved d₁ d₂ (some p) c place) (received : Receives d₁ p c place) : Adds host [] d d₂ := by
  refine adds.moved moved current received (.inl new) ?_ ?_ ?_ (.refl []) (by simp) (by simp)
  · rintro m old rfl
    exact absurd old new
  · intro a _ _ old
    exact absurd old new
  · rintro x y there (real | ⟨inside,_⟩)
    · refine .single (.inl ?_)
      rw [moved.parent x there,if_neg,real]
      rintro rfl
      rw [top] at real
      cases real
    · cases inside

theorem Adds.append (adds : Adds host [] d d₁) (new : ¬ d.Current c) (current : d₁.Current c) (top : d₁.parent? c = none)
    (there : d₁.Current p) : Adds host [] d (d₁.appendChild p c) := by
  rcases appendChild_cases adds.forest there current with same | ⟨moved,received⟩
  · rw [same]
    exact adds
  · exact adds.attach new current top moved received

theorem Adds.after (adds : Adds host [] d d₁) (new : ¬ d.Current c) (current : d₁.Current c) (top : d₁.parent? c = none)
    (there : d₁.Current n) : Adds host [] d (d₁.insertAfter n c) := by
  rcases insertAfter_cases adds.forest current there top with same | ⟨p,_,moved,received⟩
  · rw [same]
    exact adds
  · exact adds.attach new current top moved received

variable {f : List Attribute → List Attribute} {value : Text}

theorem edit_slot? (d : Dom) (n m : NodeId) (f : List Attribute → List Attribute) :
    (d.editAttributes n f).slot? m = if n.slot = m.slot then (d.slot? m).map (·.painted f) else d.slot? m :=
  update_slot? d n m _

theorem edit_current : (d.editAttributes n f).Current m ↔ d.Current m := by
  rw [editAttributes,update_current]
  exact fun s => ⟨s.painted_live f,s.painted_stamp f⟩

theorem edit_parent? (d : Dom) (n m : NodeId) (f : List Attribute → List Attribute) :
    (d.editAttributes n f).parent? m = d.parent? m := by
  rw [parent?,parent?,edit_slot?]
  split
  · cases d.slot? m with
    | none => rfl
    | some s => exact s.painted_parent f
  · rfl

theorem edit_children (d : Dom) (n m : NodeId) (f : List Attribute → List Attribute) :
    (d.editAttributes n f).children m = d.children m := by
  rw [children,children,edit_slot?]
  split
  · cases d.slot? m with
    | none => rfl
    | some s => exact s.painted_children f
  · rfl

theorem edit_kind? (d : Dom) (n m : NodeId) (f : List Attribute → List Attribute) :
    (d.editAttributes n f).kind? m = d.kind? m := by
  simp only [kind?,node?,edit_slot?]
  by_cases same : n.slot = m.slot
  · rw [if_pos same]
    cases d.slot? m with
    | none => rfl
    | some s => cases live : s.live <;> simp [Slot.painted,live]
  · rw [if_neg same]

theorem edit_attribute? (keeps : ∀ l, (f l).find? (·.name == name) = l.find? (·.name == name)) (n m : NodeId) :
    (d.editAttributes n f).attribute? m name = d.attribute? m name := by
  simp only [attribute?,node?,edit_slot?]
  by_cases same : n.slot = m.slot
  · rw [if_pos same]
    cases d.slot? m with
    | none => rfl
    | some s => cases live : s.live <;> simp [Slot.painted,live,keeps]
  · rw [if_neg same]

theorem edit_forest (forest : d.Forest) : (d.editAttributes n f).Forest := by
  refine ⟨?_,?_,?_,?_,?_,forest.single⟩
  · intro p c there child
    rw [edit_current] at there ⊢
    rw [edit_children] at child
    rw [edit_parent?]
    exact forest.down there child
  · intro c p there linked
    rw [edit_current] at there ⊢
    rw [edit_parent?] at linked
    rw [edit_children]
    exact forest.up there linked
  · intro p there
    rw [edit_current] at there
    rw [edit_children]
    exact forest.once there
  · intro m there
    rw [edit_current] at there
    exact (forest.grounded there).transfer fun x _ => edit_parent? d n x f
  · intro i inside
    have same : (d.editAttributes n f).lives? i = d.lives? i := by
      rw [editAttributes,update_lives?]
      exact fun s => s.painted_live f
    rw [same]
    exact forest.vacant i inside

theorem edit_above : (d.editAttributes n f).Above a m ↔ d.Above a m :=
  above_congr (P := fun _ => True) (fun m _ => edit_parent? d n m f) (fun _ _ _ _ => trivial) trivial

theorem Adds.edit (adds : Adds host held d d₁) (current : d₁.Current n) (ok : d.Current n → ∀ name,
    (d₁.editAttributes n f).attribute? n name = d₁.attribute? n name ∨ d.MayChange n name) :
    Adds host held d (d₁.editAttributes n f) := by
  refine ⟨adds.base,edit_forest adds.forest,?_,?_,?_,?_,?_,?_,?_,?_,?_,adds.single⟩
  · intro m there
    exact edit_current.mpr (adds.current m there)
  · intro m there
    rw [edit_kind?,adds.kind m there]
  · intro m name there
    by_cases same : m = n
    · subst same
      rcases ok there name with kept | changed
      · rw [kept]
        exact adds.values m name there
      · exact .inr changed
    · have slot := current.slot_ne (adds.current m there) (Ne.symm same)
      have kept : (d₁.editAttributes n f).attribute? m name = d₁.attribute? m name := by
        rw [attribute?,attribute?,node?,node?,edit_slot?,if_neg slot]
      rw [kept]
      exact adds.values m name there
  · intro m there none
    rw [edit_parent?]
    exact adds.top m there none
  · intro x p there linked
    refine over_lift adds.forest adds.target ?_ (adds.current x there) (adds.path x p there linked)
    rintro x y _ (real | pending)
    · rw [← edit_parent? d₁ n x f] at real
      exact .single (.inl real)
    · exact .single (.inr pending)
  · intro c p there linked
    rw [edit_parent?] at linked
    rw [Plain,tag?_congr (edit_kind? d₁ n p f)]
    exact adds.own c p there linked
  · intro a there tag
    rw [edit_children]
    exact adds.order a there tag
  · intro x inside
    obtain ⟨new,current,top,apart,plain⟩ := adds.loose x inside
    refine ⟨new,edit_current.mpr current,by rw [edit_parent?,top],fun above => apart (edit_above.mp above),?_⟩
    rw [Plain,tag?_congr (edit_kind? d₁ n x f)]
    exact plain
  · intro some
    exact edit_current.mpr (adds.target some)

theorem find_putAttribute {p : Text} (other : name ≠ p) (value : Text) (l : List Attribute) :
    (putAttribute p value l).find? (·.name == name) = l.find? (·.name == name) := by
  induction l with
  | nil => simp [putAttribute,Ne.symm other]
  | cons a more ih =>
    rw [putAttribute]
    by_cases same : a.name = p
    · simp [same,Ne.symm other]
    · simp only [beq_iff_eq,same,if_false,List.find?_cons,ih]

theorem find_filter_name {p : Text} (other : name ≠ p) (l : List Attribute) :
    (l.filter (·.name != p)).find? (·.name == name) = l.find? (·.name == name) := by
  induction l with
  | nil => rfl
  | cons a more ih =>
    by_cases same : a.name = p
    · simp [same,Ne.symm other,ih]
    · simp [same,List.find?_cons,ih]

theorem Adds.set {p : Text} (adds : Adds host held d d₁) (current : d₁.Current n) (ok : d.Current n → d.MayChange n p) (value : Text) :
    Adds host held d (d₁.setAttribute n p value) := by
  refine adds.edit current fun old name => ?_
  by_cases same : name = p
  · exact .inr (same ▸ ok old)
  · exact .inl (edit_attribute? (find_putAttribute same value) n n)

theorem Adds.unset {p : Text} (adds : Adds host held d d₁) (current : d₁.Current n) (ok : d.Current n → d.MayChange n p) :
    Adds host held d (d₁.removeAttribute n p) := by
  refine adds.edit current fun old name => ?_
  by_cases same : name = p
  · exact .inr (same ▸ ok old)
  · exact .inl (edit_attribute? (find_filter_name same) n n)

theorem Adds.addClass (adds : Adds host held d d₁) (current : d₁.Current n) (name : Text) :
    Adds host held d (d₁.addClass n name) := by
  unfold Dom.addClass
  split
  · exact adds
  · exact adds.set current (fun _ => .inl rfl) _

theorem edit_leaves (d : Dom) (n : NodeId) (f : List Attribute → List Attribute) (c : NodeId) :
    Leaves c d (d.editAttributes n f) :=
  ⟨fun _ there => edit_current.mpr there,fun m _ _ => edit_parent? d n m f⟩

theorem addClass_leaves (d : Dom) (n : NodeId) (name : Text) (c : NodeId) : Leaves c d (d.addClass n name) := by
  unfold addClass
  split
  · exact .refl c d
  · exact edit_leaves d n _ c

theorem addClass_forest (forest : d.Forest) (n : NodeId) (name : Text) : (d.addClass n name).Forest := by
  unfold addClass
  split
  · exact forest
  · exact edit_forest forest

theorem addClass_parent? (d : Dom) (n m : NodeId) (name : Text) : (d.addClass n name).parent? m = d.parent? m := by
  unfold addClass
  split
  · rfl
  · exact edit_parent? d n m _

-- Each step moves the child that it is about, or leaves it where it is.
theorem foldl_shift {R : Dom → Prop} {step : Dom → NodeId → Dom} {l : List NodeId} (start : R d)
    (each : ∀ e c, R e → e.Current c → e.parent? c = some host → R (step e c) ∧ Leaves c e (step e c))
    (once : l.Nodup) (waiting : ∀ c ∈ l, d.Current c ∧ d.parent? c = some host) : R (l.foldl step d) := by
  induction l generalizing d with
  | nil => exact start
  | cons c more ih =>
    obtain ⟨absent,once⟩ := List.nodup_cons.mp once
    obtain ⟨current,linked⟩ := waiting c List.mem_cons_self
    obtain ⟨kept,leaves⟩ := each d c start current linked
    refine ih kept once ?_
    intro x inside
    obtain ⟨there,upward⟩ := waiting x (List.mem_cons_of_mem c inside)
    refine ⟨leaves.current x there,?_⟩
    rw [leaves.parent x there,upward]
    rintro rfl
    exact absent inside

theorem Adds.waiting (adds : Adds host held d d₁) (there : d₁.Current host) :
    ∀ c ∈ d₁.children host, d₁.Current c ∧ d₁.parent? c = some host :=
  fun _ child => adds.forest.down there child

-- All children move into a held node.
theorem Adds.gather (adds : Adds host held d d₁) (into : p ∈ held) (there : d.Current host)
    (steady : d.tag? host ≠ some ("section" : Text)) :
    Adds host held d ((d₁.children host).foldl (fun e c => e.appendChild p c) d₁) := by
  have here := adds.current host there
  refine foldl_shift (R := Adds host held d) adds ?_ (adds.forest.once here) (adds.waiting here)
  intro e c adds current linked
  refine ⟨adds.shift into current linked ?_,appendChild_leaves adds.forest (adds.loose p into).current current⟩
  rw [adds.tag there]
  exact steady

end StyleTrim.Dom
