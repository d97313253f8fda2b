import StyleTrim.Proofs.ClassTokens
namespace StyleTrim.Dom
open Text
variable {d d' d₁ d₂ : Dom} {a c m n p host : NodeId} {host? : Option NodeId} {payload : Payload} {place : List NodeId → List NodeId}
  {name value : Text} {New New' : Option NodeKind → Option Text → Prop} {l : List NodeId}

-- What drawing spares of a document, so that what was drawn before is still found. Nobody but the children of one
-- host leaves a parent, no node changes its kind or its layout, and classes are only added. `New` says of
-- what kind and layout the nodes are that were not there.
structure Spares (host? : Option NodeId) (New : Option NodeKind → Option Text → Prop) (d d' : Dom) : Prop where
  base : d.Forest
  forest : d'.Forest
  current : ∀ m, d.Current m → d'.Current m
  kind : ∀ m, d.Current m → d'.kind? m = d.kind? m
  layout : ∀ m, d.Current m → d'.attribute? m "layout" = d.attribute? m "layout"
  classes : ∀ m name, d.Current m → Token name → d.hasClass m name = true → d'.hasClass m name = true
  ink : ∀ m, d.Current m → d.classInk m ≤ d'.classInk m
  parent : ∀ c p, d.Current c → d.parent? c = some p → some p ≠ host? → d'.parent? c = some p
  line : ∀ h ∈ host?, d.Current h ∧ ∀ a, d'.Above a h → d.Above a h
  fresh : ∀ m, d'.Current m → ¬ d.Current m → New (d'.kind? m) (d'.attribute? m "layout")

theorem Spares.refl (forest : d.Forest) (there : ∀ h ∈ host?, d.Current h) : Spares host? New d d :=
  ⟨forest,forest,fun _ there => there,fun _ _ => rfl,fun _ _ => rfl,fun _ _ _ _ has => has,fun _ _ => Nat.le_refl _,
    fun _ _ _ linked _ => linked,
    fun h same => ⟨there h same,fun _ above => above⟩,fun _ there new => absurd there new⟩

theorem Spares.start (forest : d.Forest) (there : d.Current host) : Spares (some host) New d d :=
  .refl forest fun _ same => by cases same; exact there

theorem Spares.still (forest : d.Forest) : Spares none New d d := .refl forest nofun

theorem Spares.trans (one : Spares host? New d d₁) (other : Spares host? New d₁ d₂) : Spares host? New d d₂ := by
  refine ⟨one.base,other.forest,?_,?_,?_,?_,?_,?_,?_,?_⟩
  · intro m there
    exact other.current m (one.current m there)
  · intro m there
    rw [other.kind m (one.current m there),one.kind m there]
  · intro m there
    rw [other.layout m (one.current m there),one.layout m there]
  · intro m name there token has
    exact other.classes m name (one.current m there) token (one.classes m name there token has)
  · intro m there
    exact Nat.le_trans (one.ink m there) (other.ink m (one.current m there))
  · intro c p there linked apart
    exact other.parent c p (one.current c there) (one.parent c p there linked apart) apart
  · intro h same
    exact ⟨(one.line h same).1,fun a above => (one.line h same).2 a ((other.line h same).2 a above)⟩
  · intro m there new
    by_cases between : d₁.Current m
    · rw [other.kind m between,other.layout m between]
      exact one.fresh m between new
    · exact other.fresh m there between

theorem Spares.tag (spares : Spares host? New d d') (there : d.Current m) : d'.tag? m = d.tag? m :=
  tag?_congr (spares.kind m there)

theorem Spares.above (spares : Spares none New d d') (there : d.Current n) (above : d.Above a n) : d'.Above a n := by
  obtain ⟨k,steps⟩ := above
  induction k generalizing n with
  | zero =>
    cases steps
    exact .refl a
  | succ k ih =>
    obtain ⟨p,linked,more⟩ := steps
    exact .of_parent (spares.parent n p there linked nofun) (ih (spares.base.up there linked).1 more)

def Admits (New : Option NodeKind → Option Text → Prop) (p : Payload) : Prop :=
  New (some p.kind) ((p.attributes.find? (·.name == ("layout" : Text))).map (·.value))

theorem Spares.create (spares : Spares host? New d d₁) (payload : Payload) (new : Admits New payload) :
    Spares host? New d (d₁.create payload).1 := by
  have created := create_created spares.forest payload
  have forest := create_forest spares.forest payload
  generalize (d₁.create payload).1 = d₂ at created forest ⊢
  generalize (d₁.create payload).2 = n at created
  have kind : ∀ m, d₁.Current m → d₂.kind? m = d₁.kind? m := by
    intro m there
    rw [kind?,created.node m there,kind?]
  have attributes : ∀ m name, d₁.Current m → d₂.attribute? m name = d₁.attribute? m name := by
    intro m name there
    rw [attribute?,created.node m there,attribute?]
  refine ⟨spares.base,forest,?_,?_,?_,?_,?_,?_,?_,?_⟩
  · intro m there
    exact (created.current m).mpr (.inl (spares.current m there))
  · intro m there
    rw [kind m (spares.current m there),spares.kind m there]
  · intro m there
    rw [attributes m _ (spares.current m there),spares.layout m there]
  · intro m name there token has
    rw [hasClass_congr (attributes m _ (spares.current m there))]
    exact spares.classes m name there token has
  · intro m there
    rw [classInk_congr (attributes m _ (spares.current m there))]
    exact spares.ink m there
  · intro c p there linked apart
    rw [created.parent c (spares.current c there)]
    exact spares.parent c p there linked apart
  · intro h same
    obtain ⟨there,line⟩ := spares.line h same
    refine ⟨there,fun a above => line a ?_⟩
    refine (above_congr (P := d₁.Current) created.parent ?_ (spares.current h there)).mp above
    intro m p there linked
    rw [created.parent m there] at linked
    exact (spares.forest.up there linked).1
  · intro m there absent
    rcases (created.current m).mp there with old | rfl
    · rw [kind m old,attributes m _ old]
      exact spares.fresh m old absent
    · rw [kind?,attribute?,created.newNode]
      exact new

-- What was not there when the host was is not above it.
theorem Spares.clear (spares : Spares (some host) New d d₁) (new : ¬ d.Current c) : ¬ d₁.Above c host := by
  intro above
  obtain ⟨there,line⟩ := spares.line host rfl
  exact new (spares.base.above there (line c above))

theorem Spares.moved (spares : Spares host? New d d₁) (moved : Moved d₁ d₂ (some p) c place) (current : d₁.Current c)
    (received : Receives d₁ p c place) (own : d.Current c → d₁.parent? c = host?) : Spares host? New d d₂ := by
  have kind : ∀ m, d₂.kind? m = d₁.kind? m := fun m => by rw [kind?,moved.node m,kind?]
  have attributes : ∀ m name, d₂.attribute? m name = d₁.attribute? m name := fun m name => by
    rw [attribute?,moved.node m,attribute?]
  refine ⟨spares.base,moved.receives spares.forest current received,?_,?_,?_,?_,?_,?_,?_,?_⟩
  · intro m there
    exact (moved.current m).mpr (spares.current m there)
  · intro m there
    rw [kind m,spares.kind m there]
  · intro m there
    rw [attributes m,spares.layout m there]
  · intro m name there token has
    rw [hasClass_congr (attributes m _)]
    exact spares.classes m name there token has
  · intro m there
    rw [classInk_congr (attributes m _)]
    exact spares.ink m there
  · intro x q there linked apart
    have before := spares.parent x q there linked apart
    rw [moved.parent x (spares.current x there),if_neg,before]
    rintro rfl
    exact apart (before.symm.trans (own there))
  · intro h same
    cases same
    obtain ⟨there,line⟩ := spares.line h rfl
    have clear : ¬ d₁.Above c h := by
      by_cases old : d.Current c
      · exact (spares.forest.grounded current).acyclic (own old)
      · exact spares.clear old
    exact ⟨there,fun a above => line a ((moved.above spares.forest (spares.current h there) clear).mp above)⟩
  · intro m there absent
    rw [kind m,attributes m]
    exact spares.fresh m ((moved.current m).mp there) absent

theorem Spares.append (spares : Spares host? New d d₁) (there : d₁.Current p) (current : d₁.Current c)
    (own : d.Current c → d₁.parent? c = host?) : Spares host? New d (d₁.appendChild p c) := by
  rcases appendChild_cases spares.forest there current with same | ⟨moved,received⟩
  · rw [same]
    exact spares
  · exact spares.moved moved current received own

theorem Spares.prepend (spares : Spares host? New d d₁) (there : d₁.Current p) (current : d₁.Current c)
    (own : d.Current c → d₁.parent? c = host?) : Spares host? New d (d₁.prependChild p c) := by
  rcases prependChild_cases spares.forest there current with same | ⟨moved,received⟩
  · rw [same]
    exact spares
  · exact spares.moved moved current received own

-- A node that is put beside one without a parent stays alone.
theorem Spares.after (spares : Spares host? New d d₁) (there : d₁.Current n) (current : d₁.Current c)
    (top : d₁.parent? c = none) (own : d.Current c → d₁.parent? c = host?) : Spares host? New d (d₁.insertAfter n c) := by
  rcases insertAfter_cases spares.forest current there top with same | ⟨p,_,moved,received⟩
  · rw [same]
    exact spares
  · exact spares.moved moved current received own

variable {f : List Attribute → List Attribute}

theorem Spares.edit (spares : Spares host? New d d₁)
    (layout : ∀ l, (f l).find? (·.name == ("layout" : Text)) = l.find? (·.name == ("layout" : Text)))
    (classes : ∀ m name, d₁.Current m → Token name → d₁.hasClass m name = true →
      (d₁.editAttributes n f).hasClass m name = true)
    (ink : ∀ m, d₁.Current m → d₁.classInk m ≤ (d₁.editAttributes n f).classInk m) :
    Spares host? New d (d₁.editAttributes n f) := by
  refine ⟨spares.base,edit_forest spares.forest,?_,?_,?_,?_,?_,?_,?_,?_⟩
  · intro m there
    exact edit_current.mpr (spares.current m there)
  · intro m there
    rw [edit_kind?,spares.kind m there]
  · intro m there
    rw [edit_attribute? layout,spares.layout m there]
  · intro m name there token has
    exact classes m name (spares.current m there) token (spares.classes m name there token has)
  · intro m there
    exact Nat.le_trans (spares.ink m there) (ink m (spares.current m there))
  · intro c p there linked apart
    rw [edit_parent?]
    exact spares.parent c p there linked apart
  · intro h same
    obtain ⟨there,line⟩ := spares.line h same
    exact ⟨there,fun a above => line a (edit_above.mp above)⟩
  · intro m there absent
    rw [edit_kind?,edit_attribute? layout]
    exact spares.fresh m (edit_current.mp there) absent

-- An edit that leaves the classes as they are.
theorem Spares.editOther (spares : Spares host? New d d₁)
    (layout : ∀ l, (f l).find? (·.name == ("layout" : Text)) = l.find? (·.name == ("layout" : Text)))
    (classes : ∀ l, (f l).find? (·.name == ("class" : Text)) = l.find? (·.name == ("class" : Text))) :
    Spares host? New d (d₁.editAttributes n f) := by
  have same := fun m => edit_attribute? (d := d₁) classes n m
  refine spares.edit layout (fun m token _ _ has => ?_) fun m _ => ?_
  · rw [hasClass_congr (same m),has]
  · rw [classInk_congr (same m)]

theorem Spares.set (spares : Spares host? New d d₁) (noLayout : ("layout" : Text) ≠ name)
    (noClass : ("class" : Text) ≠ name) (value : Text) : Spares host? New d (d₁.setAttribute n name value) :=
  spares.editOther (find_putAttribute noLayout value) (find_putAttribute noClass value)

theorem Spares.unset (spares : Spares host? New d d₁) (noLayout : ("layout" : Text) ≠ name)
    (noClass : ("class" : Text) ≠ name) : Spares host? New d (d₁.removeAttribute n name) :=
  spares.editOther (find_filter_name noLayout) (find_filter_name noClass)

theorem Spares.addClass (spares : Spares host? New d d₁) (current : d₁.Current n) (name : Text) :
    Spares host? New d (d₁.addClass n name) := by
  cases has : d₁.hasClass n name with
  | true =>
    rw [Dom.addClass,if_pos has]
    exact spares
  | false =>
    have keeps : ∀ m token, d₁.Current m → Token token → d₁.hasClass m token = true →
        (d₁.addClass n name).hasClass m token = true :=
      fun m token there isToken => addClass_keeps current there isToken name
    have grows : ∀ m, d₁.Current m → d₁.classInk m ≤ (d₁.addClass n name).classInk m :=
      fun m there => addClass_ink current there name
    rw [Dom.addClass,has,if_neg Bool.false_ne_true] at keeps grows ⊢
    exact spares.edit (find_putAttribute (by decide) _) keeps grows

theorem hasChildWithClass_iff (forest : d.Forest) (there : d.Current n) : d.hasChildWithClass n name = true ↔
    ∃ c, d.Current c ∧ d.parent? c = some n ∧ d.isElement c = true ∧ d.hasClass c name = true := by
  rw [hasChildWithClass,List.any_eq_true]
  constructor
  · rintro ⟨c,inside,has⟩
    obtain ⟨child,element⟩ := mem_elementChildren.mp inside
    obtain ⟨current,linked⟩ := forest.down there child
    exact ⟨c,current,linked,element,has⟩
  · rintro ⟨c,current,linked,element,has⟩
    exact ⟨c,mem_elementChildren.mpr ⟨(forest.up current linked).2,element⟩,has⟩

theorem mem_childrenByTag_iff (forest : d.Forest) (there : d.Current n) {tag : Text} : c ∈ d.childrenByTag n tag ↔
    d.Current c ∧ d.parent? c = some n ∧ d.tag? c = some tag := by
  rw [mem_childrenByTag]
  constructor
  · rintro ⟨child,named⟩
    obtain ⟨current,linked⟩ := forest.down there child
    exact ⟨current,linked,named⟩
  · rintro ⟨current,linked,named⟩
    exact ⟨(forest.up current linked).2,named⟩

-- Only a host loses what it was marked with.
theorem Spares.hasChildWithClass (spares : Spares host? New d d') (there : d.Current n) (apart : some n ≠ host?)
    (token : Token name) (has : d.hasChildWithClass n name = true) : d'.hasChildWithClass n name = true := by
  obtain ⟨c,current,linked,element,marked⟩ := (hasChildWithClass_iff spares.base there).mp has
  refine (hasChildWithClass_iff spares.forest (spares.current n there)).mpr ⟨c,spares.current c current,?_,?_,?_⟩
  · exact spares.parent c n current linked apart
  · rw [isElement_congr (spares.kind c current),element]
  · exact spares.classes c name current token marked

theorem Spares.childrenByTag (spares : Spares host? New d d') (there : d.Current n) (apart : some n ≠ host?) {tag : Text}
    (has : d.childrenByTag n tag ≠ []) : d'.childrenByTag n tag ≠ [] := by
  obtain ⟨c,inside⟩ := List.exists_mem_of_ne_nil _ has
  obtain ⟨current,linked,named⟩ := (mem_childrenByTag_iff spares.base there).mp inside
  refine List.ne_nil_of_mem ((mem_childrenByTag_iff spares.forest (spares.current n there)).mpr ⟨spares.current c current,?_,?_⟩)
  · exact spares.parent c n current linked apart
  · rw [spares.tag current,named]

def declares (p : Payload) (name : Text) : Bool :=
  (p.attributes.find? (·.name == ("class" : Text))).any fun a => (classTokens a.value).contains name

-- A child of a host that was made for it.
structure Placed (host : NodeId) (payload : Payload) (d : Dom) (c : NodeId) : Prop where
  current : d.Current c
  parent : d.parent? c = some host
  kind : d.kind? c = some payload.kind
  classes : ∀ name, Token name → declares payload name = true → d.hasClass c name = true

theorem Placed.later (placed : Placed host payload d c) (spares : Spares none New d d') : Placed host payload d' c := by
  refine ⟨spares.current c placed.current,spares.parent c host placed.current placed.parent nofun,?_,?_⟩
  · rw [spares.kind c placed.current,placed.kind]
  · intro name token has
    exact spares.classes c name placed.current token (placed.classes name token has)

theorem Placed.tag (placed : Placed host payload d c) : d.tag? c = payload.tag? := by
  obtain ⟨node,found,same⟩ := Option.map_eq_some_iff.mp placed.kind
  rw [tag?,found,Option.bind_some,Payload.tag?,Payload.tag?,same]

theorem Placed.hasChildWithClass (placed : Placed host payload d c) (forest : d.Forest) (element : payload.tag?.isSome)
    (token : Token name) (has : declares payload name = true) : d.hasChildWithClass host name = true := by
  refine (hasChildWithClass_iff forest (forest.up placed.current placed.parent).1).mpr ⟨c,placed.current,placed.parent,?_,?_⟩
  · rw [isElement,placed.tag,element]
  · exact placed.classes name token has

theorem Placed.childrenByTag (placed : Placed host payload d c) (forest : d.Forest) {tag : Text}
    (named : payload.tag? = some tag) : d.childrenByTag host tag ≠ [] := by
  have there := (forest.up placed.current placed.parent).1
  exact List.ne_nil_of_mem ((mem_childrenByTag_iff forest there).mpr ⟨placed.current,placed.parent,placed.tag.trans named⟩)

theorem create_hasClass (forest : d.Forest) (payload : Payload) (name : Text) :
    (d.create payload).1.hasClass (d.create payload).2 name = declares payload name := by
  rw [hasClass,attribute?,(create_created forest payload).newNode,Option.bind_some,declares]
  cases payload.attributes.find? _ <;> rfl

theorem made_current (forest : d.Forest) (payload : Payload) : (d.create payload).1.Current (d.create payload).2 :=
  ((create_created forest payload).current _).mpr (.inr rfl)

theorem made_keeps (forest : d.Forest) (payload : Payload) (there : d.Current m) : (d.create payload).1.Current m :=
  ((create_created forest payload).current m).mpr (.inl there)

theorem made_absent (forest : d.Forest) (payload : Payload) : ¬ d.Current (d.create payload).2 :=
  fun old => (create_created forest payload).fresh _ old rfl

-- A node is made, filled while it stands alone, and put under its host.
theorem Spares.hung (forest : d.Forest) (there : d.Current host) (new : Admits New payload)
    (filled : Spares (some host) New (d.create payload).1 d₁)
    (moved : d₁.Forest → d₁.Current host → d₁.Current (d.create payload).2 → ¬ d₁.Above (d.create payload).2 host →
      Moved d₁ d₂ (some host) (d.create payload).2 place) (inserts : ∀ l, Inserts place (d.create payload).2 l) :
    Spares (some host) New d d₂ ∧ Placed host payload d₂ (d.create payload).2 := by
  have created := create_created forest payload
  have made : Spares (some host) New d (d.create payload).1 := (Spares.start forest there).create payload new
  have whole := made.trans filled
  have named := create_hasClass forest payload
  have absent := made_absent forest payload
  generalize (d.create payload).2 = c at created named absent moved inserts ⊢
  have before := (created.current c).mpr (.inr rfl)
  have current := filled.current c before
  have here := whole.current host there
  have clear := whole.clear absent
  have moved := moved whole.forest here current clear
  refine ⟨whole.moved moved current ⟨here,clear,inserts _⟩ fun old => absurd old absent,(moved.current c).mpr current,?_,?_,?_⟩
  · rw [moved.parent c current,if_pos rfl]
  · rw [kind?,moved.node,← kind?,filled.kind c before,kind?,created.newNode]
    rfl
  · intro name token has
    have same : d₂.hasClass c name = d₁.hasClass c name := by rw [hasClass,hasClass,attribute?,attribute?,moved.node]
    rw [same]
    exact filled.classes c name before token ((named name).trans has)

theorem Spares.hang (forest : d.Forest) (there : d.Current host) (new : Admits New payload)
    (filled : Spares (some host) New (d.create payload).1 d₁) :
    Spares (some host) New d (d₁.appendChild host (d.create payload).2) ∧
      Placed host payload (d₁.appendChild host (d.create payload).2) (d.create payload).2 :=
  Spares.hung forest there new filled appendChild_moved (inserts_last _)

theorem Spares.hangFirst (forest : d.Forest) (there : d.Current host) (new : Admits New payload)
    (filled : Spares (some host) New (d.create payload).1 d₁) :
    Spares (some host) New d (d₁.prependChild host (d.create payload).2) ∧
      Placed host payload (d₁.prependChild host (d.create payload).2) (d.create payload).2 :=
  Spares.hung forest there new filled prependChild_moved (inserts_first _)

-- The same below any other node, where nobody asks whether it hangs there.
theorem Spares.nest (spares : Spares host? New d d₁) (there : d₁.Current p) (new : Admits New payload)
    (filled : Spares host? New (d₁.create payload).1 d₂) : Spares host? New d (d₂.appendChild p (d₁.create payload).2) := by
  have whole := (spares.create payload new).trans filled
  refine whole.append ?_ (filled.current _ (made_current spares.forest payload)) fun old => ?_
  · exact filled.current p (made_keeps spares.forest payload there)
  · exact absurd (spares.current _ old) (made_absent spares.forest payload)

-- The store in which a node has just been made, before anything is done with it.
theorem Spares.opened (forest : d.Forest) (there : d.Current host) (payload : Payload) :
    Spares (some host) New (d.create payload).1 (d.create payload).1 :=
  .start (create_forest forest payload) (made_keeps forest payload there)

-- A new child that has no children itself.
theorem Spares.child (spares : Spares host? New d d₁) (there : d₁.Current p) (payload : Payload) (new : Admits New payload) :
    Spares host? New d ((d₁.create payload).1.appendChild p (d₁.create payload).2) := by
  refine spares.nest there new (.refl (create_forest spares.forest payload) fun h same => ?_)
  exact made_keeps spares.forest payload (spares.current h (spares.line h same).1)

-- A second node, made before the first one is put under the host, comes behind it.
theorem Spares.hangBoth (payload' : Payload) (forest : d.Forest) (there : d.Current host)
    (filled : Spares (some host) New (d.create payload).1 d₁) (new : Admits New payload) (new' : Admits New payload')
    (whole : ((d₁.create payload').1.appendChild host (d.create payload).2).appendChild host (d₁.create payload').2 = d₂) :
    Spares (some host) New d d₂ ∧ Placed host payload d₂ (d.create payload).2 := by
  have created := create_created filled.forest payload'
  have second := made_current filled.forest payload'
  have later := filled.create payload' new'
  have first := filled.current _ (made_current forest payload)
  obtain ⟨spares,placed⟩ := Spares.hang forest there new later
  have leaves := appendChild_leaves later.forest (later.current host (filled.line host rfl).1) (made_keeps filled.forest payload' first)
  have top := (leaves.parent _ second (Ne.symm (created.fresh _ first))).trans created.newParent
  have here := spares.current host there
  have current := leaves.current _ second
  rw [← whole]
  have beside : Spares none New _ _ := (Spares.still spares.forest).append here current fun _ => top
  refine ⟨spares.append here current fun old => ?_,placed.later beside⟩
  exact absurd (filled.current _ (made_keeps forest payload old)) (made_absent filled.forest payload')

-- All children of the host move below another node.
theorem Spares.gather (spares : Spares (some host) New d d₁) (there : d₁.Current p) :
    Spares (some host) New d ((d₁.children host).foldl (fun e c => e.appendChild p c) d₁) := by
  have here := spares.current host (spares.line host rfl).1
  have each : ∀ e c, Spares (some host) New d e ∧ e.Current p → e.Current c → e.parent? c = some host →
      (Spares (some host) New d (e.appendChild p c) ∧ (e.appendChild p c).Current p) ∧ Leaves c e (e.appendChild p c) := by
    rintro e c ⟨spares,there⟩ current linked
    exact ⟨⟨spares.append there current fun _ => linked,(appendChild_current e p c p).mpr there⟩,
      appendChild_leaves spares.forest there current⟩
  exact (foldl_shift (R := fun e => Spares (some host) New d e ∧ e.Current p) ⟨spares,there⟩ each
    (spares.forest.once here) fun c child => spares.forest.down here child).1

end StyleTrim.Dom
