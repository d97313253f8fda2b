import StyleTrim.Proofs.Clearing
import StyleTrim.Dom.Reader
namespace StyleTrim.Dom
variable {d d' : Dom} {a c m n p q : NodeId} {i : Nat} {s : Slot} {l : List NodeId} {payload : Payload}

-- A document that was read is a forest in which no slot was ever freed.

-- A store with one more node, which is the last child of `p`.
structure Joined (d d' : Dom) (p n : NodeId) (payload : Payload) : Prop where
  forest : d'.Forest
  current : ∀ m, d'.Current m ↔ d.Current m ∨ m = n
  fresh : ∀ m, d.Current m → m ≠ n
  node : ∀ m, d.Current m → d'.node? m = d.node? m
  parent : ∀ m, d.Current m → d'.parent? m = d.parent? m
  children : ∀ m, d.Current m → d'.children m = if m = p then d.children m ++ [n] else d.children m
  newNode : d'.node? n = some payload
  newParent : d'.parent? n = some p
  newChildren : d'.children n = []
  other : ∀ m, n.slot ≠ m.slot → d'.node? m = d.node? m
  free : d'.free = d.free.tail
  slot : n.slot = d.free.head?.getD d.slots.size

theorem put_joined (forest : d.Forest) (parent : d.Current p) (payload : Payload) :
    Joined d (d.put p payload) p (d.create payload).2 payload := by
  have created := create_created forest payload
  have forest' := create_forest forest payload
  have slots := create_slot? forest payload
  rw [show d.put p payload = (d.create payload).1.appendChild p (d.create payload).2 from rfl]
  generalize (d.create payload).2 = n at created slots ⊢
  generalize (d.create payload).1 = d₁ at created forest' slots ⊢
  have old : d₁.Current p := (created.current p).mpr (.inl parent)
  have new : d₁.Current n := (created.current n).mpr (.inr rfl)
  have apart := created.apart forest parent
  have moved := appendChild_moved forest' old new apart
  have other : ∀ m, d.Current m → ∀ x ∈ d.children m, x ≠ n := by
    intro m there x child
    exact created.fresh x (forest.down there child).1
  have kept : ∀ m, d.Current m → (d₁.children m).filter (· ≠ n) = d.children m := by
    intro m there
    rw [created.children m there]
    exact List.filter_eq_self.mpr fun x child => decide_eq_true (other m there x child)
  refine ⟨moved.receives forest' new ⟨old,apart,inserts_last _ _⟩,?_,created.fresh,?_,?_,?_,?_,?_,?_,?_,?_,created.slot⟩
  · intro m
    rw [moved.current,created.current]
  · intro m there
    rw [moved.node,created.node m there]
  · intro m there
    rw [moved.parent m ((created.current m).mpr (.inl there)),if_neg (created.fresh m there),created.parent m there]
  · intro m there
    rw [moved.children m ((created.current m).mpr (.inl there)),kept m there]
    by_cases same : m = p
    · simp [same]
    · simp [same,Ne.symm same]
  · rw [moved.node,created.newNode]
  · rw [moved.parent n new,if_pos rfl]
  · rw [moved.children n new,created.newChildren]
    have distinct : p ≠ n := created.fresh p parent
    simp [distinct]
  · intro m apart
    rw [moved.node,node?,slots,if_neg apart,node?]
  · rw [moved.free,created.free]

theorem empty_slot? (m : NodeId) :
    empty.slot? m = if m.slot = 0 then some ⟨⟨.document,[]⟩,0,true,none,[]⟩ else none := by
  cases m with
  | mk slot stamp =>
    cases slot with
    | zero => rfl
    | succ slot => simp [slot?,empty]

theorem empty_current : empty.Current m ↔ m = root := by
  cases m with
  | mk slot stamp =>
    simp only [Current,empty_slot?,root,NodeId.mk.injEq]
    constructor
    · rintro ⟨s,found,_,same⟩
      split at found
      · cases found
        exact ⟨‹_›,same.symm⟩
      · cases found
    · rintro ⟨rfl,rfl⟩
      exact ⟨_,rfl,rfl,rfl⟩

theorem empty_forest : empty.Forest := by
  have upward : empty.parent? root = none := rfl
  have downward : empty.children root = [] := rfl
  refine ⟨?_,?_,?_,?_,by simp [empty],by simp [empty]⟩
  · intro p c current child
    cases empty_current.mp current
    rw [downward] at child
    cases child
  · intro c p current linked
    cases empty_current.mp current
    rw [upward] at linked
    cases linked
  · intro p current
    cases empty_current.mp current
    rw [downward]
    exact List.nodup_nil
  · intro n current
    cases empty_current.mp current
    exact .top upward

-- A store that a tree was added to. What was there stays where it is.
structure Grown (d d' : Dom) : Prop where
  forest : d'.Forest
  free : d'.free = []
  current : ∀ m, d.Current m → d'.Current m
  node : ∀ m, d.Current m → d'.node? m = d.node? m
  parent : ∀ m, d.Current m → d'.parent? m = d.parent? m

theorem Grown.refl (forest : d.Forest) (free : d.free = []) : Grown d d :=
  ⟨forest,free,fun _ there => there,fun _ _ => rfl,fun _ _ => rfl⟩

theorem Grown.trans {d'' : Dom} (first : Grown d d') (second : Grown d' d'') : Grown d d'' := by
  refine ⟨second.forest,second.free,?_,?_,?_⟩
  · intro m there
    exact second.current m (first.current m there)
  · intro m there
    rw [second.node m (first.current m there),first.node m there]
  · intro m there
    rw [second.parent m (first.current m there),first.parent m there]

theorem Joined.grown (joined : Joined d d' p n payload) (free : d.free = []) : Grown d d' := by
  refine ⟨joined.forest,?_,?_,joined.node,joined.parent⟩
  · rw [joined.free,free]
    rfl
  · intro m there
    exact (joined.current m).mpr (.inl there)

mutual
theorem plant_grown {d : Dom} {p : NodeId} (t : Html.Tree) (forest : d.Forest) (free : d.free = []) (parent : d.Current p) :
    Grown d (d.plant p t) := by
  cases t with
  | doctype name => exact (put_joined forest parent _).grown free
  | text value => exact (put_joined forest parent _).grown free
  | comment value => exact (put_joined forest parent _).grown free
  | element _ name properties contents children =>
    have joined := put_joined forest parent (.element name.tag (properties.map attributeOf))
    have opened := joined.grown free
    have new := (joined.current _).mpr (.inr rfl)
    have filled := plantAll_grown contents opened.forest opened.free new
    rw [plant]
    exact (opened.trans filled).trans (plantAll_grown children filled.forest filled.free (filled.current _ new))
theorem plantAll_grown {d : Dom} {p : NodeId} (trees : List Html.Tree) (forest : d.Forest) (free : d.free = [])
    (parent : d.Current p) : Grown d (d.plantAll p trees) := by
  cases trees with
  | nil => exact .refl forest free
  | cons t more =>
    have first := plant_grown t forest free parent
    rw [plantAll]
    exact first.trans (plantAll_grown more first.forest first.free (first.current p parent))
end

theorem read_grown (source : Text) : Grown empty (read source) :=
  plantAll_grown _ empty_forest rfl (empty_current.mpr rfl)

theorem read_forest (source : Text) : (read source).Forest := (read_grown source).forest
theorem read_free (source : Text) : (read source).free = [] := (read_grown source).free

theorem read_root (source : Text) : (read source).Current root :=
  (read_grown source).current root (empty_current.mpr rfl)

-- A store in which everything is below the document.
def Rooted (d : Dom) : Prop := ∀ m, d.Current m → d.Above root m

theorem Joined.rooted (joined : Joined d d' p n payload) (forest : d.Forest) (rooted : Rooted d) (parent : d.Current p) :
    Rooted d' := by
  have still : ∀ m, d.Current m → d'.Above root m := by
    intro m there
    refine (above_congr (P := d.Current) joined.parent ?_ there).mpr (rooted m there)
    intro x q there linked
    rw [joined.parent x there] at linked
    exact (forest.up there linked).1
  intro m there
  rcases (joined.current m).mp there with old | rfl
  · exact still m old
  · exact .of_parent joined.newParent (still p parent)

mutual
theorem plant_rooted {d : Dom} {p : NodeId} (t : Html.Tree) (forest : d.Forest) (free : d.free = []) (parent : d.Current p)
    (rooted : Rooted d) : Rooted (d.plant p t) := by
  cases t with
  | doctype name => exact (put_joined forest parent _).rooted forest rooted parent
  | text value => exact (put_joined forest parent _).rooted forest rooted parent
  | comment value => exact (put_joined forest parent _).rooted forest rooted parent
  | element _ name properties contents children =>
    have joined := put_joined forest parent (.element name.tag (properties.map attributeOf))
    have opened := joined.grown free
    have new := (joined.current _).mpr (.inr rfl)
    have filled := plantAll_grown contents opened.forest opened.free new
    rw [plant]
    apply plantAll_rooted children filled.forest filled.free (filled.current _ new)
    exact plantAll_rooted contents opened.forest opened.free new (joined.rooted forest rooted parent)
theorem plantAll_rooted {d : Dom} {p : NodeId} (trees : List Html.Tree) (forest : d.Forest) (free : d.free = [])
    (parent : d.Current p) (rooted : Rooted d) : Rooted (d.plantAll p trees) := by
  cases trees with
  | nil => exact rooted
  | cons t more =>
    have first := plant_grown t forest free parent
    rw [plantAll]
    exact plantAll_rooted more first.forest first.free (first.current p parent) (plant_rooted t forest free parent rooted)
end

-- Nothing that was read lies outside of the document.
theorem read_rooted (source : Text) : Rooted (read source) := by
  refine plantAll_rooted _ empty_forest rfl (empty_current.mpr rfl) fun m there => ?_
  rw [empty_current.mp there]
  exact .refl root

end StyleTrim.Dom
