import StyleTrim.Proofs.Planting
import StyleTrim.Proofs.Returns
import StyleTrim.Proofs.Shapes
namespace StyleTrim
open Text

-- A store of nodes as it is seen from outside, when it is printed and when it was read.

namespace Dom
variable {d d' d'' e : Dom} {p n m : NodeId} {h k : Nat} {raw : Bool} {payload : Payload} {ts us : List Figure} {ids : List NodeId}

-- What is seen from a node on, down to a depth.
def figure? (d : Dom) : Nat → NodeId → Option Figure
  | 0, _ => none
  | h + 1, id => (d.node? id).map fun p =>
    let below := (d.children id).filterMap (d.figure? h)
    match p.kind with
    | .document => .document below
    | .doctype name => .doctype name
    | .text value => .text value
    | .comment value => .comment value
    | .element tag => .element tag p.attributes below

def figures (d : Dom) : List Figure := (d.children root).filterMap (d.figure? d.height)

theorem markupAll_filterMap {f : NodeId → Option Figure} {g : NodeId → Text} (same : ∀ id, g id = ((f id).map (·.markup raw)).getD [])
    (ids : List NodeId) : Figure.markupAll raw (ids.filterMap f) = ids.flatMap g := by
  induction ids with
  | nil => rfl
  | cons id ids ih =>
    rw [List.flatMap_cons,List.filterMap_cons,same id,← ih]
    cases f id <;> rfl

theorem markupFrom_figure (d : Dom) (h : Nat) (raw : Bool) (id : NodeId) :
    d.markupFrom h raw id = ((d.figure? h id).map (·.markup raw)).getD [] := by
  induction h generalizing raw id with
  | zero => rfl
  | succ h ih =>
    have below : ∀ raw, (d.children id).flatMap (d.markupFrom h raw) =
        Figure.markupAll raw ((d.children id).filterMap (d.figure? h)) :=
      fun raw => (markupAll_filterMap (ih raw) _).symm
    rw [markupFrom,figure?]
    cases d.node? id with
    | none => rfl
    | some p =>
      obtain ⟨kind,attributes⟩ := p
      cases kind with
      | document | element => simp only [below]; rfl
      | _ => rfl

-- The markup of a document is that of what is seen of it.
theorem markup_figures (d : Dom) : d.markup = Figure.markupAll false d.figures :=
  (markupAll_filterMap (d.markupFrom_figure d.height false) _).symm

theorem figure?_deep (forest : d.Forest) (current : d.Current n) (shallow : d.Shallower n h) (more : Nat) :
    d.figure? (h + more) n = d.figure? h n := by
  induction h generalizing n with
  | zero => exact absurd (shallow n 0 current rfl) (Nat.lt_irrefl 0)
  | succ h ih =>
    have below : (d.children n).filterMap (d.figure? (h + more)) = (d.children n).filterMap (d.figure? h) := by
      refine List.filterMap_congr fun c child => ?_
      obtain ⟨there,linked⟩ := forest.down current child
      exact ih there (shallow.child linked)
    rw [Nat.add_right_comm,figure?,figure?,below]

-- A store in which the nodes that are new in `d'` are as they are there.
def Agrees (d d' e : Dom) : Prop :=
  ∀ m, d'.Current m → ¬ d.Current m → e.node? m = d'.node? m ∧ e.children m = d'.children m

-- A store to which trees were added as the last children of a node.
structure Depicts (d d' : Dom) (p : NodeId) (ts : List Figure) : Prop where
  grown : Grown d d'
  others : ∀ m, d.Current m → m ≠ p → d'.children m = d.children m
  shown : ∃ ids, d'.children p = d.children p ++ ids ∧
    ∀ e, Agrees d d' e → ∃ h, ∀ more, ids.filterMap (e.figure? (h + more)) = ts

theorem Depicts.refl (forest : d.Forest) (free : d.free = []) (p : NodeId) : Depicts d d p [] :=
  ⟨.refl forest free,fun _ _ _ => rfl,[],(List.append_nil _).symm,fun _ _ => ⟨0,fun _ => rfl⟩⟩

theorem Depicts.trans (first : Depicts d d' p ts) (second : Depicts d' d'' p us) (parent : d.Current p) : Depicts d d'' p (ts ++ us) := by
  obtain ⟨ids,children,shown⟩ := first.shown
  obtain ⟨ids',children',shown'⟩ := second.shown
  refine ⟨first.grown.trans second.grown,?_,ids ++ ids',?_,?_⟩
  · intro m there other
    rw [second.others m (first.grown.current m there) other,first.others m there other]
  · rw [children',children,List.append_assoc]
  · intro e agrees
    obtain ⟨h,early⟩ := shown e fun m there new => by
      have other : m ≠ p := fun same => new (same ▸ parent)
      obtain ⟨node,below⟩ := agrees m (second.grown.current m there) new
      exact ⟨node.trans (second.grown.node m there),below.trans (second.others m there other)⟩
    obtain ⟨k,late⟩ := shown' e fun m there new => agrees m there fun old => new (first.grown.current m old)
    refine ⟨h + k,fun more => ?_⟩
    rw [List.filterMap_append,Nat.add_assoc,early,← Nat.add_assoc,Nat.add_comm h k,Nat.add_assoc,late]

theorem Joined.others (joined : Joined d d' p n payload) (m : NodeId) (there : d.Current m) (other : m ≠ p) :
    d'.children m = d.children m := by rw [joined.children m there,if_neg other]

-- A new node, and what was then added below it.
theorem Joined.draws (joined : Joined d d' p n payload) (free : d.free = []) (parent : d.Current p) (inner : Depicts d' d'' n ts)
    {t : Figure} (whole : ∀ e : Dom, ∀ h, e.node? n = some payload → (e.children n).filterMap (e.figure? h) = ts →
      e.figure? (h + 1) n = some t) : Depicts d d'' p [t] := by
  have new : ¬ d.Current n := fun old => joined.fresh n old rfl
  have there : d'.Current n := (joined.current n).mpr (.inr rfl)
  have still : ∀ m, d.Current m → d'.Current m := fun m old => (joined.current m).mpr (.inl old)
  refine ⟨(joined.grown free).trans inner.grown,?_,[n],?_,?_⟩
  · intro m old other
    rw [inner.others m (still m old) (joined.fresh m old),joined.others m old other]
  · rw [inner.others p (still p parent) (joined.fresh p parent),joined.children p parent,if_pos rfl]
  · intro e agrees
    obtain ⟨ids,children,shown⟩ := inner.shown
    obtain ⟨node,below⟩ := agrees n (inner.grown.current n there) new
    obtain ⟨h,shows_⟩ := shown e fun m current young => agrees m current fun old => young (still m old)
    rw [inner.grown.node n there,joined.newNode] at node
    rw [children,joined.newChildren,List.nil_append] at below
    refine ⟨h + 1,fun more => ?_⟩
    have seen : e.figure? (h + 1 + more) n = some t := by
      rw [Nat.add_right_comm]
      exact whole e (h + more) node (below ▸ shows_ more)
    rw [List.filterMap_cons,seen]
    rfl

theorem put_draws (forest : d.Forest) (free : d.free = []) (parent : d.Current p) {t : Figure}
    (whole : ∀ e : Dom, ∀ h n, e.node? n = some payload → e.figure? (h + 1) n = some t) : Depicts d (d.put p payload) p [t] := by
  have joined := put_joined forest parent payload
  exact joined.draws free parent (.refl (joined.grown free).forest (joined.grown free).free _) fun e h node _ => whole e h _ node

mutual
-- What is added for a tree looks like the tree.
theorem plant_depicts {d : Dom} {p : NodeId} (t : Html.Tree) (forest : d.Forest) (free : d.free = []) (parent : d.Current p) :
    Depicts d (d.plant p t) p [t.figure] := by
  cases t with
  | doctype name => exact put_draws forest free parent fun e h n node => by rw [figure?,node]; rfl
  | text value => exact put_draws forest free parent fun e h n node => by rw [figure?,node]; rfl
  | comment value => exact put_draws forest free parent fun e h n node => by rw [figure?,node]; rfl
  | element _ name properties contents children =>
    have joined := put_joined forest parent (.element name.tag (properties.map attributeOf))
    have opened := joined.grown free
    have new := (joined.current _).mpr (.inr rfl)
    have filled := plantAll_depicts contents opened.forest opened.free new
    have more := plantAll_depicts children filled.grown.forest filled.grown.free (filled.grown.current _ new)
    rw [plant]
    refine joined.draws free parent (filled.trans more new) fun e h node below => ?_
    rw [figure?,node,below]
    rfl
theorem plantAll_depicts {d : Dom} {p : NodeId} (trees : List Html.Tree) (forest : d.Forest) (free : d.free = [])
    (parent : d.Current p) : Depicts d (d.plantAll p trees) p (Html.Tree.figures trees) := by
  cases trees with
  | nil => exact .refl forest free p
  | cons t more =>
    have first := plant_depicts t forest free parent
    rw [plantAll]
    exact first.trans (plantAll_depicts more first.grown.forest first.grown.free (first.grown.current p parent)) parent
end

-- The store of some trees looks like the trees.
theorem ofTrees_figures (trees : List Html.Tree) : (ofTrees trees).figures = Html.Tree.figures trees := by
  have draws : Depicts empty (ofTrees trees) root _ := plantAll_depicts trees empty_forest rfl (empty_current.mpr rfl)
  obtain ⟨ids,children,shown⟩ := draws.shown
  have below : (ofTrees trees).children root = ids := children
  obtain ⟨h,same⟩ := shown (ofTrees trees) fun _ _ _ => ⟨rfl,rfl⟩
  have there := draws.grown.current root (empty_current.mpr rfl)
  rw [figures,below,← same (ofTrees trees).height]
  refine List.filterMap_congr fun c child => ?_
  have current := (draws.grown.forest.down there (below ▸ child)).1
  rw [Nat.add_comm,figure?_deep draws.grown.forest current (draws.grown.forest.shallower c)]

end Dom
end StyleTrim
