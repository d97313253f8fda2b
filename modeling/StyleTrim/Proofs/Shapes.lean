import StyleTrim.Dom.Printer
import StyleTrim.Proofs.Histories
namespace StyleTrim
open Text

-- What a node looks like with all below it, and that a copy of it looks the same.

-- A node with all below it, down to a depth.
inductive Shape where
  | node (payload : Option Payload) (below : List Shape)

namespace Dom
variable {d d' d₁ d₂ e e' : Dom} {a b c copy k m n : NodeId} {g h i : Nat} {l l' done rest : List NodeId} {payload p : Payload}
  {target : Option NodeId} {place : List NodeId → List NodeId} {raw : Bool}

def shape (d : Dom) : Nat → NodeId → Shape
  | 0, n => .node (d.node? n) []
  | h + 1, n => .node (d.node? n) ((d.children n).map (d.shape h))

-- Node `c` of one store looks like node `n` of another, however deep one looks.
def Mirrors (d e : Dom) (n c : NodeId) : Prop := ∀ h, e.shape h c = d.shape h n

theorem Mirrors.trans (one : Mirrors d d₁ n c) (other : Mirrors d₁ d₂ c k) : Mirrors d d₂ n k :=
  fun h => (other h).trans (one h)

theorem map_forall₂ {α : Type} {R : NodeId → NodeId → Prop} {f g : NodeId → α} (pairs : List.Forall₂ R l l')
    (same : ∀ x y, R x y → f x = g y) : l.map f = l'.map g := by
  have mapped := List.rel_map (P := Eq) same pairs
  rwa [List.forall₂_eq_eq_eq] at mapped

theorem exists_forall₂ {R : NodeId → NodeId → Prop} (pairs : List.Forall₂ R l l') (inside : m ∈ l) : ∃ k ∈ l', R m k := by
  induction pairs with
  | nil => cases inside
  | cons pair _ ih =>
    rcases List.mem_cons.mp inside with rfl | later
    · exact ⟨_,List.mem_cons_self,pair⟩
    · obtain ⟨k,inside,pair⟩ := ih later
      exact ⟨k,List.mem_cons_of_mem _ inside,pair⟩

theorem mirrors_iff : Mirrors d e n c ↔
    e.node? c = d.node? n ∧ List.Forall₂ (Mirrors d e) (d.children n) (e.children c) := by
  constructor
  · intro same
    have each : ∀ h, (e.children c).map (e.shape h) = (d.children n).map (d.shape h) :=
      fun h => (Shape.node.inj (same (h + 1))).2
    refine ⟨(Shape.node.inj (same 0)).1,List.forall₂_iff_get.mpr ⟨by simpa using (congrArg List.length (each 0)).symm,?_⟩⟩
    intro i bound bound' h
    simpa [bound,bound'] using congrArg (·[i]?) (each h)
  · rintro ⟨node,children⟩ h
    cases h with
    | zero => rw [shape,shape,node]
    | succ h => rw [shape,shape,node,← map_forall₂ children fun x y alike => (alike h).symm]

-- A node looks the same in two stores if it and all below it do.
theorem mirrors_self (forest : d.Forest) (current : d.Current b)
    (same : ∀ m, d.Current m → d.Above b m → e.node? m = d.node? m ∧ e.children m = d.children m) : Mirrors d e b b := by
  intro h
  induction h generalizing b with
  | zero => rw [shape,shape,(same b current (.refl b)).1]
  | succ h ih =>
    obtain ⟨node,children⟩ := same b current (.refl b)
    rw [shape,shape,node,children]
    congr 1
    refine List.map_congr_left fun c child => ?_
    obtain ⟨there,linked⟩ := forest.down current child
    exact ih there fun m inside below => same m inside ((Above.of_parent linked (.refl b)).trans below)

-- To each node below one of them there is one below the other, just as deep, that looks like it.
theorem Mirrors.below (alike : Mirrors d e n c) (forest : d.Forest) (forest' : e.Forest) (current : d.Current n)
    (current' : e.Current c) (there : d.Current m) (steps : d.Steps i n m) :
    ∃ k, e.Current k ∧ e.Steps i c k ∧ Mirrors d e m k := by
  induction i generalizing n c with
  | zero =>
    cases steps
    exact ⟨c,current',rfl,alike⟩
  | succ i ih =>
    obtain ⟨x,steps,linked⟩ := Steps.last.mp steps
    have inside := forest.steps there steps
    obtain ⟨y,child,alike⟩ := exists_forall₂ (mirrors_iff.mp alike).2 (forest.up inside linked).2
    obtain ⟨inside',linked'⟩ := forest'.down current' child
    obtain ⟨k,there',steps',alike⟩ := ih alike inside inside' steps
    exact ⟨k,there',Steps.last.mpr ⟨y,steps',linked'⟩,alike⟩

-- No node below this one is as far from it.
def Shallower (d : Dom) (n : NodeId) (h : Nat) : Prop := ∀ m i, d.Current m → d.Steps i n m → i < h

theorem Forest.shallower (forest : d.Forest) (n : NodeId) : d.Shallower n d.height :=
  fun _ _ there steps => Nat.lt_succ_of_lt (forest.steps_lt there steps)

theorem Shallower.child (shallow : d.Shallower n (h + 1)) (linked : d.parent? c = some n) : d.Shallower c h :=
  fun m i there steps => Nat.lt_of_succ_lt_succ (shallow m (i + 1) there (Steps.last.mpr ⟨c,steps,linked⟩))

-- Once one looks deep enough, there is nothing more below a node.
theorem below_deep (forest : d.Forest) (current : d.Current n) (shallow : d.Shallower n h) (more : Nat) :
    d.below (h + more) n = d.below h n := by
  induction h generalizing n with
  | zero => exact absurd (shallow n 0 current rfl) (Nat.lt_irrefl 0)
  | succ h ih =>
    rw [Nat.add_right_comm,below,below]
    congr 1
    refine List.flatMap_congr fun c child => ?_
    obtain ⟨there,linked⟩ := forest.down current child
    exact ih there (shallow.child linked)

-- A node as it is printed with all below it.
def markupOf (d : Dom) (raw : Bool) (n : NodeId) : Text := d.markupFrom d.height raw n

theorem Mirrors.markupFrom (alike : Mirrors d e n c) (h : Nat) (raw : Bool) :
    e.markupFrom h raw c = d.markupFrom h raw n := by
  induction h generalizing n c raw with
  | zero => rfl
  | succ h ih =>
    obtain ⟨node,children⟩ := mirrors_iff.mp alike
    have below : ∀ raw, (e.children c).flatMap (e.markupFrom h raw) = (d.children n).flatMap (d.markupFrom h raw) := by
      intro raw
      rw [List.flatMap_def,List.flatMap_def,map_forall₂ children fun x y alike => (ih alike raw).symm]
    simp only [Dom.markupFrom,node,below]

theorem markupFrom_deep (forest : d.Forest) (current : d.Current n) (shallow : d.Shallower n h) (more : Nat) (raw : Bool) :
    d.markupFrom (h + more) raw n = d.markupFrom h raw n := by
  induction h generalizing n raw with
  | zero => exact absurd (shallow n 0 current rfl) (Nat.lt_irrefl 0)
  | succ h ih =>
    have below : ∀ raw, (d.children n).flatMap (d.markupFrom (h + more) raw) = (d.children n).flatMap (d.markupFrom h raw) := by
      intro raw
      refine List.flatMap_congr fun c child => ?_
      obtain ⟨there,linked⟩ := forest.down current child
      exact ih there (shallow.child linked) raw
    rw [Nat.add_right_comm]
    simp only [Dom.markupFrom,below]

theorem Mirrors.markupOf (alike : Mirrors d e n c) (forest : d.Forest) (forest' : e.Forest) (current : d.Current n)
    (current' : e.Current c) (raw : Bool) : e.markupOf raw c = d.markupOf raw n := by
  calc e.markupFrom e.height raw c
    _ = e.markupFrom (e.height + d.height) raw c := (markupFrom_deep forest' current' (forest'.shallower c) _ raw).symm
    _ = d.markupFrom (d.height + e.height) raw n := by rw [alike.markupFrom,Nat.add_comm]
    _ = d.markupFrom d.height raw n := markupFrom_deep forest current (forest.shallower n) _ raw

theorem Forest.filter_alone (forest : d.Forest) (there : d.Current n) (top : d.parent? c = none) :
    (d.children n).filter (· ≠ c) = d.children n := forest.filter_absent there (by simp [top])

theorem Beside.mirrors (beside : Beside d e) (forest : d.Forest) (current : d.Current n) : Mirrors d e n n :=
  mirrors_self forest current fun m there _ => ⟨beside.node m there,beside.children m there⟩

-- What is below an old node was there before.
theorem Beside.steps_back (beside : Beside d e) (forest : d.Forest) (current : d.Current n) (there : e.Current m)
    (steps : e.Steps i n m) : d.Current m ∧ d.Steps i n m := by
  induction i generalizing n with
  | zero =>
    cases steps
    exact ⟨current,rfl⟩
  | succ i ih =>
    obtain ⟨c,steps,linked⟩ := Steps.last.mp steps
    have child := (beside.forest.up (beside.forest.steps there steps) linked).2
    rw [beside.children n current] at child
    obtain ⟨inside,linked⟩ := forest.down current child
    obtain ⟨old,steps⟩ := ih inside steps
    exact ⟨old,Steps.last.mpr ⟨c,steps,linked⟩⟩

theorem Beside.shallower (beside : Beside d e) (forest : d.Forest) (current : d.Current n) (shallow : d.Shallower n h) :
    e.Shallower n h := by
  intro m i there steps
  obtain ⟨old,steps⟩ := beside.steps_back forest current there steps
  exact shallow m i old steps

-- A node that stood alone comes under another one: what the latter is not below looks the same.
theorem Moved.mirrors (moved : Moved d d' (some a) c place) (forest : d.Forest) (top : d.parent? c = none) (current : d.Current b)
    (outside : ¬ d.Above b a) : Mirrors d d' b b := by
  refine mirrors_self forest current fun m there below => ⟨moved.node m,?_⟩
  have other : some a ≠ some m := by
    rintro same
    exact outside (Option.some.inj same ▸ below)
  rw [moved.children m there,if_neg other,forest.filter_alone there top]

-- What a node below a copy has of the one that it copies.
structure Counterpart (d e : Dom) (copy n c : NodeId) : Prop where
  new : ¬ d.Current c
  current : e.Current c
  parent : e.parent? c = some copy
  node : e.node? c = d.node? n

theorem Counterpart.isElement (twin : Counterpart d e copy n c) : e.isElement c = d.isElement n :=
  isElement_congr (by rw [kind?,twin.node,kind?])

-- A copy under which there are those of some nodes, in their order, and that stands alone.
structure Headed (d e : Dom) (copy : NodeId) (payload : Payload) (l : List NodeId) : Prop where
  beside : Beside d e
  new : ¬ d.Current copy
  current : e.Current copy
  top : e.parent? copy = none
  node : e.node? copy = some payload
  children : List.Forall₂ (Counterpart d e copy) l (e.children copy)

-- The copy of a child comes behind those that were put under the copy of its parent before.
theorem Headed.linked (headed : Headed d e copy payload done) (inner : Headed e e' c p l) :
    copy ≠ c ∧ Moved e' (e'.link copy c (· ++ [c])) (some copy) c (· ++ [c]) ∧ Receives e' copy c (· ++ [c]) ∧
      (e'.link copy c (· ++ [c])).children copy = e.children copy ++ [c] := by
  have apart : copy ≠ c := by
    rintro rfl
    exact inner.new headed.current
  have current := inner.beside.current copy headed.current
  have top := (inner.beside.parent copy headed.current).trans headed.top
  obtain ⟨moved,received⟩ := link_alone inner.beside.forest current top inner.current inner.top apart
  refine ⟨apart,moved,received,?_⟩
  rw [moved.children copy current,if_pos rfl,inner.beside.forest.filter_alone current inner.top,
    inner.beside.children copy headed.current]

theorem Headed.add (headed : Headed d e copy payload done) (forest : d.Forest) (there : d.Current n)
    (inner : Headed e e' c p l) (same : e.node? n = some p) :
    Headed d (e'.link copy c (· ++ [c])) copy payload (done ++ [n]) := by
  obtain ⟨apart,moved,received,children⟩ := headed.linked inner
  have current := inner.beside.current copy headed.current
  have new : ¬ d.Current c := fun old => inner.new (headed.beside.current c old)
  refine ⟨(headed.beside.trans inner.beside).moved forest moved received inner.current new headed.new,headed.new,
    (moved.current copy).mpr current,?_,?_,?_⟩
  · rw [moved.parent copy current,if_neg apart,inner.beside.parent copy headed.current,headed.top]
  · rw [moved.node,inner.beside.node copy headed.current,headed.node]
  · rw [children]
    refine List.rel_append (headed.children.imp fun x y twin => ?_) (.cons ?_ .nil)
    · have other : y ≠ c := by
        rintro rfl
        exact inner.new twin.current
      refine ⟨twin.new,(moved.current y).mpr (inner.beside.current y twin.current),?_,?_⟩
      · rw [moved.parent y (inner.beside.current y twin.current),if_neg other,inner.beside.parent y twin.current,twin.parent]
      · rw [moved.node,inner.beside.node y twin.current,twin.node]
    · refine ⟨new,(moved.current c).mpr inner.current,?_,?_⟩
      · rw [moved.parent c inner.current,if_pos rfl]
      · rw [moved.node,inner.node,← same,headed.beside.node n there]

-- A copy of which those below look like what they copy.
structure Mirrored (d e : Dom) (copy : NodeId) (payload : Payload) (l : List NodeId) : Prop extends Headed d e copy payload l where
  mirrors : List.Forall₂ (Mirrors d e) l (e.children copy)

-- They go on to do so, and so does the one that is added.
theorem Mirrored.add (headed : Mirrored d e copy payload done) (forest : d.Forest) (there : d.Current n)
    (inner : Headed e e' c p l) (same : e.node? n = some p) (alike : Mirrors e e' n c) :
    Mirrored d (e'.link copy c (· ++ [c])) copy payload (done ++ [n]) := by
  refine ⟨headed.toHeaded.add forest there inner same,?_⟩
  obtain ⟨_,moved,received,children⟩ := headed.toHeaded.linked inner
  have stays : ∀ y ∈ e.children copy, Mirrors e (e'.link copy c (· ++ [c])) y y := by
    intro y child
    have current := (headed.beside.forest.down headed.current child).1
    refine (inner.beside.mirrors headed.beside.forest current).trans ?_
    refine moved.mirrors inner.beside.forest inner.top (inner.beside.current y current) ?_
    rw [← inner.beside.children copy headed.current] at child
    exact inner.beside.forest.strict received.1 child
  rw [children]
  refine List.rel_append ?_ (.cons ?_ .nil)
  · refine List.forall₂_iff_zip.mpr ⟨headed.mirrors.length_eq,fun {x y} pair => ?_⟩
    exact (List.forall₂_zip headed.mirrors pair).trans (stays y (List.of_mem_zip pair).2)
  · refine (headed.beside.mirrors forest there).trans (alike.trans ?_)
    exact moved.mirrors inner.beside.forest inner.top inner.current received.2.1

theorem create_mirrored (forest : d.Forest) (payload : Payload) :
    Mirrored d (d.create payload).1 (d.create payload).2 payload [] := by
  have created := create_created forest payload
  refine ⟨⟨create_beside forest payload,fun old => created.fresh _ old rfl,(created.current _).mpr (.inr rfl),created.newParent,
    created.newNode,?_⟩,?_⟩
  all_goals rw [created.newChildren]; exact .nil

-- What holds of the nodes that are done with, from the first one on, holds of all in the end.
theorem foldl_done {R : Dom → List NodeId → Prop} {step : Dom → NodeId → Dom} (start : R e [])
    (each : ∀ e done n rest, l = done ++ n :: rest → R e done → R (step e n) (done ++ [n])) : R (l.foldl step e) l := by
  suffices onward : ∀ rest done e, l = done ++ rest → R e done → R (rest.foldl step e) l from onward l [] e rfl start
  intro rest
  induction rest with
  | nil =>
    intro done e whole holds
    rw [whole,List.append_nil]
    exact holds
  | cons n more ih =>
    intro done e whole holds
    exact ih (done ++ [n]) (step e n) (by rw [whole,List.append_cons]) (each e done n more whole holds)

-- A copy that goes deep enough is whole.
theorem cloneTo_headed (h : Nat) (forest : d.Forest) (there : d.Current n) (shallow : d.Shallower n h) : ∃ copy payload,
    (d.cloneTo n h).2 = some copy ∧ d.node? n = some payload ∧
    Headed d (d.cloneTo n h).1 copy payload (d.children n) ∧ Mirrors d (d.cloneTo n h).1 n copy := by
  induction h generalizing d n with
  | zero => exact absurd (shallow n 0 there rfl) (Nat.lt_irrefl 0)
  | succ h ih =>
    obtain ⟨payload,found⟩ := Option.isSome_iff_exists.mp there.node?
    have start := create_mirrored forest payload
    refine ⟨(d.create payload).2,payload,by rw [cloneTo,found],found,?_⟩
    rw [cloneTo,found]
    dsimp only
    rw [start.beside.children n there]
    generalize (d.create payload).2 = copy at start ⊢
    generalize (d.create payload).1 = e at start ⊢
    suffices filled : Mirrored d _ copy payload (d.children n) from
      ⟨filled.toHeaded,mirrors_iff.mpr ⟨by rw [filled.node,found],filled.mirrors⟩⟩
    refine foldl_done (R := fun e done => Mirrored d e copy payload done) start fun e done x rest whole headed => ?_
    have child : x ∈ d.children n := by simp [whole]
    obtain ⟨current,linked⟩ := forest.down there child
    obtain ⟨c,p,made,same,inner,alike⟩ := ih headed.beside.forest (headed.beside.current x current)
      (headed.beside.shallower forest current (shallow.child linked))
    generalize e.cloneTo x h = result at made inner alike
    obtain ⟨e',c?⟩ := result
    cases made
    exact headed.add forest current inner same alike

theorem clone_headed (forest : d.Forest) (there : d.Current n) : ∃ copy payload, (d.clone n).2 = some copy ∧
    d.node? n = some payload ∧ Headed d (d.clone n).1 copy payload (d.children n) ∧ Mirrors d (d.clone n).1 n copy :=
  cloneTo_headed d.height forest there (forest.shallower n)

end Dom
end StyleTrim
