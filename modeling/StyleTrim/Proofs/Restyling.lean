import StyleTrim.Proofs.Planting
namespace StyleTrim.Dom
variable {d d' : Dom} {a b c e m n p q first text : NodeId} {i h : Nat} {s : Slot} {l extra : List NodeId} {value : Text}

-- Replacing the styles: what it keeps, and the one case in which the new text is lost.

theorem Above.comparable (one : d.Above a n) (other : d.Above b n) : d.Above a b ∨ d.Above b a := by
  obtain ⟨k,steps⟩ := one
  induction k generalizing n with
  | zero =>
    cases steps
    exact .inr other
  | succ k ih =>
    obtain ⟨p,linked,more⟩ := steps
    rcases other.cases with rfl | ⟨q,upward,further⟩
    · exact .inl (.of_parent linked ⟨k,more⟩)
    · cases Option.some.inj (linked.symm.trans upward)
      exact ih further more

theorem Forest.strict (forest : d.Forest) (there : d.Current a) (child : c ∈ d.children a) : ¬ d.Above c a := by
  obtain ⟨current,linked⟩ := forest.down there child
  exact (forest.grounded current).acyclic linked

theorem Forest.siblings (forest : d.Forest) (there : d.Current a) (one : b ∈ d.children a) (other : c ∈ d.children a)
    (above : d.Above b c) : b = c := by
  rcases above.cases with same | ⟨p,linked,above⟩
  · exact same
  · cases Option.some.inj (linked.symm.trans (forest.down there other).2)
    exact absurd above (forest.strict there one)

-- A node never comes behind one that is below it.
theorem Forest.below_order (forest : d.Forest) (current : d.Current a) :
    (d.below h a).Pairwise fun x y => ¬ d.Above y x := by
  induction h generalizing a with
  | zero => exact .nil
  | succ h ih =>
    have under : ∀ c ∈ d.children a, ∀ x ∈ d.below h c, d.Above c x := by
      intro c child x inside
      obtain ⟨_,k,_,steps⟩ := (forest.mem_below (forest.down current child).1).mp inside
      exact ⟨k,steps⟩
    rw [below,List.pairwise_cons,List.pairwise_flatMap]
    refine ⟨?_,?_,?_⟩
    · intro y inside above
      obtain ⟨c,child,deeper⟩ := List.mem_flatMap.mp inside
      exact forest.strict current child ((under c child y deeper).trans above)
    · intro c child
      exact ih (forest.down current child).1
    · refine (forest.once current).imp_of_mem ?_
      intro c c' child child' apart x inside y inside' above
      have upper := (under c' child' y inside').trans above
      rcases (under c child x inside).comparable upper with path | path
      · exact apart (forest.siblings current child child' path)
      · exact apart (forest.siblings current child' child path).symm

theorem Forest.customStyles_order (forest : d.Forest) (there : d.Current root) :
    d.customStyles.Pairwise fun x y => ¬ d.Above y x :=
  (((forest.below_order there).filter _).filter _).filter _

-- An author's style element. Only the payload of a node counts.
def IsStyle (d : Dom) (n : NodeId) : Prop :=
  d.tag? n = some ("style" : Text) ∧ (!d.hasAttribute n "amp-boilerplate" && !d.hasAttribute n "amp-keyframes") = true

theorem IsStyle.congr (same : d'.node? n = d.node? n) : d'.IsStyle n ↔ d.IsStyle n := by
  simp only [IsStyle,tag?,hasAttribute,attribute?,same]

theorem Forest.mem_customStyles (forest : d.Forest) (there : d.Current root) :
    n ∈ d.customStyles ↔ (d.Current n ∧ d.Above root n) ∧ d.IsStyle n := by
  have inside := forest.mem_descendants (n := n) there
  simp only [customStyles,elementsByTag,elements,elementsUnder,List.mem_filter,inside,isElement,decide_eq_true_eq]
  constructor
  · rintro ⟨⟨⟨below,_⟩,tag⟩,plain⟩
    exact ⟨below,tag,plain⟩
  · rintro ⟨below,tag,plain⟩
    exact ⟨⟨⟨below,by rw [tag]; rfl⟩,tag⟩,plain⟩

theorem Forest.customStyles_nodup (forest : d.Forest) (there : d.Current root) : d.customStyles.Nodup := by
  refine (forest.customStyles_order there).imp ?_
  rintro x y later rfl
  exact later (.refl x)

-- A store in which nodes have gone and none has come.
structure Fading (d d' : Dom) : Prop where
  fades : ∀ m, (d'.node? m).isSome → (d.node? m).isSome
  stays : ∀ m, d.Current m → (d'.node? m).isSome → d'.Current m

theorem removeSubtree_fading (d : Dom) (n : NodeId) : Fading d (d.removeSubtree n) := by
  have slots : ∀ m, (d.removeSubtree n).slot? m = _ := freeAll_slot? ((d.detach n).descendants n)
  have live : ∀ m, ((d.removeSubtree n).node? m).isSome → ((d.detach n).node? m).isSome ∧
      (d.removeSubtree n).slot? m = (d.detach n).slot? m := by
    intro m here
    rw [node?,slots] at here
    rw [slots,node?]
    cases found : (d.detach n).slot? m with
    | none => simp [found] at here
    | some s =>
      rw [found] at here
      by_cases freed : m.slot ∈ ((d.detach n).descendants n).map (·.slot)
      · simp [freed] at here
      · simp only [Option.map_some,freed,if_false] at here ⊢
        simpa using here
  constructor
  · intro m here
    rw [← detach_node? d n]
    exact (live m here).1
  · intro m there here
    rw [← detach_current n] at there
    rw [Current,(live m here).2]
    exact there

-- A name tells its node or none, as it did before.
theorem Fading.told (fading : Fading d d') (told : d.Current m ∨ d.node? m = none) : d'.Current m ∨ d'.node? m = none := by
  by_cases here : (d'.node? m).isSome
  · refine .inl (fading.stays m (told.resolve_right fun none => ?_) here)
    have before := fading.fades m here
    rw [none] at before
    cases before
  · exact .inr (Option.not_isSome_iff_eq_none.mp here)

-- A store without the nodes of a list and all below them.
structure Cleared (d d' : Dom) (l : List NodeId) : Prop where
  forest : d'.Forest
  fading : Fading d d'
  current : ∀ m, d'.Current m ↔ d.Current m ∧ ∀ c ∈ l, ¬ d.Above c m
  node : ∀ m, d'.Current m → d'.node? m = d.node? m
  parent : ∀ m, d'.Current m → d'.parent? m = d.parent? m
  children : ∀ m, d'.Current m → d'.children m = (d.children m).filter (· ∉ l)
  free : ∃ more, d'.free = d.free ++ more

theorem Cleared.nil (forest : d.Forest) : Cleared d d [] := by
  refine ⟨forest,⟨fun _ here => here,fun _ there _ => there⟩,?_,fun _ _ => rfl,fun _ _ => rfl,?_,[],by simp⟩
  · simp
  · simp

-- The nodes that are left are below the same nodes as before.
theorem above_kept (forest : d'.Forest) (parent : ∀ m, d'.Current m → d'.parent? m = d.parent? m) (there : d'.Current m) :
    d'.Above a m ↔ d.Above a m :=
  above_congr parent (fun _ _ here linked => (forest.up here linked).1) there

theorem Removed.cleared (removed : Removed d d' n) (fading : Fading d d') : Cleared d d' [n] := by
  refine ⟨removed.forest,fading,?_,removed.node,removed.parent,?_,?_⟩
  · intro m
    rw [removed.current]
    simp
  · intro m there
    rw [removed.children m there]
    simp
  · obtain ⟨more,freed⟩ := removed.free
    exact ⟨_,freed⟩

theorem Cleared.append {d'' : Dom} {l' : List NodeId} (one : Cleared d d' l) (other : Cleared d' d'' l') :
    Cleared d d'' (l ++ l') := by
  have still : ∀ m, d''.Current m → d'.Current m := fun m there => ((other.current m).mp there).1
  refine ⟨other.forest,⟨?_,?_⟩,?_,?_,?_,?_,?_⟩
  · intro m here
    exact one.fading.fades m (other.fading.fades m here)
  · intro m there here
    exact other.fading.stays m (one.fading.stays m there (other.fading.fades m here)) here
  · intro m
    rw [other.current]
    constructor
    · rintro ⟨there,apart⟩
      refine ⟨((one.current m).mp there).1,?_⟩
      intro c inside above
      rcases List.mem_append.mp inside with first | later
      · exact ((one.current m).mp there).2 c first above
      · exact apart c later ((above_kept one.forest one.parent there).mpr above)
    · rintro ⟨there,apart⟩
      have left := (one.current m).mpr ⟨there,fun c inside => apart c (List.mem_append_left l' inside)⟩
      refine ⟨left,?_⟩
      intro c inside above
      exact apart c (List.mem_append_right l inside) ((above_kept one.forest one.parent left).mp above)
  · intro m there
    rw [other.node m there,one.node m (still m there)]
  · intro m there
    rw [other.parent m there,one.parent m (still m there)]
  · intro m there
    rw [other.children m there,one.children m (still m there),List.filter_filter]
    refine List.filter_congr fun x _ => ?_
    simp [Bool.and_comm]
  · obtain ⟨more,freed⟩ := one.free
    obtain ⟨rest,later⟩ := other.free
    exact ⟨more ++ rest,by rw [later,freed,List.append_assoc]⟩

theorem remove_cleared (forest : d.Forest) (told : d.Current n ∨ d.node? n = none) : Cleared d (d.remove n) [n] := by
  rcases told with current | none
  · rw [remove,if_pos current.node?]
    exact (removeSubtree_removed forest current).cleared (removeSubtree_fading d n)
  · rw [remove,none,if_neg (by simp)]
    have absent : ∀ m, d.Current m → ¬ d.Above n m := by
      intro m there above
      have here := (forest.above there above).node?
      rw [none] at here
      cases here
    refine ⟨forest,⟨fun _ here => here,fun _ there _ => there⟩,?_,fun _ _ => rfl,fun _ _ => rfl,?_,[],by simp⟩
    · intro m
      simpa using absent m
    · intro m there
      refine (List.filter_eq_self.mpr fun x child => ?_).symm
      have here := (forest.down there child).1.node?
      rw [decide_eq_true_eq,List.mem_singleton]
      rintro rfl
      rw [none] at here
      cases here

theorem removeAll_cleared (l : List NodeId) (forest : d.Forest) (told : ∀ c ∈ l, d.Current c ∨ d.node? c = none) :
    Cleared d (l.foldl remove d) l := by
  induction l generalizing d with
  | nil => exact .nil forest
  | cons n more ih =>
    have cleared := remove_cleared forest (told n List.mem_cons_self)
    exact cleared.append (ih cleared.forest fun c inside => cleared.fading.told (told c (List.mem_cons_of_mem n inside)))

-- Nodes of which none is below another are all there when their turn comes.
theorem removeSubtrees_eq (l : List NodeId) (forest : d.Forest) (current : ∀ c ∈ l, d.Current c)
    (apart : l.Pairwise fun x y => ¬ d.Above x y) : l.foldl removeSubtree d = l.foldl remove d := by
  induction l generalizing d with
  | nil => rfl
  | cons n more ih =>
    obtain ⟨first,later⟩ := List.pairwise_cons.mp apart
    have here := current n List.mem_cons_self
    have same : d.remove n = d.removeSubtree n := by rw [remove,if_pos here.node?]
    have removed := removeSubtree_removed forest here
    have left : ∀ c ∈ more, (d.removeSubtree n).Current c := by
      intro c inside
      exact (removed.current c).mpr ⟨current c (List.mem_cons_of_mem n inside),first c inside⟩
    rw [List.foldl_cons,List.foldl_cons,same]
    refine ih removed.forest left (later.imp_of_mem ?_)
    intro x y inside inside' apart above
    exact apart ((above_kept removed.forest removed.parent (left y inside')).mp above)

-- A store in which the children of `n` have made way for one text.
structure Texted (d d' : Dom) (n text : NodeId) (value : Text) : Prop where
  forest : d'.Forest
  current : ∀ m, d'.Current m ↔ (d.Current m ∧ ∀ c ∈ d.children n, ¬ d.Above c m) ∨ m = text
  node : ∀ m, d'.Current m → m ≠ text → d'.node? m = d.node? m
  parent : ∀ m, d'.Current m → m ≠ text → d'.parent? m = d.parent? m
  children : ∀ m, d'.Current m → m ≠ text → d'.children m = if m = n then [text] else d.children m
  fresh : ∀ m, d.Current m → (∀ c ∈ d.children n, ¬ d.Above c m) → m ≠ text
  newNode : d'.node? text = some (.text value)
  newParent : d'.parent? text = some n
  newChildren : d'.children text = []
  gone : ∀ m, d.Current m → m.slot ≠ text.slot → d'.Current m ∨ d'.node? m = none
  slot : ∀ c, d.Current c → (c.slot = text.slot ↔ (d.children n).head? = some c)

theorem Forest.removeChildren (forest : d.Forest) (there : d.Current n) :
    (d.children n).foldl removeSubtree d = (d.children n).foldl remove d := by
  refine removeSubtrees_eq _ forest (fun c child => (forest.down there child).1) ((forest.once there).imp_of_mem ?_)
  intro x y child child' apart above
  exact apart (forest.siblings there child child' above)

theorem cleared_children (forest : d.Forest) (there : d.Current n) :
    Cleared d ((d.children n).foldl removeSubtree d) (d.children n) := by
  rw [forest.removeChildren there]
  exact removeAll_cleared _ forest fun c child => .inl (forest.down there child).1

-- What was given out for a slot last.
def stamp? (d : Dom) (n : NodeId) : Option Nat := (d.slot? n).map (·.stamp)

theorem detach_stamp? (d : Dom) (c m : NodeId) : (d.detach c).stamp? m = d.stamp? m := by
  unfold detach
  split
  · rfl
  · simp only [stamp?,update_slot?]
    cases d.slot? m <;> split <;> split <;> rfl

theorem removeSubtree_stamp? (d : Dom) (c m : NodeId) : (d.removeSubtree c).stamp? m = d.stamp? m := by
  rw [← detach_stamp? d c,stamp?,stamp?,removeSubtree,freeAll_slot?,Option.map_map]
  congr 1
  funext s
  simp only [Function.comp_apply]
  split <;> rfl

theorem removeAll_stamp? (l : List NodeId) (d : Dom) (m : NodeId) : (l.foldl removeSubtree d).stamp? m = d.stamp? m := by
  induction l generalizing d with
  | nil => rfl
  | cons c more ih => rw [List.foldl_cons,ih,removeSubtree_stamp?]

-- No name is given out twice.
theorem create_unused (d : Dom) (payload : Payload) : d.stamp? (d.create payload).2 ≠ some (d.create payload).2.stamp := by
  unfold create
  split
  · rename_i slot free _
    simp only [stamp?,slot?]
    cases d.slots[slot]? with
    | none => simp
    | some s => simp
  · simp [stamp?,slot?]

-- The place of the first child is the first to be given out again.
theorem cleared_free (forest : d.Forest) (free : d.free = []) (there : d.Current n) :
    ((d.children n).foldl removeSubtree d).free.head? = (d.children n).head?.map (·.slot) := by
  have told : ∀ c ∈ d.children n, d.Current c := fun c child => (forest.down there child).1
  rw [forest.removeChildren there]
  generalize d.children n = l at told
  cases l with
  | nil => rw [List.foldl_nil,free]; rfl
  | cons c more =>
    have current := told c List.mem_cons_self
    have cleared := remove_cleared forest (.inl current)
    obtain ⟨rest,freed⟩ := (removeSubtree_removed forest current).free
    have told' : ∀ x ∈ more, (d.remove c).Current x ∨ (d.remove c).node? x = none :=
      fun x inside => cleared.fading.told (.inl (told x (List.mem_cons_of_mem c inside)))
    obtain ⟨later,added⟩ := (removeAll_cleared more cleared.forest told').free
    rw [List.foldl_cons,added,remove,if_pos current.node?,freed,free]
    rfl

-- A store in which the children of `n`, with all below them, have made way for one text.
structure Retold (d d' : Dom) (n text : NodeId) (value : Text) : Prop where
  forest : d'.Forest
  fresh : ¬ d.Current text
  current : ∀ m, d'.Current m ↔ (d.Current m ∧ ∀ c ∈ d.children n, ¬ d.Above c m) ∨ m = text
  node : ∀ m, d'.Current m → m ≠ text → d'.node? m = d.node? m
  parent : ∀ m, d'.Current m → m ≠ text → d'.parent? m = d.parent? m
  children : ∀ m, d'.Current m → m ≠ text → d'.children m = if m = n then [text] else d.children m
  newNode : d'.node? text = some (.text value)
  newParent : d'.parent? text = some n
  newChildren : d'.children text = []

theorem setText_retold (forest : d.Forest) (there : d.Current n) (value : Text) :
    Retold d (d.setText n value) n (((d.children n).foldl removeSubtree d).create (.text value)).2 value := by
  have cleared := cleared_children forest there
  have stamps := removeAll_stamp? (d.children n) d
  rw [show d.setText n value = ((d.children n).foldl removeSubtree d).put n (.text value) from rfl]
  generalize (d.children n).foldl removeSubtree d = d₁ at cleared stamps ⊢
  have left : d₁.Current n := (cleared.current n).mpr ⟨there,fun c child => forest.strict there child⟩
  have joined := put_joined cleared.forest left (.text value)
  have unused := create_unused d₁ (.text value)
  generalize (d₁.create (.text value)).2 = text at joined unused ⊢
  generalize d₁.put n (.text value) = d' at joined ⊢
  have still : ∀ m, d'.Current m → m ≠ text → d₁.Current m := by
    intro m here other
    exact ((joined.current m).mp here).resolve_right other
  refine ⟨joined.forest,?_,?_,?_,?_,?_,joined.newNode,joined.newParent,joined.newChildren⟩
  · intro old
    obtain ⟨s,found,_,stamp⟩ := old
    apply unused
    rw [stamps,stamp?,found,Option.map_some,stamp]
  · intro m
    rw [joined.current,cleared.current]
  · intro m here other
    rw [joined.node m (still m here other),cleared.node m (still m here other)]
  · intro m here other
    rw [joined.parent m (still m here other),cleared.parent m (still m here other)]
  · intro m here other
    have here := still m here other
    rw [joined.children m here,cleared.children m here]
    split
    · rename_i same
      subst same
      simp
    · rename_i same
      refine List.filter_eq_self.mpr fun x child => ?_
      rw [decide_eq_true_eq]
      intro child'
      have one := (forest.down ((cleared.current m).mp here).1 child).2
      exact same (Option.some.inj (one.symm.trans (forest.down there child').2))

theorem setText_texted (forest : d.Forest) (free : d.free = []) (there : d.Current n) (value : Text) :
    ∃ text, Texted d (d.setText n value) n text value := by
  have retold := setText_retold forest there value
  have cleared := cleared_children forest there
  have freed := cleared_free forest free there
  rw [show d.setText n value = ((d.children n).foldl removeSubtree d).put n (.text value) from rfl] at retold ⊢
  generalize (d.children n).foldl removeSubtree d = d₁ at retold cleared freed ⊢
  have left : d₁.Current n := (cleared.current n).mpr ⟨there,fun c child => forest.strict there child⟩
  have joined := put_joined cleared.forest left (.text value)
  generalize (d₁.create (.text value)).2 = text at retold joined ⊢
  generalize d₁.put n (.text value) = d' at retold joined ⊢
  refine ⟨text,retold.forest,retold.current,retold.node,retold.parent,retold.children,?_,retold.newNode,retold.newParent,
    retold.newChildren,?_,?_⟩
  · intro m old _ same
    exact retold.fresh (same ▸ old)
  · intro m old other
    rw [joined.other m (Ne.symm other)]
    by_cases here : (d₁.node? m).isSome
    · exact .inl ((joined.current m).mpr (.inl (cleared.fading.stays m old here)))
    · exact .inr (Option.not_isSome_iff_eq_none.mp here)
  · intro c old
    have slot := joined.slot
    rw [freed] at slot
    cases listed : d.children n with
    | nil =>
      rw [listed] at slot cleared
      have here := ((cleared.current c).mpr ⟨old,by simp⟩).lt
      rw [slot]
      simpa using Nat.ne_of_lt here
    | cons c' more =>
      rw [listed] at slot
      have first : d.Current c' := (forest.down there (by simp [listed])).1
      rw [slot]
      simp only [List.head?_cons,Option.map_some,Option.getD_some,Option.some.injEq]
      constructor
      · intro same
        exact first.same old same.symm
      · rintro rfl
        rfl

-- Nothing is below the text, and above every other node is what was there before.
theorem Texted.above (texted : Texted d d' n text value) (there : d'.Current m) (other : m ≠ text) :
    d'.Above a m ↔ d.Above a m := by
  refine above_congr (P := fun m => d'.Current m ∧ m ≠ text) (fun m holds => texted.parent m holds.1 holds.2) ?_ ⟨there,other⟩
  rintro m p ⟨there,_⟩ linked
  obtain ⟨upper,child⟩ := texted.forest.up there linked
  refine ⟨upper,?_⟩
  rintro rfl
  rw [texted.newChildren] at child
  cases child

theorem Texted.under (texted : Texted d d' n text value) (there : d'.Current m) (other : m ≠ text) : ¬ d'.Above text m := by
  rintro ⟨k,steps⟩
  cases k with
  | zero => exact other steps.symm
  | succ k =>
    obtain ⟨c,steps,linked⟩ := Steps.last.mp steps
    have child := (texted.forest.up (texted.forest.steps there steps) linked).2
    rw [texted.newChildren] at child
    cases child

-- What a name stands for when the text may have taken its place.
def renamed (text e : NodeId) : NodeId := if e.slot = text.slot then text else e

theorem remove_slot (same : m.slot = n.slot) : d.remove m = d.remove n := by
  have node : ∀ d : Dom, d.node? m = d.node? n := by
    intro d
    rw [node?,node?,slot?,slot?,same]
  have detached : d.detach m = d.detach n := by
    rw [detach,detach,parent?,parent?,slot?,slot?]
    simp only [update,same]
  have freed : ∀ d : Dom, d.freeSlot m = d.freeSlot n := by
    intro d
    rw [freeSlot,freeSlot,node,update,update,same]
  have below : ∀ d : Dom, (d.descendants m).foldl freeSlot d = (d.descendants n).foldl freeSlot d := by
    intro d
    rw [descendants,descendants,height,Dom.below,Dom.below,List.foldl_cons,List.foldl_cons,freed,children,children,
      slot?,slot?,same]
  rw [remove,remove,node,removeSubtree,removeSubtree,detached,below]

theorem renamed_remove (text : NodeId) (extra : List NodeId) (d : Dom) :
    extra.foldl remove d = (extra.map (renamed text)).foldl remove d := by
  rw [List.foldl_map]
  congr 1
  funext d e
  refine remove_slot ?_
  unfold renamed
  split
  · assumption
  · rfl

-- What replacing the styles of a document leaves: its first style with the text, and all that was in no style.
structure Restyled (d d' : Dom) (first : NodeId) (extra : List NodeId) (text : Text) : Prop where
  styles : d'.customStyles = [first]
  text : d'.customStyleText = text
  place : d'.node? first = d.node? first ∧ d'.parent? first = d.parent? first
  kept : ∀ n ∈ d.descendants root, (∀ s ∈ first :: extra, s ∉ d.ancestors n) →
    n ∈ d'.descendants root ∧ d'.node? n = d.node? n ∧ d'.parent? n = d.parent? n ∧
      d'.children n = (d.children n).filter (· ∉ extra)

-- The steps of a replacement: the text is put into the first style, then the other styles go.
structure Replacing (d d₁ d₂ : Dom) (first text : NodeId) (extra : List NodeId) (css : Text) : Prop where
  forest : d.Forest
  there : d.Current root
  listed : d.customStyles = first :: extra
  texted : Texted d d₁ first text css
  cleared : Cleared d₁ d₂ (extra.map (renamed text))

namespace Replacing
variable {d₁ d₂ : Dom} {css : Text}

theorem isStyle (r : Replacing d d₁ d₂ first text extra css) (inside : e ∈ first :: extra) :
    (d.Current e ∧ d.Above root e) ∧ d.IsStyle e := by
  rw [← r.listed] at inside
  exact (r.forest.mem_customStyles r.there).mp inside

-- A node in none of the styles is there after the text was put, and none of the removed ones is above it.
theorem remains (r : Replacing d d₁ d₂ first text extra css) (current : d.Current n)
    (apart : n = first ∨ ¬ d.Above first n) (free : ∀ e ∈ extra, ¬ d.Above e n) :
    d₂.Current n ∧ d₁.Current n ∧ n ≠ text := by
  have outer : ∀ c ∈ d.children first, ¬ d.Above c n := by
    intro c child above
    have there := (r.isStyle List.mem_cons_self).1.1
    rcases apart with rfl | apart
    · exact r.forest.strict there child above
    · exact apart ((Above.of_parent (r.forest.down there child).2 (.refl first)).trans above)
  have left : d₁.Current n := (r.texted.current n).mpr (.inl ⟨current,outer⟩)
  have other := r.texted.fresh n current outer
  refine ⟨(r.cleared.current n).mpr ⟨left,?_⟩,left,other⟩
  intro e inside above
  obtain ⟨e,listed,rfl⟩ := List.mem_map.mp inside
  unfold renamed at above
  split at above
  · exact r.texted.under left other above
  · exact free e listed ((r.texted.above left other).mp above)

theorem first_remains (r : Replacing d d₁ d₂ first text extra css) : d₂.Current first ∧ d₁.Current first ∧ first ≠ text := by
  have order := r.forest.customStyles_order r.there
  rw [r.listed,List.pairwise_cons] at order
  exact r.remains (r.isStyle List.mem_cons_self).1.1 (.inl rfl) order.1

theorem node (r : Replacing d d₁ d₂ first text extra css) (there : d₂.Current n) (other : n ≠ text) :
    d₂.node? n = d.node? n ∧ d₂.parent? n = d.parent? n := by
  have before := ((r.cleared.current n).mp there).1
  constructor
  · rw [r.cleared.node n there,r.texted.node n before other]
  · rw [r.cleared.parent n there,r.texted.parent n before other]

theorem above (r : Replacing d d₁ d₂ first text extra css) (there : d₂.Current n) (other : n ≠ text) :
    d₂.Above a n ↔ d.Above a n := by
  rw [above_kept r.cleared.forest r.cleared.parent there,r.texted.above ((r.cleared.current n).mp there).1 other]

theorem text_current (r : Replacing d d₁ d₂ first text extra css) : d₁.Current text := (r.texted.current text).mpr (.inr rfl)

-- A node that is there has lost those of its children that were removed.
theorem children (r : Replacing d d₁ d₂ first text extra css) (there : d₂.Current n) (other : n ≠ text) (inner : n ≠ first) :
    d₂.children n = (d.children n).filter (· ∉ extra) := by
  have before := ((r.cleared.current n).mp there).1
  have same := r.texted.children n before other
  rw [if_neg inner] at same
  rw [r.cleared.children n there,same]
  refine List.filter_congr fun x child => ?_
  rw [← same] at child
  obtain ⟨left,linked⟩ := r.texted.forest.down before child
  have apart : x ≠ text := by
    rintro rfl
    exact inner (Option.some.inj (linked.symm.trans r.texted.newParent))
  have slot : x.slot ≠ text.slot := left.slot_ne r.text_current apart
  have member : x ∈ extra.map (renamed text) ↔ x ∈ extra := by
    rw [List.mem_map]
    constructor
    · rintro ⟨e,listed,rfl⟩
      unfold renamed at apart ⊢
      split at apart
      · exact absurd rfl apart
      · rw [if_neg ‹_›]
        exact listed
    · intro listed
      exact ⟨x,listed,if_neg slot⟩
  simp [member]

theorem root_remains (r : Replacing d d₁ d₂ first text extra css) : d₂.Current root := by
  obtain ⟨left,_,other⟩ := r.first_remains
  have above := (r.above left other).mpr (r.isStyle List.mem_cons_self).1.2
  exact r.cleared.forest.above left above

theorem styles (r : Replacing d d₁ d₂ first text extra css) : d₂.customStyles = [first] := by
  have forest := r.cleared.forest
  have once := forest.customStyles_nodup r.root_remains
  obtain ⟨left,before,other⟩ := r.first_remains
  have members : ∀ n, n ∈ d₂.customStyles ↔ n ∈ [first] := by
    intro n
    rw [forest.mem_customStyles r.root_remains,List.mem_singleton]
    constructor
    · rintro ⟨⟨current,above⟩,style⟩
      obtain ⟨before,apart⟩ := (r.cleared.current n).mp current
      have other : n ≠ text := by
        rintro rfl
        have tag := style.1
        rw [tag?,r.cleared.node n current,r.texted.newNode] at tag
        cases tag
      obtain ⟨node,_⟩ := r.node current other
      have path := r.above (a := root) current other
      have old := (((r.texted.current n).mp before).resolve_right other).1
      have listed : n ∈ d.customStyles :=
        (r.forest.mem_customStyles r.there).mpr ⟨⟨old,path.mp above⟩,(IsStyle.congr node).mp style⟩
      rw [r.listed] at listed
      rcases List.mem_cons.mp listed with same | later
      · exact same
      · refine absurd (.refl n) (apart n (List.mem_map.mpr ⟨n,later,?_⟩))
        rw [renamed,if_neg]
        intro slot
        exact other (before.same r.text_current slot)
    · rintro rfl
      obtain ⟨⟨_,above⟩,style⟩ := r.isStyle List.mem_cons_self
      exact ⟨⟨left,(r.above left other).mpr above⟩,(IsStyle.congr (r.node left other).1).mpr style⟩
  exact List.perm_singleton.mp ((List.perm_ext_iff_of_nodup once (by simp)).mpr members)

theorem kept (r : Replacing d d₁ d₂ first text extra css) (inside : n ∈ d.descendants root)
    (free : ∀ s ∈ first :: extra, s ∉ d.ancestors n) :
    n ∈ d₂.descendants root ∧ d₂.node? n = d.node? n ∧ d₂.parent? n = d.parent? n ∧
      d₂.children n = (d.children n).filter (· ∉ extra) := by
  obtain ⟨current,above⟩ := (r.forest.mem_descendants r.there).mp inside
  simp only [r.forest.mem_ancestors current] at free
  have inner : n ≠ first := by
    rintro rfl
    exact free n List.mem_cons_self (.refl n)
  have apart := free first List.mem_cons_self
  obtain ⟨left,_,other⟩ := r.remains current (.inr apart) fun e listed => free e (List.mem_cons_of_mem first listed)
  obtain ⟨node,parent⟩ := r.node left other
  refine ⟨(r.cleared.forest.mem_descendants r.root_remains).mpr ⟨left,?_⟩,node,parent,r.children left other inner⟩
  exact (r.above left other).mpr above

-- The text is removed again if the place that it got is the place of another style.
theorem text_removed (r : Replacing d d₁ d₂ first text extra css) :
    text ∈ extra.map (renamed text) ↔ (d.children first).head?.any (· ∈ extra) = true := by
  rw [List.mem_map,Option.any_eq_true]
  constructor
  · rintro ⟨e,listed,place⟩
    have old := (r.isStyle (List.mem_cons_of_mem first listed)).1.1
    have slot : e.slot = text.slot := by
      unfold renamed at place
      split at place
      · assumption
      · rw [place]
    exact ⟨e,(r.texted.slot e old).mp slot,decide_eq_true listed⟩
  · rintro ⟨e,head,listed⟩
    rw [decide_eq_true_eq] at listed
    have old := (r.isStyle (List.mem_cons_of_mem first listed)).1.1
    exact ⟨e,listed,if_pos ((r.texted.slot e old).mpr head)⟩

theorem styleText (r : Replacing d d₁ d₂ first text extra css) :
    d₂.customStyleText = if (d.children first).head?.any (· ∈ extra) then [] else css := by
  obtain ⟨left,before,other⟩ := r.first_remains
  have own : d₂.textOf? first = none := by
    have tag := (r.isStyle List.mem_cons_self).2.1
    rw [textOf?,(r.node left other).1]
    rw [tag?] at tag
    cases found : d.node? first with
    | none => rfl
    | some payload =>
      rw [found] at tag
      obtain ⟨kind,attributes⟩ := payload
      cases kind <;> first | rfl | cases tag
  have children : d₂.children first = [text].filter (· ∉ extra.map (renamed text)) := by
    rw [r.cleared.children first left,r.texted.children first before other,if_pos rfl]
  rw [customStyleText,r.styles,List.map_singleton,List.flatten_singleton,textContent,descendants,height,below,
    List.filterMap_cons_none own,children]
  by_cases removed : (d.children first).head?.any (· ∈ extra) = true
  · have gone := r.text_removed.mpr removed
    rw [if_pos removed,List.filter_cons_of_neg (by simpa using gone)]
    rfl
  · have kept : text ∉ extra.map (renamed text) := fun inside => removed (r.text_removed.mp inside)
    have alone : d₂.Current text := by
      refine (r.cleared.current text).mpr ⟨r.text_current,?_⟩
      intro e inside above
      rcases above.cases with rfl | ⟨p,linked,above⟩
      · exact kept inside
      · cases Option.some.inj (linked.symm.trans r.texted.newParent)
        exact ((r.cleared.current first).mp left).2 e inside above
    have content : d₂.textOf? text = some css := by
      rw [textOf?,r.cleared.node text alone,r.texted.newNode]
      rfl
    have leaf : d₂.children text = [] := by
      rw [r.cleared.children text alone,r.texted.newChildren]
      rfl
    obtain ⟨size,positive⟩ := Nat.exists_eq_succ_of_ne_zero (Nat.ne_of_gt (Nat.zero_lt_of_lt left.lt))
    rw [if_neg removed,List.filter_cons_of_pos (by simpa using kept),positive]
    simp [below,leaf,content]

end Replacing

theorem replaceStyles_replacing (forest : d.Forest) (free : d.free = []) (there : d.Current root)
    (listed : d.customStyles = first :: extra) (css : Text) :
    ∃ text, Replacing d (d.setText first css) (d.replaceStyles css).1 first text extra css := by
  have styles : ∀ e ∈ first :: extra, d.Current e := by
    intro e inside
    rw [← listed] at inside
    exact ((forest.mem_customStyles there).mp inside).1.1
  obtain ⟨text,texted⟩ := setText_texted forest free (styles first List.mem_cons_self) css
  have told : ∀ e ∈ extra.map (renamed text), (d.setText first css).Current e ∨ (d.setText first css).node? e = none := by
    intro e moved
    obtain ⟨e,inside,rfl⟩ := List.mem_map.mp moved
    unfold renamed
    split
    · exact .inl ((texted.current text).mpr (.inr rfl))
    · exact texted.gone e (styles e (List.mem_cons_of_mem first inside)) ‹_›
  have cleared := removeAll_cleared _ texted.forest told
  rw [← renamed_remove] at cleared
  refine ⟨text,forest,there,listed,texted,?_⟩
  rw [replaceStyles,listed]
  exact cleared

theorem replaceStyles_restyled (forest : d.Forest) (free : d.free = []) (there : d.Current root)
    (listed : d.customStyles = first :: extra) (css : Text) :
    (d.replaceStyles css).2 = true ∧ Restyled d (d.replaceStyles css).1 first extra
      (if (d.children first).head?.any (· ∈ extra) then [] else css) := by
  obtain ⟨text,r⟩ := replaceStyles_replacing forest free there listed css
  obtain ⟨left,_,other⟩ := r.first_remains
  have replaced : (d.replaceStyles css).2 = true := by
    rw [replaceStyles,listed]
  exact ⟨replaced,r.styles,r.styleText,r.node left other,fun n => r.kept⟩

-- The new text is there exactly if the first style does not begin with another one. All else is as it should be.
theorem replaceStyles_exact (source css : Text) :
    ((read source).customStyles = [] ∧ (read source).replaceStyles css = (read source,false)) ∨
    ∃ first extra, (read source).customStyles = first :: extra ∧ ((read source).replaceStyles css).2 = true ∧
      Restyled (read source) ((read source).replaceStyles css).1 first extra
        (if ((read source).children first).head?.any (· ∈ extra) then [] else css) := by
  cases listed : (read source).customStyles with
  | nil =>
    left
    rw [replaceStyles,listed]
    exact ⟨rfl,rfl⟩
  | cons first extra =>
    right
    exact ⟨first,extra,rfl,replaceStyles_restyled (read_forest source) (read_free source) (read_root source) listed css⟩

end StyleTrim.Dom
