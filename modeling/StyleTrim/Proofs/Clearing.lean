import StyleTrim.Proofs.Edits
namespace StyleTrim.Dom
variable {d d' : Dom} {a c m n p q : NodeId} {i : Nat} {s : Slot} {l : List NodeId}

-- Taking a node out of the store frees it and all below it, and nothing else.

-- Every free slot is empty and listed once.
def Vacant (d : Dom) : Prop := (∀ i ∈ d.free, d.lives? i = some false) ∧ d.free.Nodup

theorem freeSlot_slot? (d : Dom) (n m : NodeId) :
    (d.freeSlot n).slot? m = (d.slot? m).map fun s => if n.slot = m.slot then {s with live := false} else s := by
  unfold freeSlot
  by_cases same : n.slot = m.slot
  · split
    · exact (update_slot? d n m _).trans (by simp [same])
    · rename_i none
      rw [node?,slot?,same] at none
      rw [slot?]
      split at none
      · rename_i s found
        rw [found,Option.map_some,if_pos same]
        cases s with
        | mk payload stamp live parent children =>
          cases live with
          | false => rfl
          | true => cases none
      · rename_i missing
        rw [missing]
        rfl
  · split
    · exact (update_slot? d n m _).trans (by simp [same])
    · simp [same]

theorem freeSlot_free (d : Dom) (n : NodeId) :
    (d.freeSlot n).free = d.free ++ (if (d.node? n).isSome then [n.slot] else []) := by
  unfold freeSlot
  split
  · rename_i found
    simp [found]
  · rename_i none
    simp [none]

theorem freeSlot_vacant (vacant : d.Vacant) (n : NodeId) : (d.freeSlot n).Vacant := by
  obtain ⟨empty,once⟩ := vacant
  have still : ∀ i, d.lives? i = some false → (d.freeSlot n).lives? i = some false := by
    intro i dead
    have slots := freeSlot_slot? d n ⟨i,0⟩
    rw [slot?,slot?] at slots
    rw [lives?] at dead
    obtain ⟨s,found,dead⟩ := Option.map_eq_some_iff.mp dead
    rw [lives?,slots,found]
    by_cases same : n.slot = i <;> simp [same,dead]
  rw [Vacant,freeSlot_free]
  cases found : d.node? n with
  | none => simpa using ⟨fun i inside => still i (empty i inside),once⟩
  | some payload =>
    have lives : ∃ s, d.slots[n.slot]? = some s ∧ s.live = true := by
      rw [node?,slot?] at found
      split at found
      · rename_i s here
        split at found
        · exact ⟨s,here,‹_›⟩
        · cases found
      · cases found
    obtain ⟨s,here,live⟩ := lives
    constructor
    · intro i inside
      rcases List.mem_append.mp inside with old | new
      · exact still i (empty i old)
      · cases List.mem_singleton.mp new
        have slots := freeSlot_slot? d n n
        rw [slot?,slot?,here] at slots
        rw [lives?,slots]
        simp
    · refine List.nodup_append.mpr ⟨once,by simp,?_⟩
      rintro i inside j new rfl
      cases List.mem_singleton.mp new
      have dead := empty _ inside
      rw [lives?,here,Option.map_some,live] at dead
      cases dead

theorem freeAll_vacant (l : List NodeId) (vacant : d.Vacant) : (l.foldl freeSlot d).Vacant := by
  induction l generalizing d with
  | nil => exact vacant
  | cons n more ih => exact ih (freeSlot_vacant vacant n)

theorem freeAll_slot? (l : List NodeId) (m : NodeId) : (l.foldl freeSlot d).slot? m =
    (d.slot? m).map fun s => if m.slot ∈ l.map (·.slot) then {s with live := false} else s := by
  induction l generalizing d with
  | nil => simp
  | cons n more ih =>
    rw [List.foldl_cons,ih,freeSlot_slot?,Option.map_map]
    congr 1
    funext s
    by_cases first : n.slot = m.slot
    · by_cases later : m.slot ∈ more.map (·.slot) <;> simp [first,later]
    · by_cases later : m.slot ∈ more.map (·.slot) <;> simp [first,Ne.symm first,later]

theorem freeAll_free (l : List NodeId) : ∃ more, (l.foldl freeSlot d).free = d.free ++ more := by
  induction l generalizing d with
  | nil => exact ⟨[],by simp⟩
  | cons n more ih =>
    obtain ⟨rest,freed⟩ := ih (d := d.freeSlot n)
    rw [freeSlot_free,List.append_assoc] at freed
    exact ⟨_,freed⟩

structure Removed (d d' : Dom) (n : NodeId) : Prop where
  current : ∀ m, d'.Current m ↔ d.Current m ∧ ¬ d.Above n m
  node : ∀ m, d'.Current m → d'.node? m = d.node? m
  parent : ∀ m, d'.Current m → d'.parent? m = d.parent? m
  children : ∀ m, d'.Current m → d'.children m = (d.children m).filter (· ≠ n)
  free : ∃ more, d'.free = d.free ++ n.slot :: more
  forest : d'.Forest

-- The links below a node are the same when it has been taken away.
theorem detach_above (moved : Moved d d' none n id) (forest : d.Forest) (current : d.Current m) :
    d'.Above n m ↔ d.Above n m := by
  constructor
  · rintro ⟨k,steps⟩
    induction k generalizing m with
    | zero =>
      cases steps
      exact .refl n
    | succ k ih =>
      obtain ⟨p,linked,more⟩ := steps
      rw [moved.parent m current] at linked
      split at linked
      · cases linked
      · exact .of_parent linked (ih (forest.up current linked).1 more)
  · rintro ⟨k,steps⟩
    induction k generalizing m with
    | zero =>
      cases steps
      exact .refl n
    | succ k ih =>
      obtain ⟨p,linked,more⟩ := steps
      by_cases same : m = n
      · subst same
        exact .refl m
      · refine .of_parent ?_ (ih (forest.up current linked).1 more)
        rw [moved.parent m current,if_neg same,linked]

theorem detach_forest (forest : d.Forest) (current : d.Current n) : (d.detach n).Forest :=
  (detach_moved forest current id).forest forest current (by simp)

theorem removeSubtree_removed (forest : d.Forest) (current : d.Current n) : Removed d (d.removeSubtree n) n := by
  have moved := detach_moved forest current id
  have forest' := detach_forest forest current
  have current' : (d.detach n).Current n := (moved.current n).mpr current
  have slots := freeAll_slot? (d := d.detach n) ((d.detach n).descendants n)
  have vacant := freeAll_vacant ((d.detach n).descendants n) (d := d.detach n) ⟨forest'.vacant,forest'.single⟩
  rw [show d.removeSubtree n = ((d.detach n).descendants n).foldl freeSlot (d.detach n) from rfl]
  generalize removed : ((d.detach n).descendants n).foldl freeSlot (d.detach n) = d' at slots vacant ⊢
  have inside : ∀ m, d.Current m → (m.slot ∈ ((d.detach n).descendants n).map (·.slot) ↔ d.Above n m) := by
    intro m there
    have there' := (moved.current m).mpr there
    rw [List.mem_map]
    constructor
    · rintro ⟨x,below,same⟩
      obtain ⟨here,above⟩ := (forest'.mem_descendants current').mp below
      cases here.same there' same
      exact (detach_above moved forest there).mp above
    · intro above
      exact ⟨m,(forest'.mem_descendants current').mpr ⟨there',(detach_above moved forest there).mpr above⟩,rfl⟩
  have alive : ∀ m, d'.Current m ↔ d.Current m ∧ ¬ d.Above n m := by
    intro m
    constructor
    · rintro ⟨s,found,live,stamp⟩
      rw [slots] at found
      obtain ⟨t,before,rfl⟩ := Option.map_eq_some_iff.mp found
      by_cases freed : m.slot ∈ ((d.detach n).descendants n).map (·.slot)
      · simp [freed] at live
      · simp only [freed,if_false] at live stamp
        have there := (moved.current m).mp ⟨t,before,live,stamp⟩
        exact ⟨there,fun above => freed ((inside m there).mpr above)⟩
    · rintro ⟨there,free⟩
      obtain ⟨s,found,live,stamp⟩ := (moved.current m).mpr there
      refine ⟨s,?_,live,stamp⟩
      rw [slots,found,Option.map_some,if_neg]
      exact fun freed => free ((inside m there).mp freed)
  have kept : ∀ m, d'.Current m → d'.slot? m = (d.detach n).slot? m := by
    intro m there
    obtain ⟨there,free⟩ := (alive m).mp there
    rw [slots]
    have apart : m.slot ∉ ((d.detach n).descendants n).map (·.slot) := fun freed => free ((inside m there).mp freed)
    simp [apart]
  have node : ∀ m, d'.Current m → d'.node? m = d.node? m := by
    intro m there
    rw [node?,kept m there,← moved.node,node?]
  have parent : ∀ m, d'.Current m → d'.parent? m = d.parent? m := by
    intro m there
    obtain ⟨old,free⟩ := (alive m).mp there
    rw [parent?,kept m there,← parent?,moved.parent m old,if_neg]
    rintro rfl
    exact free (.refl _)
  have children : ∀ m, d'.Current m → d'.children m = (d.children m).filter (· ≠ n) := by
    intro m there
    rw [Dom.children,kept m there,← Dom.children,moved.children m ((alive m).mp there).1]
    simp
  refine ⟨alive,node,parent,children,?_,?_,?_,?_,?_,vacant.1,vacant.2⟩
  · have first : (d.detach n).descendants n = n :: ((d.detach n).children n).flatMap ((d.detach n).below (d.detach n).slots.size) := rfl
    rw [first,List.foldl_cons] at removed
    obtain ⟨more,freed⟩ := freeAll_free (d := (d.detach n).freeSlot n)
      (((d.detach n).children n).flatMap ((d.detach n).below (d.detach n).slots.size))
    rw [removed,freeSlot_free,current'.node?,moved.free] at freed
    exact ⟨more,by simpa using freed⟩
  · intro p c there child
    rw [children p there,List.mem_filter,decide_eq_true_eq] at child
    obtain ⟨old,free⟩ := (alive p).mp there
    obtain ⟨below,linked⟩ := forest.down old child.1
    have stays : d'.Current c := by
      refine (alive c).mpr ⟨below,fun above => ?_⟩
      rcases above.cases with same | ⟨q,upward,above⟩
      · exact child.2 same.symm
      · cases Option.some.inj (linked.symm.trans upward)
        exact free above
    exact ⟨stays,by rw [parent c stays,linked]⟩
  · intro c p there linked
    rw [parent c there] at linked
    obtain ⟨old,free⟩ := (alive c).mp there
    obtain ⟨upper,child⟩ := forest.up old linked
    have stays : d'.Current p := (alive p).mpr ⟨upper,fun above => free (.of_parent linked above)⟩
    refine ⟨stays,?_⟩
    rw [children p stays,List.mem_filter,decide_eq_true_eq]
    refine ⟨child,?_⟩
    rintro rfl
    exact free (.refl _)
  · intro p there
    rw [children p there]
    exact (forest.once ((alive p).mp there).1).filter _
  · intro m there
    refine (forest.grounded ((alive m).mp there).1).transfer fun x above => parent x ?_
    refine (alive x).mpr ⟨forest.above ((alive m).mp there).1 above,fun upper => ?_⟩
    exact ((alive m).mp there).2 (upper.trans above)

end StyleTrim.Dom
