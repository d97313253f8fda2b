import StyleTrim.Proofs.Forest
namespace StyleTrim.Dom
variable {d d' : Dom} {a b c m n p q : NodeId} {i k h : Nat} {s t : Slot} {payload : Payload}
  {place : List NodeId → List NodeId} {l : List NodeId}

-- What each edit of a store leaves of its nodes, and that the links still form a forest.

theorem update_slot? (d : Dom) (n m : NodeId) (f : Slot → Slot) :
    (d.update n f).slot? m = if n.slot = m.slot then (d.slot? m).map f else d.slot? m := by
  rw [update,slot?,slot?,Array.getElem?_modify]

theorem update_current {f : Slot → Slot} (keeps : ∀ s, (f s).live = s.live ∧ (f s).stamp = s.stamp) (n : NodeId) :
    (d.update n f).Current m ↔ d.Current m := by
  simp only [Current,update_slot?]
  split
  · cases d.slot? m <;> simp [keeps]
  · rfl

theorem update_node? {f : Slot → Slot} (keeps : ∀ s, (f s).live = s.live ∧ (f s).payload = s.payload) (n m : NodeId) :
    (d.update n f).node? m = d.node? m := by
  simp only [node?,update_slot?]
  by_cases same : n.slot = m.slot
  · rw [if_pos same]
    cases d.slot? m <;> simp [keeps]
  · rw [if_neg same]

theorem update_lives? {f : Slot → Slot} (keeps : ∀ s, (f s).live = s.live) (n : NodeId) (i : Nat) :
    (d.update n f).lives? i = d.lives? i := by
  have slots := update_slot? d n ⟨i,0⟩ f
  rw [slot?,slot?] at slots
  rw [lives?,slots,lives?]
  split
  · cases d.slots[i]? <;> simp [keeps]
  · rfl

theorem update_size (n : NodeId) (f : Slot → Slot) : (d.update n f).slots.size = d.slots.size := by simp [update]

theorem Current.slot_ne (one : d.Current m) (other : d.Current n) (apart : m ≠ n) : m.slot ≠ n.slot :=
  fun slot => apart (one.same other slot)

-- A store with one more node, which is new and stands alone.
structure Created (d d' : Dom) (n : NodeId) (payload : Payload) : Prop where
  current : ∀ m, d'.Current m ↔ d.Current m ∨ m = n
  fresh : ∀ m, d.Current m → m ≠ n
  node : ∀ m, d.Current m → d'.node? m = d.node? m
  parent : ∀ m, d.Current m → d'.parent? m = d.parent? m
  children : ∀ m, d.Current m → d'.children m = d.children m
  newNode : d'.node? n = some payload
  newParent : d'.parent? n = none
  newChildren : d'.children n = []
  free : d'.free = d.free.tail
  size : d.slots.size ≤ d'.slots.size
  slot : n.slot = d.free.head?.getD d.slots.size

-- The slot of the new node was free or did not exist, and no other slot changes.
theorem create_slot? (forest : d.Forest) (payload : Payload) (m : NodeId) :
    (d.create payload).1.slot? m = if (d.create payload).2.slot = m.slot then
      some ⟨payload,(d.create payload).2.stamp,true,none,[]⟩ else d.slot? m := by
  unfold create
  split
  · rename_i slot free listed
    obtain ⟨s,found,_⟩ := Option.map_eq_some_iff.mp (forest.vacant slot (by simp [listed]))
    dsimp only
    rw [slot?,Array.getElem?_modify]
    split
    · rename_i same
      rw [← same,found]
      rfl
    · rfl
  · dsimp only
    rw [slot?,Array.getElem?_push]
    by_cases same : d.slots.size = m.slot
    · rw [if_pos same.symm,if_pos same]
    · rw [if_neg (Ne.symm same),if_neg same,slot?]

theorem create_fresh (forest : d.Forest) (payload : Payload) (current : d.Current m) :
    (d.create payload).2.slot ≠ m.slot := by
  obtain ⟨s,found,live,_⟩ := current
  unfold create
  split
  · rename_i slot free listed
    obtain ⟨t,vacant,dead⟩ := Option.map_eq_some_iff.mp (forest.vacant slot (by simp [listed]))
    intro same
    rw [slot?,← same,vacant] at found
    cases found
    rw [live] at dead
    cases dead
  · intro same
    have bound := (Array.getElem?_eq_some_iff.mp found).1
    exact absurd same (Nat.ne_of_gt bound)

theorem create_created (forest : d.Forest) (payload : Payload) :
    Created d (d.create payload).1 (d.create payload).2 payload := by
  have slots := create_slot? forest payload
  have fresh : ∀ m, d.Current m → (d.create payload).2.slot ≠ m.slot := fun m => create_fresh forest payload
  have old : ∀ m, d.Current m → (d.create payload).1.slot? m = d.slot? m := by
    intro m current
    rw [slots,if_neg (fresh m current)]
  have new : (d.create payload).1.slot? (d.create payload).2 = some ⟨payload,(d.create payload).2.stamp,true,none,[]⟩ := by
    rw [slots,if_pos rfl]
  refine ⟨?_,?_,?_,?_,?_,?_,?_,?_,?_,?_,?_⟩
  · intro m
    unfold Current
    rw [slots]
    split
    · rename_i same
      constructor
      · rintro ⟨s,found,_,stamp⟩
        cases found
        right
        cases m
        cases same
        cases stamp
        rfl
      · rintro (current | rfl)
        · exact absurd same (fresh m current)
        · exact ⟨_,rfl,rfl,rfl⟩
    · rename_i other
      constructor
      · exact .inl
      · rintro (current | rfl)
        · exact current
        · exact absurd rfl other
  · rintro m current rfl
    exact fresh _ current rfl
  · intro m current
    rw [node?,old m current,node?]
  · intro m current
    rw [parent?,old m current,parent?]
  · intro m current
    rw [children,old m current,children]
  · rw [node?,new]
    rfl
  · rw [parent?,new]
    rfl
  · rw [children,new]
    rfl
  · unfold create
    split
    · rename_i listed
      rw [listed]
      rfl
    · rename_i none
      rw [none]
      rfl
  · unfold create
    split <;> simp
  · unfold create
    split
    · rename_i listed
      rw [listed]
      rfl
    · rename_i none
      rw [none]
      rfl

theorem Grounded.transfer (links : ∀ m, d.Above m n → d'.parent? m = d.parent? m) (grounded : d.Grounded n) :
    d'.Grounded n := by
  induction grounded with
  | top none => exact .top ((links _ (.refl _)).trans none)
  | under linked _ ih =>
    exact .under ((links _ (.refl _)).trans linked) (ih fun m above => links m (.of_parent linked above))

theorem create_forest (forest : d.Forest) (payload : Payload) : (d.create payload).1.Forest := by
  have created := create_created forest payload
  generalize (d.create payload).2 = n at created
  have vacancies : ∀ i ∈ (d.create payload).1.free, (d.create payload).1.lives? i = some false := by
    intro i inside
    rw [created.free] at inside
    have slots := create_slot? forest payload ⟨i,0⟩
    rw [slot?,slot?] at slots
    rw [lives?,slots,if_neg]
    exact forest.vacant i (List.mem_of_mem_tail inside)
    cases listed : d.free with
    | nil => rw [listed] at inside; cases inside
    | cons first free =>
      rw [listed] at inside
      have single := forest.single
      rw [listed] at single
      simp only [create,listed]
      intro same
      exact (List.nodup_cons.mp single).1 (same ▸ inside)
  refine ⟨?_,?_,?_,?_,vacancies,?_⟩
  · intro p c current child
    rcases (created.current p).mp current with old | rfl
    · rw [created.children p old] at child
      obtain ⟨there,linked⟩ := forest.down old child
      exact ⟨(created.current c).mpr (.inl there),by rw [created.parent c there,linked]⟩
    · rw [created.newChildren] at child
      cases child
  · intro c p current linked
    rcases (created.current c).mp current with old | rfl
    · rw [created.parent c old] at linked
      obtain ⟨there,child⟩ := forest.up old linked
      exact ⟨(created.current p).mpr (.inl there),by rw [created.children p there]; exact child⟩
    · rw [created.newParent] at linked
      cases linked
  · intro p current
    rcases (created.current p).mp current with old | rfl
    · rw [created.children p old]
      exact forest.once old
    · rw [created.newChildren]
      exact List.nodup_nil
  · intro m current
    rcases (created.current m).mp current with old | rfl
    · exact (forest.grounded old).transfer fun x above => created.parent x (forest.above old above)
    · exact .top created.newParent
  · rw [created.free]
    exact forest.single.tail

-- Nothing is below a node that has just been made.
theorem Created.apart (created : Created d d' n payload) (forest : d.Forest) (current : d.Current p) : ¬ d'.Above n p := by
  rintro ⟨k,steps⟩
  induction k generalizing p with
  | zero => exact created.fresh p current steps.symm
  | succ k ih =>
    obtain ⟨q,linked,more⟩ := steps
    rw [created.parent p current] at linked
    exact ih (forest.up current linked).1 more

-- A store in which `c` was taken from where it was and put among the children of `target`, if there is one.
structure Moved (d d' : Dom) (target : Option NodeId) (c : NodeId) (place : List NodeId → List NodeId) : Prop where
  current : ∀ m, d'.Current m ↔ d.Current m
  node : ∀ m, d'.node? m = d.node? m
  parent : ∀ m, d.Current m → d'.parent? m = if m = c then target else d.parent? m
  children : ∀ m, d.Current m → d'.children m =
    if target = some m then place ((d.children m).filter (· ≠ c)) else (d.children m).filter (· ≠ c)
  free : d'.free = d.free
  vacant : ∀ i, d'.lives? i = d.lives? i
  size : d'.slots.size = d.slots.size

theorem Forest.apart (forest : d.Forest) (current : d.Current c) (linked : d.parent? c = some q) : q ≠ c := by
  rintro rfl
  exact (forest.grounded current).acyclic linked (.refl _)

theorem Forest.filter_slot (forest : d.Forest) (current : d.Current c) (there : d.Current m) :
    (d.children m).filter (fun x => decide (x.slot ≠ c.slot)) = (d.children m).filter (· ≠ c) := by
  refine List.filter_congr fun x child => ?_
  have inside := (forest.down there child).1
  by_cases same : x = c
  · simp [same]
  · simp [same,inside.slot_ne current same]

theorem Forest.filter_absent (forest : d.Forest) (there : d.Current m) (other : d.parent? c ≠ some m) :
    (d.children m).filter (· ≠ c) = d.children m := by
  refine List.filter_eq_self.mpr fun x child => ?_
  rw [decide_eq_true_eq]
  rintro rfl
  exact other (forest.down there child).2

-- What taking a node away leaves of a slot.
def withoutChild (c : NodeId) (isSelf : Bool) (s : Slot) : Slot :=
  {s with children := s.children.filter (·.slot ≠ c.slot),parent := if isSelf then none else s.parent}

theorem detach_slot? (forest : d.Forest) (current : d.Current c) (there : d.Current m) :
    (d.detach c).slot? m = (d.slot? m).map (withoutChild c (m = c)) := by
  obtain ⟨s,found,live,stamp⟩ := there
  have there : d.Current m := ⟨s,found,live,stamp⟩
  have listed : d.children m = s.children := by simp [children,found]
  have upward : d.parent? m = s.parent := by simp [parent?,found]
  have kept : d.parent? c ≠ some m → s.children.filter (fun x => decide (x.slot ≠ c.slot)) = s.children := by
    intro other
    rw [← listed,forest.filter_slot current there,forest.filter_absent there other]
  unfold detach
  split
  · rename_i none
    rw [found,Option.map_some,withoutChild,kept (by rw [none]; simp)]
    by_cases same : m = c
    · subst same
      rw [upward] at none
      simp [← none]
    · simp [same]
  · rename_i q linked
    have apart := forest.apart current linked
    have parent := (forest.up current linked).1
    rw [update_slot?,update_slot?,found]
    by_cases same : m = c
    · subst same
      rw [if_pos rfl,if_neg (parent.slot_ne current apart),Option.map_some,Option.map_some,withoutChild,
        kept (by rw [linked]; simpa using apart)]
      simp
    · rw [if_neg (current.slot_ne there (Ne.symm same))]
      by_cases isParent : q = m
      · subst isParent
        simp [withoutChild,same]
      · rw [if_neg (parent.slot_ne there isParent),Option.map_some,withoutChild,
          kept (by rw [linked]; simpa using isParent)]
        simp [same]

theorem detach_current (c : NodeId) : (d.detach c).Current m ↔ d.Current m := by
  unfold detach
  split
  · rfl
  · rw [update_current,update_current]
    all_goals exact fun _ => ⟨rfl,rfl⟩

theorem detach_node? (d : Dom) (c m : NodeId) : (d.detach c).node? m = d.node? m := by
  unfold detach
  split
  · rfl
  · rw [update_node?,update_node?]
    all_goals exact fun _ => ⟨rfl,rfl⟩

theorem detach_lives? (c : NodeId) (i : Nat) : (d.detach c).lives? i = d.lives? i := by
  unfold detach
  split
  · rfl
  · rw [update_lives?,update_lives?]
    all_goals exact fun _ => rfl

theorem detach_moved (forest : d.Forest) (current : d.Current c) (place : List NodeId → List NodeId) :
    Moved d (d.detach c) none c place := by
  refine ⟨fun m => detach_current c,detach_node? d c,?_,?_,?_,detach_lives? c,?_⟩
  · intro m there
    obtain ⟨s,found,_⟩ := id there
    rw [parent?,detach_slot? forest current there,parent?,found]
    by_cases same : m = c <;> simp [same,withoutChild]
  · intro m there
    obtain ⟨s,found,_⟩ := id there
    rw [← forest.filter_slot current there,children,detach_slot? forest current there,children,found]
    simp [withoutChild]
  · unfold detach
    split <;> rfl
  · unfold detach
    split <;> simp [update]

theorem link_moved (forest : d.Forest) (parent : d.Current p) (current : d.Current c) (apart : p ≠ c)
    (place : List NodeId → List NodeId) : Moved d ((d.detach c).link p c place) (some p) c place := by
  have detached := detach_moved forest current place
  have slots : ∀ m, d.Current m → ((d.detach c).link p c place).slot? m = ((d.detach c).slot? m).map fun s =>
      {s with children := if m = p then place s.children else s.children,parent := if m = c then some p else s.parent} := by
    intro m there
    rw [link,update_slot?,update_slot?]
    by_cases isChild : c = m
    · subst isChild
      rw [if_pos rfl,if_neg (parent.slot_ne current apart)]
      simp only [if_neg (Ne.symm apart),if_pos]
    · rw [if_neg (current.slot_ne there isChild)]
      by_cases isParent : p = m
      · subst isParent
        simp only [if_neg apart,if_pos]
      · rw [if_neg (parent.slot_ne there isParent)]
        simp only [if_neg (Ne.symm isChild),if_neg (Ne.symm isParent)]
        cases (d.detach c).slot? m <;> rfl
  refine ⟨?_,?_,?_,?_,detached.free,?_,?_⟩
  · intro m
    rw [link,update_current,update_current,detach_current]
    all_goals exact fun _ => ⟨rfl,rfl⟩
  · intro m
    rw [link,update_node?,update_node?,detach_node?]
    all_goals exact fun _ => ⟨rfl,rfl⟩
  · intro m there
    have before := detached.parent m there
    rw [parent?,slots m there]
    rw [parent?] at before
    cases found : (d.detach c).slot? m with
    | none =>
      obtain ⟨s,again,_⟩ := (detached.current m).mpr there
      rw [found] at again
      cases again
    | some s =>
      rw [found] at before
      by_cases same : m = c
      · simp [same]
      · simpa [same] using before
  · intro m there
    have before := detached.children m there
    rw [children] at before
    rw [children,slots m there]
    cases found : (d.detach c).slot? m with
    | none =>
      obtain ⟨s,again,_⟩ := (detached.current m).mpr there
      rw [found] at again
      cases again
    | some s =>
      rw [found] at before
      by_cases same : m = p
      · subst same
        simpa using congrArg place before
      · simpa [same,Ne.symm same] using before
  · intro i
    rw [link,update_lives?,update_lives?,detach_lives?]
    all_goals exact fun _ => rfl
  · rw [link,update_size,update_size,detached.size]

-- How a new child is put among others.
def Inserts (place : List NodeId → List NodeId) (c : NodeId) (others : List NodeId) : Prop :=
  ∃ before after, others = before ++ after ∧ place others = before ++ c :: after

theorem Inserts.mem (inserts : Inserts place c l) : n ∈ place l ↔ n = c ∨ n ∈ l := by
  obtain ⟨before,after,whole,placed⟩ := inserts
  rw [placed,whole]
  simp only [List.mem_append,List.mem_cons]
  constructor
  · rintro (first | rfl | last)
    · exact .inr (.inl first)
    · exact .inl rfl
    · exact .inr (.inr last)
  · rintro (rfl | first | last)
    · exact .inr (.inl rfl)
    · exact .inl first
    · exact .inr (.inr last)

theorem Inserts.nodup (inserts : Inserts place c l) (once : l.Nodup) (absent : c ∉ l) : (place l).Nodup := by
  obtain ⟨before,after,whole,placed⟩ := inserts
  rw [placed]
  rw [whole] at once absent
  exact List.perm_middle.nodup_iff.mpr (List.nodup_cons.mpr ⟨absent,once⟩)

theorem Inserts.sublist (inserts : Inserts place c l) : l.Sublist (place l) := by
  obtain ⟨before,after,whole,placed⟩ := inserts
  rw [placed,whole]
  exact (List.Sublist.refl before).append (List.sublist_cons_self c after)

-- Where a node may move: not below itself.
def Receives (d : Dom) (p c : NodeId) (place : List NodeId → List NodeId) : Prop :=
  d.Current p ∧ ¬ d.Above c p ∧ Inserts place c ((d.children p).filter (· ≠ c))

theorem Moved.forest {target : Option NodeId} (moved : Moved d d' target c place) (forest : d.Forest)
    (current : d.Current c) (received : ∀ p ∈ target, Receives d p c place) : d'.Forest := by
  have parents : ∀ m, d.Current m → m ≠ c → d'.parent? m = d.parent? m := by
    intro m there other
    rw [moved.parent m there,if_neg other]
  have upward : d'.parent? c = target := by rw [moved.parent c current,if_pos rfl]
  have top : d'.Grounded c := by
    cases target with
    | none => exact .top upward
    | some p =>
      obtain ⟨parent,free,_⟩ := received p rfl
      refine .under upward ((forest.grounded parent).transfer fun m above => ?_)
      refine parents m (forest.above parent above) ?_
      rintro rfl
      exact free above
  refine ⟨?_,?_,?_,?_,?_,by rw [moved.free]; exact forest.single⟩
  · intro q x there child
    rw [moved.current] at there ⊢
    rw [moved.children q there] at child
    have old : x ∈ (d.children q).filter (· ≠ c) → d.Current x ∧ d'.parent? x = some q := by
      intro inside
      rw [List.mem_filter,decide_eq_true_eq] at inside
      obtain ⟨current,linked⟩ := forest.down there inside.1
      exact ⟨current,by rw [parents x current inside.2,linked]⟩
    split at child
    · rename_i here
      rcases (received q here).2.2.mem.mp child with rfl | inside
      · exact ⟨current,upward.trans here⟩
      · exact old inside
    · exact old child
  · intro x q there linked
    rw [moved.current] at there ⊢
    by_cases same : x = c
    · subst same
      have here := upward.symm.trans linked
      obtain ⟨parent,_,inserts⟩ := received q here
      refine ⟨parent,?_⟩
      rw [moved.children q parent,if_pos here]
      exact inserts.mem.mpr (.inl rfl)
    · rw [parents x there same] at linked
      obtain ⟨current,child⟩ := forest.up there linked
      refine ⟨current,?_⟩
      rw [moved.children q current]
      have inside : x ∈ (d.children q).filter (· ≠ c) := List.mem_filter.mpr ⟨child,decide_eq_true same⟩
      split
      · rename_i here
        exact (received q here).2.2.mem.mpr (.inr inside)
      · exact inside
  · intro q there
    rw [moved.current] at there
    rw [moved.children q there]
    have once := (forest.once there).filter (fun x => decide (x ≠ c))
    split
    · rename_i here
      exact (received q here).2.2.nodup once (by simp)
    · exact once
  · intro x there
    rw [moved.current] at there
    induction forest.grounded there with
    | @top x none =>
      by_cases same : x = c
      · exact same ▸ top
      · exact .top (by rw [parents x there same,none])
    | @under x q linked _ ih =>
      by_cases same : x = c
      · exact same ▸ top
      · exact .under (by rw [parents x there same,linked]) (ih (forest.up there linked).1)
  · intro i inside
    rw [moved.free] at inside
    rw [moved.vacant]
    exact forest.vacant i inside

theorem wouldCycle_iff (forest : d.Forest) (current : d.Current p) : d.wouldCycle p c = true ↔ d.Above c p := by
  rw [wouldCycle,List.contains_iff_mem,forest.mem_ancestors current]

theorem areLive_detach (parent : d.Current p) (current : d.Current c) : (d.detach c).areLive p c = true := by
  simp [areLive,detach_node?,parent.node?,current.node?]

theorem inserts_last (c : NodeId) (l : List NodeId) : Inserts (· ++ [c]) c l := ⟨l,[],by simp,rfl⟩
theorem inserts_first (c : NodeId) (l : List NodeId) : Inserts (c :: ·) c l := ⟨[],l,rfl,rfl⟩

theorem appendChild_moved (forest : d.Forest) (parent : d.Current p) (current : d.Current c) (free : ¬ d.Above c p) :
    Moved d (d.appendChild p c) (some p) c (· ++ [c]) := by
  have apart : p ≠ c := by
    rintro rfl
    exact free (.refl _)
  have moved := link_moved forest parent current apart (· ++ [c])
  rw [← wouldCycle_iff forest parent] at free
  unfold appendChild
  rw [if_neg free]
  dsimp only
  rw [if_pos (areLive_detach parent current)]
  exact moved

theorem prependChild_moved (forest : d.Forest) (parent : d.Current p) (current : d.Current c) (free : ¬ d.Above c p) :
    Moved d (d.prependChild p c) (some p) c (c :: ·) := by
  have apart : p ≠ c := by
    rintro rfl
    exact free (.refl _)
  have moved := link_moved forest parent current apart (c :: ·)
  rw [← wouldCycle_iff forest parent] at free
  unfold prependChild
  rw [if_neg free]
  dsimp only
  rw [if_pos (areLive_detach parent current)]
  exact moved

theorem inserts_after (beside : n ∈ l) (slots : ∀ x ∈ l, x.slot = n.slot → x = n) (c : NodeId) :
    Inserts (placeAfter n c) c l := by
  induction l with
  | nil => cases beside
  | cons x more ih =>
    by_cases same : x.slot = n.slot
    · exact ⟨[x],more,rfl,by simp [placeAfter,same]⟩
    · have later : n ∈ more := by
        rcases List.mem_cons.mp beside with rfl | later
        · exact absurd rfl same
        · exact later
      obtain ⟨before,after,whole,placed⟩ := ih later fun y inside => slots y (List.mem_cons_of_mem x inside)
      refine ⟨x :: before,after,by rw [whole,List.cons_append],?_⟩
      rw [placeAfter,if_neg same,placed,List.cons_append]

theorem insertAfter_moved (forest : d.Forest) (current : d.Current c) (beside : d.Current n) (linked : d.parent? n = some p)
    (free : ¬ d.Above c n) : Moved d (d.insertAfter n c) (some p) c (placeAfter n c) ∧ Receives d p c (placeAfter n c) := by
  have apart : n ≠ c := by
    rintro rfl
    exact free (.refl _)
  obtain ⟨parent,child⟩ := forest.up beside linked
  have above : ¬ d.Above c p := fun above => free (.of_parent linked above)
  have distinct : p ≠ c := by
    rintro rfl
    exact above (.refl _)
  refine ⟨?_,parent,above,inserts_after ?_ ?_ c⟩
  · have moved := link_moved forest parent current distinct (placeAfter n c)
    have upward := (detach_moved forest current (placeAfter n c)).parent n beside
    rw [if_neg apart,linked] at upward
    rw [← wouldCycle_iff forest beside] at free
    unfold insertAfter
    rw [if_neg free]
    dsimp only
    rw [if_pos (areLive_detach beside current),upward]
    exact moved
  · exact List.mem_filter.mpr ⟨child,decide_eq_true apart⟩
  · intro x inside slot
    exact (forest.down parent (List.mem_filter.mp inside).1).1.same beside slot

-- A move is carried out, or passed over where it would close a circle.
theorem appendChild_cases (forest : d.Forest) (parent : d.Current p) (current : d.Current c) : d.appendChild p c = d ∨
    Moved d (d.appendChild p c) (some p) c (· ++ [c]) ∧ Receives d p c (· ++ [c]) := by
  by_cases above : d.Above c p
  · exact .inl (if_pos ((wouldCycle_iff forest parent).mpr above))
  · exact .inr ⟨appendChild_moved forest parent current above,parent,above,inserts_last _ _⟩

theorem prependChild_cases (forest : d.Forest) (parent : d.Current p) (current : d.Current c) : d.prependChild p c = d ∨
    Moved d (d.prependChild p c) (some p) c (c :: ·) ∧ Receives d p c (c :: ·) := by
  by_cases above : d.Above c p
  · exact .inl (if_pos ((wouldCycle_iff forest parent).mpr above))
  · exact .inr ⟨prependChild_moved forest parent current above,parent,above,inserts_first _ _⟩

-- Beside a node without a parent there is no place, and what has no parent stays alone.
theorem insertAfter_cases (forest : d.Forest) (current : d.Current c) (beside : d.Current n) (top : d.parent? c = none) :
    d.insertAfter n c = d ∨ ∃ p, d.parent? n = some p ∧
      Moved d (d.insertAfter n c) (some p) c (placeAfter n c) ∧ Receives d p c (placeAfter n c) := by
  by_cases above : d.Above c n
  · exact .inl (if_pos ((wouldCycle_iff forest beside).mpr above))
  · cases linked : d.parent? n with
    | none =>
      have resting : d.detach c = d := by rw [detach,top]
      rw [← wouldCycle_iff forest beside] at above
      rw [insertAfter,if_neg above,resting]
      simp [linked]
    | some p => exact .inr ⟨p,rfl,insertAfter_moved forest current beside linked above⟩

-- A move takes no node out of the store, whether it is carried out or passed over.
theorem appendChild_current (d : Dom) (p c m : NodeId) : (d.appendChild p c).Current m ↔ d.Current m := by
  unfold appendChild
  split
  · rfl
  · dsimp only
    split
    · rw [link,update_current,update_current,detach_current]
      all_goals exact fun _ => ⟨rfl,rfl⟩
    · exact detach_current c

theorem insertAfter_current (d : Dom) (n c m : NodeId) : (d.insertAfter n c).Current m ↔ d.Current m := by
  unfold insertAfter
  split
  · rfl
  · dsimp only
    split
    · split
      · rw [link,update_current,update_current,detach_current]
        all_goals exact fun _ => ⟨rfl,rfl⟩
      · exact detach_current c
    · exact detach_current c

-- Nobody above a node that the moved one is not above is concerned.
theorem Moved.above {target : Option NodeId} (moved : Moved d d' target c place) (forest : d.Forest) (there : d.Current n)
    (clear : ¬ d.Above c n) : d'.Above a n ↔ d.Above a n := by
  have same : ∀ m, d.Current m ∧ ¬ d.Above c m → d'.parent? m = d.parent? m := by
    rintro m ⟨there,outside⟩
    rw [moved.parent m there,if_neg]
    rintro rfl
    exact outside (.refl _)
  refine above_congr same ?_ ⟨there,clear⟩
  intro m q holds linked
  rw [same m holds] at linked
  exact ⟨(forest.up holds.1 linked).1,fun upper => holds.2 (.of_parent linked upper)⟩

theorem Moved.receives (moved : Moved d d' (some p) c place) (forest : d.Forest) (current : d.Current c)
    (received : Receives d p c place) : d'.Forest := by
  refine moved.forest forest current fun q here => ?_
  cases here
  exact received

end StyleTrim.Dom
