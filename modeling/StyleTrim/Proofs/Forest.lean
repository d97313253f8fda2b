import Mathlib.Data.List.Perm.Subperm
import StyleTrim.Dom.Edit
namespace StyleTrim.Dom
-- The links of a store form a forest, and every edit keeps it one. What an edit does is told once,
-- by what it leaves of the payload, the parent and the children of each node that is there.

-- A node that is there, under its present name.
def Current (d : Dom) (n : NodeId) : Prop := ∃ s, d.slot? n = some s ∧ s.live = true ∧ s.stamp = n.stamp

-- Whether something is in a slot, if there is such a slot.
def lives? (d : Dom) (i : Nat) : Option Bool := (d.slots[i]?).map (·.live)

-- The way up from a node comes to an end.
inductive Grounded (d : Dom) : NodeId → Prop where
  | top {n : NodeId} : d.parent? n = none → Grounded d n
  | under {n p : NodeId} : d.parent? n = some p → Grounded d p → Grounded d n

structure Forest (d : Dom) : Prop where
  down : ∀ {p c}, d.Current p → c ∈ d.children p → d.Current c ∧ d.parent? c = some p
  up : ∀ {c p}, d.Current c → d.parent? c = some p → d.Current p ∧ c ∈ d.children p
  once : ∀ {p}, d.Current p → (d.children p).Nodup
  grounded : ∀ {n}, d.Current n → d.Grounded n
  vacant : ∀ i ∈ d.free, d.lives? i = some false
  single : d.free.Nodup

-- `a` is reached from `n` by going up `k` times.
def Steps (d : Dom) : Nat → NodeId → NodeId → Prop
  | 0, a, n => a = n
  | k + 1, a, n => ∃ p, d.parent? n = some p ∧ d.Steps k a p

def Above (d : Dom) (a n : NodeId) : Prop := ∃ k, d.Steps k a n

variable {d d' : Dom} {a b c m n p q : NodeId} {i k h : Nat} {s t : Slot} {payload : Payload}
  {place : List NodeId → List NodeId}

theorem Current.same (one : d.Current m) (other : d.Current n) (slot : m.slot = n.slot) : m = n := by
  obtain ⟨s,found,_,stamp⟩ := one
  obtain ⟨t,again,_,stamp'⟩ := other
  have equal : s = t := by
    rw [slot?,slot] at found
    exact Option.some.inj (found.symm.trans again)
  cases m; cases n
  simp_all

theorem Current.node? (current : d.Current n) : (d.node? n).isSome := by
  obtain ⟨s,found,live,_⟩ := current
  simp [Dom.node?,found,live]

theorem Current.lt (current : d.Current n) : n.slot < d.slots.size := by
  obtain ⟨s,found,_⟩ := current
  exact (Array.getElem?_eq_some_iff.mp found).1

theorem isCurrent_iff : d.isCurrent n = true ↔ d.Current n := by
  simp only [isCurrent,Current,Option.any_eq_true,Bool.and_eq_true,beq_iff_eq]

theorem Above.refl (n : NodeId) : d.Above n n := ⟨0,rfl⟩

theorem Above.of_parent (linked : d.parent? n = some p) (above : d.Above a p) : d.Above a n := by
  obtain ⟨k,steps⟩ := above
  exact ⟨k + 1,p,linked,steps⟩

theorem Above.cases (above : d.Above a n) : a = n ∨ ∃ p, d.parent? n = some p ∧ d.Above a p := by
  obtain ⟨k,steps⟩ := above
  cases k with
  | zero => exact .inl steps
  | succ k =>
    obtain ⟨p,linked,more⟩ := steps
    exact .inr ⟨p,linked,k,more⟩

theorem Steps.append (upper : d.Steps k a b) (lower : d.Steps h b n) : d.Steps (h + k) a n := by
  induction h generalizing n with
  | zero =>
    cases lower
    simpa using upper
  | succ h ih =>
    obtain ⟨p,linked,more⟩ := lower
    rw [Nat.add_right_comm]
    exact ⟨p,linked,ih more⟩

theorem Above.trans (upper : d.Above a b) (lower : d.Above b n) : d.Above a n := by
  obtain ⟨k,upper⟩ := upper
  obtain ⟨h,lower⟩ := lower
  exact ⟨h + k,upper.append lower⟩

-- Nodes that have the same parents in both stores, and only such parents, are below the same nodes.
theorem above_congr {P : NodeId → Prop} (same : ∀ m, P m → d'.parent? m = d.parent? m)
    (upward : ∀ m p, P m → d'.parent? m = some p → P p) (holds : P n) : d'.Above a n ↔ d.Above a n := by
  constructor
  · rintro ⟨k,steps⟩
    induction k generalizing n with
    | zero =>
      cases steps
      exact .refl a
    | succ k ih =>
      obtain ⟨p,linked,more⟩ := steps
      refine .of_parent ?_ (ih (upward n p holds linked) more)
      rw [← same n holds,linked]
  · rintro ⟨k,steps⟩
    induction k generalizing n with
    | zero =>
      cases steps
      exact .refl a
    | succ k ih =>
      obtain ⟨p,linked,more⟩ := steps
      rw [← same n holds] at linked
      exact .of_parent linked (ih (upward n p holds linked) more)

theorem Steps.last : d.Steps (k + 1) a n ↔ ∃ c, d.Steps k c n ∧ d.parent? c = some a := by
  induction k generalizing n with
  | zero =>
    constructor
    · rintro ⟨p,linked,rfl⟩; exact ⟨n,rfl,linked⟩
    · rintro ⟨c,rfl,linked⟩; exact ⟨a,linked,rfl⟩
  | succ k ih =>
    constructor
    · rintro ⟨p,linked,more⟩
      obtain ⟨c,steps,top⟩ := ih.mp more
      exact ⟨c,⟨p,linked,steps⟩,top⟩
    · rintro ⟨c,⟨p,linked,steps⟩,top⟩
      exact ⟨p,linked,ih.mpr ⟨c,steps,top⟩⟩

theorem Grounded.acyclic (grounded : d.Grounded n) (linked : d.parent? n = some p) : ¬ d.Above n p := by
  induction grounded generalizing p with
  | top none => rw [none] at linked; cases linked
  | @under n q up _ ih =>
    cases Option.some.inj (up.symm.trans linked)
    intro above
    rcases above.cases with same | ⟨r,further,above⟩
    · subst same
      exact ih linked (.refl _)
    · exact ih further ((Above.of_parent linked (.refl q)).trans above)

theorem Forest.steps (forest : d.Forest) (current : d.Current n) (steps : d.Steps k a n) : d.Current a := by
  induction k generalizing n with
  | zero => cases steps; exact current
  | succ k ih =>
    obtain ⟨p,linked,more⟩ := steps
    exact ih (forest.up current linked).1 more

theorem Forest.above (forest : d.Forest) (current : d.Current n) (above : d.Above a n) : d.Current a := by
  obtain ⟨k,steps⟩ := above
  exact forest.steps current steps

-- The slots on a way up are all different, so that no way is longer than there are slots.
theorem Forest.way (forest : d.Forest) (current : d.Current n) (steps : d.Steps k a n) :
    ∃ way : List Nat, way.length = k + 1 ∧ way.Nodup ∧ ∀ i ∈ way, i < d.slots.size ∧
      ∃ m, d.Above m n ∧ d.Current m ∧ m.slot = i := by
  induction k generalizing n with
  | zero =>
    refine ⟨[n.slot],rfl,by simp,?_⟩
    intro i inside
    cases List.mem_singleton.mp inside
    exact ⟨current.lt,n,.refl n,current,rfl⟩
  | succ k ih =>
    obtain ⟨p,linked,more⟩ := steps
    obtain ⟨way,length,once,bounds⟩ := ih (forest.up current linked).1 more
    refine ⟨n.slot :: way,by rw [List.length_cons,length],List.nodup_cons.mpr ⟨?_,once⟩,?_⟩
    · intro again
      obtain ⟨_,m,above,there,slot⟩ := bounds _ again
      cases there.same current slot
      exact (forest.grounded current).acyclic linked above
    · intro i inside
      rcases List.mem_cons.mp inside with rfl | later
      · exact ⟨current.lt,n,.refl n,current,rfl⟩
      · obtain ⟨bound,m,above,there,slot⟩ := bounds i later
        exact ⟨bound,m,.of_parent linked above,there,slot⟩

theorem Forest.steps_lt (forest : d.Forest) (current : d.Current n) (steps : d.Steps k a n) : k < d.slots.size := by
  obtain ⟨way,length,once,bounds⟩ := forest.way current steps
  have within : way ⊆ List.range d.slots.size := fun i inside => List.mem_range.mpr (bounds i inside).1
  have short := (once.subperm within).length_le
  rw [length,List.length_range] at short
  exact short

theorem mem_above : a ∈ d.above h n ↔ ∃ k < h, d.Steps k a n := by
  induction h generalizing n with
  | zero => simp [above]
  | succ h ih =>
    rw [above,List.mem_cons]
    constructor
    · rintro (rfl | later)
      · exact ⟨0,Nat.succ_pos h,rfl⟩
      · split at later
        · rename_i p linked
          obtain ⟨k,bound,steps⟩ := ih.mp later
          exact ⟨k + 1,Nat.succ_lt_succ bound,p,linked,steps⟩
        · cases later
    · rintro ⟨k,bound,steps⟩
      cases k with
      | zero => exact .inl steps
      | succ k =>
        obtain ⟨p,linked,more⟩ := steps
        right
        rw [linked]
        exact ih.mpr ⟨k,Nat.lt_of_succ_lt_succ bound,more⟩

theorem Forest.mem_ancestors (forest : d.Forest) (current : d.Current n) : a ∈ d.ancestors n ↔ d.Above a n := by
  rw [ancestors,mem_above]
  constructor
  · rintro ⟨k,_,steps⟩; exact ⟨k,steps⟩
  · rintro ⟨k,steps⟩
    exact ⟨k,Nat.lt_succ_of_lt (forest.steps_lt current steps),steps⟩

theorem Forest.mem_below (forest : d.Forest) (current : d.Current a) :
    n ∈ d.below h a ↔ d.Current n ∧ ∃ k < h, d.Steps k a n := by
  induction h generalizing a with
  | zero => simp [below]
  | succ h ih =>
    rw [below,List.mem_cons,List.mem_flatMap]
    constructor
    · rintro (rfl | ⟨c,child,deeper⟩)
      · exact ⟨current,0,Nat.succ_pos h,rfl⟩
      · obtain ⟨there,linked⟩ := forest.down current child
        obtain ⟨current,k,bound,steps⟩ := (ih there).mp deeper
        exact ⟨current,k + 1,Nat.succ_lt_succ bound,Steps.last.mpr ⟨c,steps,linked⟩⟩
    · rintro ⟨there,k,bound,steps⟩
      cases k with
      | zero => exact .inl steps.symm
      | succ k =>
        obtain ⟨c,steps,linked⟩ := Steps.last.mp steps
        have child := forest.up (forest.steps there steps) linked
        exact .inr ⟨c,child.2,(ih (forest.steps there steps)).mpr ⟨there,k,Nat.lt_of_succ_lt_succ bound,steps⟩⟩

theorem Forest.mem_descendants (forest : d.Forest) (current : d.Current a) :
    n ∈ d.descendants a ↔ d.Current n ∧ d.Above a n := by
  rw [descendants,forest.mem_below current]
  constructor
  · rintro ⟨there,k,_,steps⟩; exact ⟨there,k,steps⟩
  · rintro ⟨there,k,steps⟩
    exact ⟨there,k,Nat.lt_succ_of_lt (forest.steps_lt there steps),steps⟩

theorem Forest.mem_elementsUnder (forest : d.Forest) (current : d.Current a) :
    n ∈ d.elementsUnder a ↔ (d.Current n ∧ d.Above a n) ∧ d.isElement n = true := by
  rw [elementsUnder,List.mem_filter,forest.mem_descendants current]

theorem Forest.attached (forest : d.Forest) (current : d.Current n) (above : d.Above root n) : d.isAttached n = true := by
  rw [isAttached,current.node?,List.contains_iff_mem.mpr ((forest.mem_ancestors current).mpr above)]
  rfl

end StyleTrim.Dom
