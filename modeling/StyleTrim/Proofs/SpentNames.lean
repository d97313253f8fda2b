import StyleTrim.Proofs.Histories
namespace StyleTrim.Dom
open Text
variable {d d' d₁ d₂ : Dom} {a c m n p taker : NodeId} {e : Edit}

-- What becomes of the name of a node that was removed. It never names a node again; but it is looked up by its place,
-- so that it does harm once the place was given out again, and to whatever is to be moved next to it.

theorem dead_slot (dead : d.node? n = none) (current : d.Current m) : n.slot ≠ m.slot := by
  intro same
  have there := current.node?
  rw [node?,slot?,← same,← slot?,← node?,dead] at there
  cases there

-- A name that was given to some node, which may be there or not.
def Given (d : Dom) (n : NodeId) : Prop := ∃ s, d.slot? n = some s ∧ n.stamp ≤ s.stamp

-- The name of a node that was removed.
def Gone (d : Dom) (n : NodeId) : Prop := d.Given n ∧ ¬ d.Current n

theorem Current.given (current : d.Current n) : d.Given n := by
  obtain ⟨s,found,_,stamp⟩ := current
  exact ⟨s,found,Nat.le_of_eq stamp.symm⟩

-- What comes after an edit: no count goes back, and what is dead stays so under the same count.
def Later (d d' : Dom) : Prop := ∀ n s, d.slot? n = some s →
  ∃ s', d'.slot? n = some s' ∧ s.stamp ≤ s'.stamp ∧ (s'.stamp = s.stamp → s'.live = true → s.live = true)

theorem Later.refl (d : Dom) : Later d d := fun _ s found => ⟨s,found,Nat.le_refl _,fun _ live => live⟩

theorem Later.trans (one : Later d d₁) (other : Later d₁ d₂) : Later d d₂ := by
  intro n s found
  obtain ⟨s₁,found₁,above₁,dead₁⟩ := one n s found
  obtain ⟨s₂,found₂,above₂,dead₂⟩ := other n s₁ found₁
  refine ⟨s₂,found₂,Nat.le_trans above₁ above₂,fun same live => ?_⟩
  have middle : s₁.stamp = s.stamp := Nat.le_antisymm (same ▸ above₂) above₁
  exact dead₁ middle (dead₂ (same.trans middle.symm) live)

theorem Later.given (later : Later d d') (given : d.Given n) : d'.Given n := by
  obtain ⟨s,found,stamp⟩ := given
  obtain ⟨s',found',above,_⟩ := later n s found
  exact ⟨s',found',Nat.le_trans stamp above⟩

theorem Later.gone (later : Later d d') (gone : d.Gone n) : d'.Gone n := by
  refine ⟨later.given gone.1,?_⟩
  rintro ⟨s',found',live',stamp'⟩
  obtain ⟨s,found,stamp⟩ := gone.1
  obtain ⟨s'',again,above,dead⟩ := later n s found
  cases found'.symm.trans again
  have same : s'.stamp = s.stamp := Nat.le_antisymm (stamp' ▸ stamp) above
  exact gone.2 ⟨s,found,dead same live',same.symm.trans stamp'⟩

-- The edits that put a node next to another one.
def moves (anchor id : NodeId) : List Edit := [.append anchor id,.prepend anchor id,.after anchor id]

-- A move does nothing, or it takes the node away from where it is and may put it somewhere else.
theorem move_cases (d : Dom) (moved : e ∈ moves p c) :
    e.apply d = d ∨ e.apply d = d.detach c ∨ ∃ q place, e.apply d = (d.detach c).link q c place := by
  simp only [moves,List.mem_cons,List.not_mem_nil,or_false] at moved
  cases cycle : d.wouldCycle p c with
  | true =>
    rcases moved with rfl | rfl | rfl
    all_goals exact .inl (if_pos cycle)
  | false =>
    refine .inr ?_
    cases live : (d.detach c).areLive p c with
    | false =>
      rcases moved with rfl | rfl | rfl
      all_goals exact .inl (by simp [Edit.apply,appendChild,prependChild,insertAfter,cycle,live])
    | true =>
      rcases moved with rfl | rfl | rfl
      · exact .inr ⟨p,(· ++ [c]),by simp [Edit.apply,appendChild,cycle,live]⟩
      · exact .inr ⟨p,(c :: ·),by simp [Edit.apply,prependChild,cycle,live]⟩
      · cases linked : (d.detach c).parent? p with
        | none => exact .inl (by simp [Edit.apply,insertAfter,cycle,live,linked])
        | some q => exact .inr ⟨q,placeAfter p c,by simp [Edit.apply,insertAfter,cycle,live,linked]⟩

theorem update_later {f : Slot → Slot} (keeps : ∀ s, (f s).stamp = s.stamp ∧ ((f s).live = true → s.live = true)) (d : Dom)
    (n : NodeId) : Later d (d.update n f) := by
  intro m s found
  rw [update_slot?,found]
  split
  · exact ⟨f s,rfl,Nat.le_of_eq (keeps s).1.symm,fun _ => (keeps s).2⟩
  · exact ⟨s,rfl,Nat.le_refl _,fun _ live => live⟩

-- A place that is given out again counts one more.
theorem create_later (d : Dom) (payload : Payload) : Later d (d.create payload).1 := by
  intro m s found
  rw [slot?] at found
  unfold create
  split
  · rename_i slot free _
    dsimp only
    rw [slot?,Array.getElem?_modify]
    split
    · rename_i same
      rw [same,found]
      exact ⟨_,rfl,Nat.le_succ _,fun again => absurd again (Nat.succ_ne_self _)⟩
    · exact ⟨s,found,Nat.le_refl _,fun _ live => live⟩
  · have inside := (Array.getElem?_eq_some_iff.mp found).1
    refine ⟨s,?_,Nat.le_refl _,fun _ live => live⟩
    rw [slot?,Array.getElem?_push,if_neg (Nat.ne_of_lt inside),found]

theorem foldl_later {α : Type} {f : Dom → α → Dom} (step : ∀ d x, Later d (f d x)) (l : List α) (d : Dom) :
    Later d (l.foldl f d) := by
  induction l generalizing d with
  | nil => exact .refl d
  | cons x more ih => exact (step d x).trans (ih _)

theorem detach_later (d : Dom) (n : NodeId) : Later d (d.detach n) := by
  unfold detach
  split
  · exact .refl d
  · refine (update_later ?_ _ _).trans (update_later ?_ _ _)
    all_goals exact fun _ => ⟨rfl,id⟩

theorem link_later (d : Dom) (p c : NodeId) (place : List NodeId → List NodeId) : Later d (d.link p c place) := by
  refine (update_later ?_ _ _).trans (update_later ?_ _ _)
  all_goals exact fun _ => ⟨rfl,id⟩

theorem move_later (d : Dom) (moved : e ∈ moves p c) : Later d (e.apply d) := by
  rcases move_cases d moved with same | same | ⟨q,place,same⟩ <;> rw [same]
  · exact .refl d
  · exact detach_later d c
  · exact (detach_later d c).trans (link_later _ q c place)

theorem appendChild_later (d : Dom) (p c : NodeId) : Later d (d.appendChild p c) :=
  move_later d (e := .append p c) List.mem_cons_self

theorem freeSlot_later (d : Dom) (n : NodeId) : Later d (d.freeSlot n) := by
  intro m s found
  rw [freeSlot_slot?,found]
  refine ⟨_,rfl,?_⟩
  split
  · exact ⟨Nat.le_refl _,fun _ => nofun⟩
  · exact ⟨Nat.le_refl _,fun _ live => live⟩

theorem removeSubtree_later (d : Dom) (n : NodeId) : Later d (d.removeSubtree n) :=
  (detach_later d n).trans (foldl_later freeSlot_later _ _)

theorem cloneTo_later (h : Nat) (d : Dom) (n : NodeId) : Later d (d.cloneTo n h).1 := by
  induction h generalizing d n with
  | zero => exact .refl d
  | succ h ih =>
    rw [cloneTo]
    split
    · exact .refl d
    · refine (create_later d _).trans (foldl_later (fun d c => ?_) _ _)
      have copied := ih d c
      split <;> rename_i same <;> rw [same] at copied
      · exact copied.trans (link_later _ _ _ _)
      · exact copied

theorem edit_later (d : Dom) (e : Edit) : Later d (e.apply d) := by
  have painted (n : NodeId) (f : List Attribute → List Attribute) : Later d (d.editAttributes n f) := by
    refine update_later (fun s => ⟨s.painted_stamp f,fun live => ?_⟩) d n
    rwa [Slot.painted_live] at live
  cases e with
  | create payload => exact create_later d payload
  | append p c => exact appendChild_later d p c
  | prepend p c => exact move_later (p := p) (c := c) d (by simp [moves])
  | after n c => exact move_later (p := n) (c := c) d (by simp [moves])
  | wrap p wrapper => exact (foldl_later (fun d c => appendChild_later d wrapper c) _ d).trans (appendChild_later _ p wrapper)
  | remove n =>
    show Later d (d.remove n)
    unfold remove
    split
    · exact removeSubtree_later d n
    · exact .refl d
  | setAttribute n name value => exact painted n _
  | removeAttribute n name => exact painted n _
  | addClass n name =>
    show Later d (d.addClass n name)
    unfold addClass
    split
    · exact .refl d
    · exact painted n _
  | setText n value =>
    exact (foldl_later removeSubtree_later _ d).trans ((create_later _ _).trans (appendChild_later _ n _))
  | clone n => exact cloneTo_later d.height d n

theorem result_apply (result : e.result? d = some d') : d' = e.apply d := by
  unfold Edit.result? at result
  split at result
  · exact (Option.some.inj result).symm
  · cases result

theorem edits_later {es : List Edit} (result : es.foldlM Edit.result? d = some d') : Later d d' := by
  induction es generalizing d with
  | nil =>
    cases result
    exact .refl _
  | cons e more ih =>
    rw [List.foldlM_cons] at result
    obtain ⟨d₁,first,rest⟩ := Option.bind_eq_some_iff.mp result
    rw [result_apply first] at rest
    exact (edit_later d e).trans (ih rest)

-- The place of a removed node is empty, or there is a node in it that came later.
theorem Gone.place (gone : d.Gone n) :
    d.node? n = none ∨ ∃ taker, d.Current taker ∧ taker.slot = n.slot ∧ n.stamp < taker.stamp := by
  obtain ⟨⟨s,found,stamp⟩,other⟩ := gone
  cases live : s.live with
  | false => exact .inl (by simp [node?,found,live])
  | true =>
    refine .inr ⟨⟨n.slot,s.stamp⟩,⟨s,found,live,rfl⟩,rfl,Nat.lt_of_le_of_ne stamp fun same => ?_⟩
    exact other ⟨s,found,live,same.symm⟩

-- The name of a node that is there, or of none.
def Known (d : Dom) (n : NodeId) : Prop := d.Current n ∨ d.node? n = none

theorem Known.here (known : d.Known n) (there : (d.node? n).isSome) : d.Current n := by
  rcases known with current | none
  · exact current
  · rw [none] at there
    cases there

-- A name that is known and can be moved: what is not there has no parent.
def Movable (d : Dom) (n : NodeId) : Prop := d.Current n ∨ d.node? n = none ∧ d.parent? n = none

theorem Known.movable (known : d.Known n) (loose : d.isLoose n = true) : d.Movable n := by
  rcases known with current | dead
  · exact .inl current
  · refine .inr ⟨dead,?_⟩
    obtain ⟨s,found,holds⟩ := (Option.any_eq_true _ _).mp loose
    rw [node?,found] at dead
    cases live : s.live <;> simp_all [parent?]

theorem detach_lone (top : d.parent? n = none) : d.detach n = d := by rw [detach,top]

theorem Movable.known (movable : d.Movable n) : d.Known n := movable.imp_right And.left

theorem Movable.detach (movable : d.Movable n) (forest : d.Forest) : (d.detach n).Forest := by
  rcases movable with current | ⟨_,top⟩
  · exact detach_forest forest current
  · rw [detach_lone top]
    exact forest

-- A node that cannot be put next to the other one is taken away from where it is for all that.
theorem move_refused (refused : d.areLive p c = false) (moved : e ∈ moves p c) :
    e.apply d = if d.wouldCycle p c then d else d.detach c := by
  have still : (d.detach c).areLive p c = false := by rw [areLive,detach_node?,detach_node?,← areLive,refused]
  simp only [moves,List.mem_cons,List.not_mem_nil,or_false] at moved
  rcases moved with rfl | rfl | rfl
  all_goals
    simp only [Edit.apply,appendChild,prependChild,insertAfter,still]
    rfl

theorem move_forest (forest : d.Forest) (known : d.Known p) (movable : d.Movable c) (moved : e ∈ moves p c) :
    (e.apply d).Forest := by
  cases live : d.areLive p c with
  | false =>
    rw [move_refused live moved]
    split
    · exact forest
    · exact movable.detach forest
  | true =>
    rw [areLive,Bool.and_eq_true] at live
    have there := known.here live.1
    have current := movable.known.here live.2
    simp only [moves,List.mem_cons,List.not_mem_nil,or_false] at moved
    rcases moved with rfl | rfl | rfl
    · exact appendChild_forest forest there current
    · exact prependChild_forest forest there current
    · exact insertAfter_forest forest there current

theorem remove_dead (dead : d.node? n = none) : d.remove n = d := by simp [remove,dead]

-- The place that is given out next.
def nextPlace (d : Dom) : Nat := d.free.head?.getD d.slots.size

theorem create_place (forest : d.Forest) (payload : Payload) : (d.create payload).2.slot = d.nextPlace :=
  (create_created forest payload).slot

theorem putText_forest (forest : d.Forest) (payload : Payload) (known : (d.create payload).1.Known n) :
    ((d.create payload).1.appendChild n (d.create payload).2).Forest := by
  have new := ((create_created forest payload).current (d.create payload).2).mpr (.inr rfl)
  exact move_forest (create_forest forest payload) known (.inl new) (e := .append n _) List.mem_cons_self

-- A store in which every node that was there is as it was and where it was.
def Unharmed (d d' : Dom) : Prop := ∀ m, d.Current m → d'.slot? m = d.slot? m

-- A text for a removed node is put nowhere, or, if it got the place of that node, under itself.
theorem putText_unharmed (forest : d.Forest) (dead : d.node? n = none) (payload : Payload) :
    Unharmed d ((d.create payload).1.appendChild n (d.create payload).2) := by
  have alone := detach_lone (create_created forest payload).newParent
  intro m there
  have other := create_fresh forest payload there
  have apart := dead_slot dead there
  have same : (d.create payload).1.slot? m = d.slot? m := by rw [create_slot? forest payload,if_neg other]
  unfold appendChild
  split
  · exact same
  · rw [alone]
    dsimp only
    split
    · rw [link,update_slot?,update_slot?,if_neg other,if_neg apart,same]
    · exact same

theorem setText_lone (empty : d.children n = []) (value : Text) :
    d.setText n value = (d.create (.text value)).1.appendChild n (d.create (.text value)).2 := by
  rw [setText,empty]
  rfl

-- What is not there and has no children of its own lists none.
theorem lists_none (dead : d.node? n = none) (own : d.hasOwnChildren n = true) : d.children n = [] := by
  obtain ⟨s,found,holds⟩ := (Option.any_eq_true _ _).mp own
  rw [node?,found] at dead
  cases live : s.live <;> simp_all [children]

theorem setText_forest (forest : d.Forest) (known : d.Known n) (own : d.hasOwnChildren n = true) (apart : n.slot ≠ d.nextPlace)
    (value : Text) : (d.setText n value).Forest := by
  rcases known with current | dead
  · exact (setText_retold forest current value).forest
  · rw [setText_lone (lists_none dead own)]
    refine putText_forest forest (.text value) (.inr ?_)
    have place := create_place forest (.text value)
    rw [node?,create_slot? forest,if_neg (by rw [place]; exact Ne.symm apart),← node?,dead]

theorem appendChild_node? (d : Dom) (p c m : NodeId) : (d.appendChild p c).node? m = d.node? m := by
  unfold appendChild
  split
  · rfl
  · dsimp only
    split
    · rw [link,update_node?,update_node?,detach_node?]
      all_goals exact fun _ => ⟨rfl,rfl⟩
    · exact detach_node? d c m

theorem detach_parent? (d : Dom) (apart : c.slot ≠ m.slot) : (d.detach c).parent? m = d.parent? m := by
  unfold detach
  split
  · rfl
  · rw [parent?,update_slot?,if_neg apart,update_slot?,parent?]
    split
    · cases d.slot? m <;> rfl
    · rfl

theorem appendChild_parent? (d : Dom) (p : NodeId) (apart : c.slot ≠ m.slot) : (d.appendChild p c).parent? m = d.parent? m := by
  have parted := detach_parent? d apart
  unfold appendChild
  split
  · rfl
  · dsimp only
    split
    · rw [link,parent?,update_slot?,if_neg apart,update_slot?,← parted,parent?]
      split
      · cases (d.detach c).slot? m <;> rfl
      · rfl
    · exact parted

theorem appendChild_movable (movable : d.Movable m) (current : d.Current c) : (d.appendChild p c).Movable m := by
  rcases movable with there | ⟨dead,top⟩
  · exact .inl ((appendChild_current d p c m).mpr there)
  · refine .inr ⟨(appendChild_node? d p c m).trans dead,?_⟩
    rw [appendChild_parent? d p (dead_slot dead current).symm,top]

theorem gather_forest (l : List NodeId) (forest : d.Forest) (movable : d.Movable p) (current : ∀ c ∈ l, d.Current c) :
    (l.foldl (fun d child => d.appendChild p child) d).Forest ∧
      (l.foldl (fun d child => d.appendChild p child) d).Movable p ∧
      ∀ m, d.Current m → (l.foldl (fun d child => d.appendChild p child) d).Current m := by
  induction l generalizing d with
  | nil => exact ⟨forest,movable,fun _ there => there⟩
  | cons c more ih =>
    have here := current c List.mem_cons_self
    have first := move_forest forest movable.known (.inl here) (e := .append p c) List.mem_cons_self
    have kept : ∀ m, d.Current m → (d.appendChild p c).Current m := fun m => (appendChild_current d p c m).mpr
    obtain ⟨gathered,movable',stay⟩ := ih first (appendChild_movable movable here)
      fun x inside => kept x (current x (List.mem_cons_of_mem c inside))
    exact ⟨gathered,movable',fun m there => stay m (kept m there)⟩

theorem wrapChildren_forest (forest : d.Forest) (known : d.Known p) (own : d.hasOwnChildren p = true) (movable : d.Movable a) :
    (d.wrapChildren p a).Forest := by
  rcases known with there | dead
  · have told : ∀ c ∈ d.children p, d.Current c := fun c child => (forest.down there child).1
    obtain ⟨gathered,movable',stay⟩ := gather_forest (d.children p) forest movable told
    exact move_forest gathered (.inl (stay p there)) movable' (e := .append p a) List.mem_cons_self
  · have alone : d.wrapChildren p a = d.appendChild p a := by
      rw [wrapChildren,lists_none dead own]
      rfl
    rw [alone]
    exact move_forest forest (.inr dead) movable (e := .append p a) List.mem_cons_self

-- Edits are told names of nodes that are there, or of none. No text goes to a removed node whose place it would get.
def Fits (d : Dom) (e : Edit) : Prop :=
  (∀ n ∈ e.nodes, d.Known n) ∧ ∀ n value, e = .setText n value → n.slot ≠ d.nextPlace

-- The documents that come about by reading and by such edits.
inductive Used : Dom → Prop where
  | empty : Used empty
  | read (source : Text) : Used (read source)
  | edit {d d' : Dom} (e : Edit) : Used d → d.Fits e → e.result? d = some d' → Used d'

theorem fits_forest (forest : d.Forest) (fits : d.Fits e) (result : e.result? d = some d') : d'.Forest := by
  have founded : e.isFounded d = true := by
    by_contra broken
    rw [Edit.result?,if_neg broken] at result
    cases result
  obtain ⟨known,apart⟩ := fits
  have move (p c : NodeId) (moved : e ∈ moves p c) (first : d.Known p) (second : d.Known c)
      (found : ((d.slot? p).isSome && d.isLoose c) = true) : (e.apply d).Forest :=
    move_forest forest first (second.movable (Bool.and_eq_true_iff.mp found).2) moved
  rw [result_apply result]
  cases e with
  | create payload => exact create_forest forest payload
  | append p c => exact move p c (by simp [moves]) (known p (by simp [Edit.nodes])) (known c (by simp [Edit.nodes])) founded
  | prepend p c => exact move p c (by simp [moves]) (known p (by simp [Edit.nodes])) (known c (by simp [Edit.nodes])) founded
  | after p c => exact move p c (by simp [moves]) (known p (by simp [Edit.nodes])) (known c (by simp [Edit.nodes])) founded
  | wrap p a =>
    obtain ⟨own,loose⟩ := Bool.and_eq_true_iff.mp founded
    exact wrapChildren_forest forest (known p (by simp [Edit.nodes])) own ((known a (by simp [Edit.nodes])).movable loose)
  | remove n =>
    rcases known n List.mem_cons_self with current | dead
    · exact (edit_keeps forest (.remove n) (by simpa [Edit.nodes] using current)).1
    · show (d.remove n).Forest
      rw [remove_dead dead]
      exact forest
  | setAttribute n name value => exact edit_forest forest
  | removeAttribute n name => exact edit_forest forest
  | addClass n name => exact addClass_forest forest n name
  | setText n value => exact setText_forest forest (known n List.mem_cons_self) founded (apart n value rfl) value
  | clone n => exact (clone_beside forest n).forest

theorem Used.forest (used : Used d) : d.Forest := by
  induction used with
  | empty => exact empty_forest
  | read source => exact read_forest source
  | edit e _ fits result ih => exact fits_forest ih fits result

-- A node that was removed, while its place is free. There is nothing to remove or to copy, and nothing to write
-- attributes to; it cannot be moved, but a node that is to be put next to it loses its own place. If it has children
-- left in its place they may be others by now, and likewise its parent: only without them more is said.
structure Inert (d : Dom) (n : NodeId) : Prop where
  absent : d.node? n = none
  removed : (Edit.remove n).result? d = some d
  cloned : (Edit.clone n).result? d = some d ∧ (d.clone n).2 = none
  anchor : ∀ c, d.Current c → ∀ e ∈ moves n c, ∃ d', e.result? d = some d' ∧ (d.wouldCycle n c = true → d' = d) ∧
    (d.wouldCycle n c = false → Carried d d' c none)
  moved : d.parent? n = none → ∀ p, (d.slot? p).isSome → ∀ e ∈ moves p n, e.result? d = some d
  told : d.children n = [] → ∀ value, ∃ d', (Edit.setText n value).result? d = some d' ∧ Unharmed d d'
  unwritten : ∀ name value, (Edit.setAttribute n name value).result? d = none ∧ (Edit.removeAttribute n name).result? d = none ∧
    (Edit.addClass n name).result? d = none

-- A node that was removed and whose place another one was given, which is taken for it.
structure Mistaken (d : Dom) (n taker : NodeId) : Prop where
  current : d.Current taker
  slot : taker.slot = n.slot
  newer : n.stamp < taker.stamp
  node : d.node? n = d.node? taker
  remove : (Edit.remove n).result? d = (Edit.remove taker).result? d
  clone : d.clone n = d.clone taker
  setAttribute : ∀ name value, (Edit.setAttribute n name value).result? d = (Edit.setAttribute taker name value).result? d
  removeAttribute : ∀ name, (Edit.removeAttribute n name).result? d = (Edit.removeAttribute taker name).result? d
  addClass : ∀ name, (Edit.addClass n name).result? d = (Edit.addClass taker name).result? d

theorem detach_carried (forest : d.Forest) (current : d.Current c) : Carried d (d.detach c) c none :=
  (detach_moved forest current id).carried forest current (by simp)

theorem Current.loose (current : d.Current n) : d.isLoose n = true := by
  obtain ⟨s,found,live,_⟩ := current
  simp [isLoose,found,live]

theorem move_result (known : (d.slot? p).isSome) (loose : d.isLoose c = true) (moved : e ∈ moves p c) :
    e.result? d = some (e.apply d) := by
  refine if_pos ?_
  simp only [moves,List.mem_cons,List.not_mem_nil,or_false] at moved
  rcases moved with rfl | rfl | rfl
  all_goals exact Bool.and_eq_true_iff.mpr ⟨known,loose⟩

theorem inert (forest : d.Forest) (gone : d.Gone n) (dead : d.node? n = none) : Inert d n := by
  obtain ⟨⟨s,found,_⟩,_⟩ := gone
  have free : s.live = false := by
    rw [node?,found] at dead
    cases live : s.live <;> simp_all
  have given : (d.slot? n).isSome := by rw [found]; rfl
  have isFree : d.isFree n = true := by simp [Dom.isFree,found,free]
  have copied : d.clone n = (d,none) := by rw [clone,height,cloneTo,dead]
  refine ⟨dead,?_,⟨?_,?_⟩,fun c current e moved => ?_,fun top p place e moved => ?_,fun empty value => ?_,fun name value => ?_⟩
  · exact congrArg some (remove_dead dead)
  · exact congrArg some (congrArg Prod.fst copied)
  · rw [copied]
  · refine ⟨_,move_result given current.loose moved,?_⟩
    rw [move_refused (by simp [areLive,dead]) moved]
    refine ⟨fun cycle => if_pos cycle,fun apart => ?_⟩
    rw [if_neg (by simp [apart])]
    exact detach_carried forest current
  · have loose : d.isLoose n = true := by
      rw [parent?,found] at top
      have none : s.parent = none := top
      simp [isLoose,found,none]
    rw [move_result place loose moved,move_refused (by simp [areLive,dead]) moved,detach_lone top,ite_self]
  · have own : d.hasOwnChildren n = true := by
      rw [children,found] at empty
      have none : s.children = [] := empty
      simp [hasOwnChildren,found,none]
    refine ⟨_,if_pos own,?_⟩
    show Unharmed d (d.setText n value)
    rw [setText_lone empty]
    exact putText_unharmed forest dead _
  · simp [Edit.result?,Edit.isFounded,isFree]

theorem twins {e' : Edit} (founded : e.isFounded d = e'.isFounded d) (same : e.apply d = e'.apply d) : e.result? d = e'.result? d := by
  rw [Edit.result?,Edit.result?,founded,same]

theorem mistaken (current : d.Current taker) (slot : taker.slot = n.slot) (newer : n.stamp < taker.stamp) : Mistaken d n taker := by
  have place (d : Dom) : d.slot? n = d.slot? taker := by rw [slot?,slot?,slot]
  have node (d : Dom) : d.node? n = d.node? taker := by rw [node?,node?,place]
  have free : d.isFree n = d.isFree taker := by rw [isFree,isFree,place]
  have valued (name) : d.attribute? n name = d.attribute? taker name := by rw [attribute?,attribute?,node]
  have classed (name) : d.hasClass n name = d.hasClass taker name := by rw [hasClass,hasClass,valued]
  have edited (f) : d.editAttributes n f = d.editAttributes taker f := by rw [editAttributes,editAttributes,update,update,slot]
  have copied : d.clone n = d.clone taker := by
    rw [clone,clone,height,cloneTo,cloneTo,node]
    have listed (payload) : (d.create payload).1.children n = (d.create payload).1.children taker := by
      rw [children,children,place]
    simp only [listed]
  refine ⟨current,slot,newer,node d,?_,copied,fun name value => ?_,fun name => ?_,fun name => ?_⟩
  · exact congrArg some (remove_slot slot).symm
  · exact twins (congrArg Bool.not free) (edited _)
  · exact twins (congrArg Bool.not free) (edited _)
  · refine twins (congrArg Bool.not free) ?_
    simp only [Edit.apply,addClass,classed,valued,setAttribute,edited]

-- A node that was removed stays so. Its name does nothing but let another node fall, as long as its place is free; then
-- it is the name of whatever is there.
theorem removed_names (d : Dom) (n : NodeId) :
    (d.Current n → ∀ (es : List Edit) (d' : Dom), es.foldlM Edit.result? d = some d' → d'.Current n ∨ d'.Gone n) ∧
    (d.Gone n → ∀ (es : List Edit) (d' : Dom), es.foldlM Edit.result? d = some d' → d'.Gone n) ∧
    (Used d → d.Gone n → Inert d n ∨ ∃ taker, Mistaken d n taker) := by
  refine ⟨fun current es d' result => ?_,fun gone es d' result => (edits_later result).gone gone,fun used gone => ?_⟩
  · exact Classical.or_iff_not_imp_left.mpr fun removed => ⟨(edits_later result).given current.given,removed⟩
  · rcases gone.place with dead | ⟨taker,current,slot,newer⟩
    · exact .inl (inert used.forest gone dead)
    · exact .inr ⟨taker,mistaken current slot newer⟩

def nestedPage : Text := "<svg><style><style>.a{}</style></style></svg>"

-- A new text for the outer style gets the place of the inner one, and goes when that is removed.
theorem removed_names_nested : ∃ d, (Edit.setText ⟨5,0⟩ ".b{}").result? (read nestedPage) = some d ∧
    ((read nestedPage).Current ⟨6,0⟩ ∧ (d.Current ⟨6,0⟩ ∨ d.Gone ⟨6,0⟩)) ∧
    (d.Gone ⟨6,0⟩ ∧ ((Edit.create (.text "c")).apply d).Gone ⟨6,0⟩) ∧
    (Used d ∧ ∃ taker, Mistaken d ⟨6,0⟩ taker) ∧ d.isCurrent ⟨6,1⟩ = true ∧ (d.remove ⟨6,0⟩).isCurrent ⟨6,1⟩ = false := by
  have facts : (read nestedPage).isCurrent ⟨5,0⟩ = true ∧ (read nestedPage).isCurrent ⟨6,0⟩ = true ∧
      5 ≠ (read nestedPage).nextPlace ∧ (Edit.setText ⟨5,0⟩ ".b{}").isFounded (read nestedPage) = true ∧
      ((Edit.setText ⟨5,0⟩ ".b{}").apply (read nestedPage)).isCurrent ⟨6,0⟩ = false ∧
      ((Edit.setText ⟨5,0⟩ ".b{}").apply (read nestedPage)).isCurrent ⟨6,1⟩ = true ∧
      (((Edit.setText ⟨5,0⟩ ".b{}").apply (read nestedPage)).remove ⟨6,0⟩).isCurrent ⟨6,1⟩ = false := by decide +kernel
  obtain ⟨outer,inner,apart,founded,lost,taken,removed⟩ := facts
  have current := isCurrent_iff.mp inner
  have fits : (read nestedPage).Fits (.setText ⟨5,0⟩ ".b{}") := by
    refine ⟨fun n inside => ?_,fun n value same => ?_⟩
    · cases List.mem_singleton.mp inside
      exact .inl (isCurrent_iff.mp outer)
    · cases same
      exact apart
  have result : (Edit.setText ⟨5,0⟩ ".b{}").result? (read nestedPage) = some _ := if_pos founded
  have used := Used.edit _ (.read nestedPage) fits result
  have stays := (removed_names (read nestedPage) ⟨6,0⟩).1 current [.setText ⟨5,0⟩ ".b{}"] _ (by rw [List.foldlM_cons,result]; rfl)
  generalize (Edit.setText ⟨5,0⟩ ".b{}").apply (read nestedPage) = d at used result stays lost taken removed
  have gone := stays.resolve_left fun there => Bool.false_ne_true (lost.symm.trans (isCurrent_iff.mpr there))
  obtain ⟨_,forever,spent⟩ := removed_names d ⟨6,0⟩
  refine ⟨d,result,⟨current,stays⟩,⟨gone,forever gone [.create (.text "c")] _ rfl⟩,⟨used,?_⟩,taken,removed⟩
  rcases spent used gone with inert | mistaken
  · have there : (d.node? ⟨6,1⟩).isSome := (isCurrent_iff.mp taken).node?
    have absent : d.node? ⟨6,1⟩ = none := inert.absent
    rw [absent] at there
    cases there
  · exact mistaken

end StyleTrim.Dom
