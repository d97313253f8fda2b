import Mathlib.Data.List.Nodup
import StyleTrim.Proofs.Copying
import StyleTrim.Proofs.Restyling
namespace StyleTrim.Dom
open Text
variable {d d' d₁ d₂ : Dom} {a c copy m n p text wrapper : NodeId} {h : Nat} {l l' : List NodeId} {payload : Payload}
  {name value : Text} {target : Option NodeId} {place : List NodeId → List NodeId}

-- Whatever is done to a document, one edit after the other: its links stay a forest, and no node gets another
-- place, or is lost, but by an edit that says so.

-- A store in which nothing but the places of some nodes is another.
structure Rearranged (d d' : Dom) (l : List NodeId) : Prop where
  current : ∀ m, d'.Current m ↔ d.Current m
  node : ∀ m, d'.node? m = d.node? m
  parent : ∀ m, d.Current m → m ∉ l → d'.parent? m = d.parent? m
  order : ∀ m, d.Current m → (d'.children m).filter (· ∉ l) = (d.children m).filter (· ∉ l)

theorem Rearranged.refl (d : Dom) (l : List NodeId) : Rearranged d d l :=
  ⟨fun _ => .rfl,fun _ => rfl,fun _ _ _ => rfl,fun _ _ => rfl⟩

theorem Rearranged.trans (one : Rearranged d d₁ l) (other : Rearranged d₁ d₂ l) : Rearranged d d₂ l := by
  refine ⟨?_,?_,?_,?_⟩
  · intro m
    rw [other.current,one.current]
  · intro m
    rw [other.node,one.node]
  · intro m there apart
    rw [other.parent m ((one.current m).mpr there) apart,one.parent m there apart]
  · intro m there
    rw [other.order m ((one.current m).mpr there),one.order m there]

theorem Rearranged.wider (few : Rearranged d d' l) (within : l ⊆ l') : Rearranged d d' l' := by
  refine ⟨few.current,few.node,fun m there apart => few.parent m there fun inside => apart (within inside),?_⟩
  intro m there
  have both : ∀ x : List NodeId, x.filter (· ∉ l') = (x.filter (· ∉ l)).filter (· ∉ l') := by
    intro x
    rw [List.filter_filter]
    refine List.filter_congr fun y _ => ?_
    by_cases inside : y ∈ l'
    · simp [inside]
    · have outside : y ∉ l := fun early => inside (within early)
      simp [inside,outside]
  rw [both,few.order m there,← both]

theorem Inserts.others (inserts : Inserts place c l) (absent : c ∉ l) : (place l).filter (· ∉ [c]) = l := by
  obtain ⟨before,after,whole,placed⟩ := inserts
  subst whole
  simp only [List.mem_append,not_or] at absent
  have kept : ∀ x : List NodeId, c ∉ x → x.filter (· ∉ [c]) = x := by
    intro x outside
    refine List.filter_eq_self.mpr fun y inside => ?_
    simp only [List.mem_singleton,decide_eq_true_eq]
    intro same
    exact outside (same ▸ inside)
  rw [placed,List.filter_append,List.filter_cons_of_neg (by simp),kept before absent.1,kept after absent.2]

theorem Moved.rearranged (moved : Moved d d' target c place) (received : ∀ p ∈ target, Receives d p c place) :
    Rearranged d d' [c] := by
  refine ⟨moved.current,moved.node,?_,?_⟩
  · intro m there apart
    rw [moved.parent m there,if_neg fun same => apart (List.mem_singleton.mpr same)]
  · intro m there
    rw [moved.children m there]
    split
    · rename_i here
      rw [(received m here).2.2.others (by simp)]
      simp
    · simp

-- A node that was taken out of its place, with all below it, and put under `target`, if there is one.
structure Carried (d d' : Dom) (c : NodeId) (target : Option NodeId) : Prop where
  others : Rearranged d d' [c]
  parent : d'.parent? c = target
  intact : ∀ m, d.Current m → d.Above c m → d'.children m = d.children m
  subtree : d'.descendants c = d.descendants c
  order : ∀ a, d.Current a → ¬ d.Above c a →
    (d'.descendants a).filter (c ∉ d.ancestors ·) = (d.descendants a).filter (c ∉ d.ancestors ·)

-- The children of the nodes that are moved along are the same.
theorem Moved.intact (moved : Moved d d' target c place) (forest : d.Forest) (received : ∀ p ∈ target, Receives d p c place)
    (there : d.Current m) (above : d.Above c m) : d'.children m = d.children m := by
  have inner : target ≠ some m := by
    intro here
    exact (received m here).2.1 above
  rw [moved.children m there,if_neg inner]
  apply forest.filter_absent there
  intro linked
  exact (forest.strict there (forest.up (forest.above there above) linked).2) above

theorem Moved.below_intact (moved : Moved d d' target c place) (forest : d.Forest)
    (received : ∀ p ∈ target, Receives d p c place) (there : d.Current m) (above : d.Above c m) :
    d'.below h m = d.below h m := by
  induction h generalizing m with
  | zero => rfl
  | succ h ih =>
    rw [below,below,moved.intact forest received there above]
    congr 1
    refine List.flatMap_congr fun x child => ?_
    obtain ⟨current,linked⟩ := forest.down there child
    exact ih current (.of_parent linked above)

-- A node whose part of a list is empty may be left out.
theorem flatMap_without {f : NodeId → List NodeId} (empty : f c = []) (l : List NodeId) :
    (l.filter (· ∉ [c])).flatMap f = l.flatMap f := by
  induction l with
  | nil => rfl
  | cons n more ih =>
    by_cases same : n = c
    · subst same
      simpa [empty] using ih
    · simpa [same] using ih

-- The nodes that stay follow each other as before: on both ways down, the part of the moved node is passed over.
theorem Moved.below_order (moved : Moved d d' target c place) (forest : d.Forest) (current : d.Current c)
    (received : ∀ p ∈ target, Receives d p c place) (there : d.Current a) (outside : ¬ d.Above c a) :
    (d'.below h a).filter (c ∉ d.ancestors ·) = (d.below h a).filter (c ∉ d.ancestors ·) := by
  have inside : ∀ h, (d.below h c).filter (c ∉ d.ancestors ·) = [] := by
    intro h
    refine List.filter_eq_nil_iff.mpr fun x under => ?_
    obtain ⟨there,k,_,steps⟩ := (forest.mem_below current).mp under
    simpa using (forest.mem_ancestors there).mpr ⟨k,steps⟩
  induction h generalizing a with
  | zero => rfl
  | succ h ih =>
    have apart : c ∉ d.ancestors a := fun upper => outside ((forest.mem_ancestors there).mp upper)
    have inside' : (d'.below h c).filter (c ∉ d.ancestors ·) = [] := by
      rw [moved.below_intact forest received current (.refl c),inside]
    rw [below,below,List.filter_cons_of_pos (by simpa using apart),List.filter_cons_of_pos (by simpa using apart),
      List.filter_flatMap,List.filter_flatMap]
    congr 1
    calc (d'.children a).flatMap (fun x => (d'.below h x).filter (c ∉ d.ancestors ·))
      _ = ((d.children a).filter (· ∉ [c])).flatMap (fun x => (d'.below h x).filter (c ∉ d.ancestors ·)) := by
        rw [← flatMap_without inside',(moved.rearranged received).order a there]
      _ = ((d.children a).filter (· ∉ [c])).flatMap (fun x => (d.below h x).filter (c ∉ d.ancestors ·)) := by
        refine List.flatMap_congr fun x child => ?_
        simp only [List.mem_filter,List.mem_singleton,decide_eq_true_eq] at child
        obtain ⟨current,linked⟩ := forest.down there child.1
        refine ih current fun above => ?_
        rcases above.cases with same | ⟨q,upward,above⟩
        · exact child.2 same.symm
        · cases Option.some.inj (linked.symm.trans upward)
          exact outside above
      _ = (d.children a).flatMap (fun x => (d.below h x).filter (c ∉ d.ancestors ·)) := flatMap_without (inside h) _

theorem Moved.carried (moved : Moved d d' target c place) (forest : d.Forest) (current : d.Current c)
    (received : ∀ p ∈ target, Receives d p c place) : Carried d d' c target := by
  have height : d'.height = d.height := by rw [height,height,moved.size]
  refine ⟨moved.rearranged received,?_,fun m there above => moved.intact forest received there above,?_,?_⟩
  · rw [moved.parent c current,if_pos rfl]
  · rw [descendants,descendants,height]
    exact moved.below_intact forest received current (.refl c)
  · intro a there outside
    rw [descendants,descendants,height]
    exact moved.below_order forest current received there outside

-- Next to a node without a parent there is only the outside.
theorem insertAfter_carried (forest : d.Forest) (beside : d.Current n) (current : d.Current c) (free : ¬ d.Above c n) :
    Carried d (d.insertAfter n c) c (d.parent? n) ∧ (d.insertAfter n c).Forest := by
  cases linked : d.parent? n with
  | some p =>
    obtain ⟨moved,received⟩ := insertAfter_moved forest current beside linked free
    refine ⟨moved.carried forest current fun q here => ?_,moved.receives forest current received⟩
    cases here
    exact received
  | none =>
    have moved := detach_moved forest current id
    have apart : n ≠ c := by
      intro same
      exact free (same ▸ .refl n)
    have alone : (d.detach c).parent? n = none := by rw [moved.parent n beside,if_neg apart,linked]
    have same : d.insertAfter n c = d.detach c := by
      rw [← wouldCycle_iff forest beside] at free
      simp only [insertAfter,if_neg free,alone,ite_self]
    rw [same]
    constructor
    · apply moved.carried forest current
      intro q here
      cases here
    · apply moved.forest forest current
      intro q here
      cases here

-- Moving several nodes one after the other concerns no other node.
theorem gather_rearranged (l : List NodeId) (forest : d.Forest) (there : d.Current p) (current : ∀ c ∈ l, d.Current c) :
    (l.foldl (fun d child => d.appendChild p child) d).Forest ∧
      Rearranged d (l.foldl (fun d child => d.appendChild p child) d) l := by
  induction l generalizing d with
  | nil => exact ⟨forest,.refl d []⟩
  | cons c more ih =>
    have here := current c List.mem_cons_self
    have step : Rearranged d (d.appendChild p c) [c] := by
      rcases appendChild_cases forest there here with same | ⟨moved,received⟩
      · rw [same]
        exact .refl d [c]
      · refine moved.rearranged fun q same => ?_
        cases same
        exact received
    obtain ⟨forest',later⟩ := ih (appendChild_forest forest there here) ((step.current p).mpr there)
      fun x inside => (step.current x).mpr (current x (List.mem_cons_of_mem c inside))
    refine ⟨forest',(step.wider ?_).trans (later.wider (List.subset_cons_self c more))⟩
    exact List.cons_subset_cons c (List.nil_subset more)

theorem wrapChildren_rearranged (forest : d.Forest) (there : d.Current p) (current : d.Current wrapper) :
    (d.wrapChildren p wrapper).Forest ∧ Rearranged d (d.wrapChildren p wrapper) (wrapper :: d.children p) := by
  obtain ⟨forest₁,gathered⟩ := gather_rearranged (d.children p) forest current fun c child => (forest.down there child).1
  obtain ⟨forest₂,wrapped⟩ := gather_rearranged [wrapper] forest₁ ((gathered.current p).mpr there) fun c here => by
    rw [List.mem_singleton.mp here]
    exact (gathered.current wrapper).mpr current
  refine ⟨forest₂,(gathered.wider (List.subset_cons_self _ _)).trans (wrapped.wider ?_)⟩
  exact List.cons_subset_cons wrapper (List.nil_subset _)

-- A store with more nodes, in which those that were there before stay as they were.
structure Beside (d d' : Dom) : Prop where
  forest : d'.Forest
  current : ∀ m, d.Current m → d'.Current m
  node : ∀ m, d.Current m → d'.node? m = d.node? m
  parent : ∀ m, d.Current m → d'.parent? m = d.parent? m
  children : ∀ m, d.Current m → d'.children m = d.children m

theorem Beside.refl (forest : d.Forest) : Beside d d :=
  ⟨forest,fun _ there => there,fun _ _ => rfl,fun _ _ => rfl,fun _ _ => rfl⟩

theorem Beside.trans (one : Beside d d₁) (other : Beside d₁ d₂) : Beside d d₂ := by
  refine ⟨other.forest,fun m there => other.current m (one.current m there),?_,?_,?_⟩
  · intro m there
    rw [other.node m (one.current m there),one.node m there]
  · intro m there
    rw [other.parent m (one.current m there),one.parent m there]
  · intro m there
    rw [other.children m (one.current m there),one.children m there]

theorem create_beside (forest : d.Forest) (payload : Payload) : Beside d (d.create payload).1 := by
  have created := create_created forest payload
  exact ⟨create_forest forest payload,fun m there => (created.current m).mpr (.inl there),created.node,created.parent,
    created.children⟩

-- That a new node is put under another new one concerns none of those that were there before.
theorem Beside.moved (beside : Beside d d₁) (forest : d.Forest) (moved : Moved d₁ d₂ (some p) c place)
    (received : Receives d₁ p c place) (current : d₁.Current c) (new : ¬ d.Current c) (newer : ¬ d.Current p) : Beside d d₂ := by
  refine ⟨moved.receives beside.forest current received,?_,?_,?_,?_⟩
  · intro m there
    exact (moved.current m).mpr (beside.current m there)
  · intro m there
    rw [moved.node,beside.node m there]
  · intro m there
    have apart : m ≠ c := by
      intro same
      exact new (same ▸ there)
    rw [moved.parent m (beside.current m there),if_neg apart,beside.parent m there]
  · intro m there
    have other : some p ≠ some m := by
      intro same
      exact newer (Option.some.inj same ▸ there)
    have absent : d₁.parent? c ≠ some m := by
      intro linked
      have child := (beside.forest.up current linked).2
      rw [beside.children m there] at child
      exact new (forest.down there child).1
    rw [moved.children m (beside.current m there),if_neg other,beside.forest.filter_absent (beside.current m there) absent,
      beside.children m there]

theorem cloneTo_beside (h : Nat) (forest : d.Forest) : Beside d (d.cloneTo n h).1 := by
  induction h generalizing d n with
  | zero => exact .refl forest
  | succ h ih =>
    rw [cloneTo]
    split
    · exact .refl forest
    · rename_i payload found
      have created := create_created forest payload
      have fresh : Copied d (d.create payload).1 n (d.create payload).2 := by
        refine ⟨fun old => created.fresh _ old rfl,(created.current _).mpr (.inr rfl),created.newParent,?_⟩
        rw [tag?,tag?,created.newNode,found]
      have start := create_beside forest payload
      dsimp only
      generalize (d.create payload).1.children n = l
      generalize (d.create payload).1 = e at fresh start
      generalize (d.create payload).2 = copy at fresh ⊢
      -- The copies of the children come to lie under a copy, which is as new as they are.
      induction l generalizing e with
      | nil => exact start
      | cons child more next =>
        have inner := ih (n := child) start.forest
        obtain ⟨adds,copied⟩ := cloneTo_adds (n := child) h start.forest
        rw [List.foldl_cons]
        generalize e.cloneTo child h = cloned at inner adds copied ⊢
        obtain ⟨e',childCopy?⟩ := cloned
        cases childCopy? with
        | none => exact next e' (start.trans inner) (fresh.later adds)
        | some childCopy =>
          have isNew := copied childCopy rfl
          have apart : copy ≠ childCopy := by
            intro same
            exact isNew.new (same ▸ fresh.current)
          have kept := fresh.later adds
          obtain ⟨moved,received⟩ := kept.linked inner.forest isNew.current isNew.top apart
          have new : ¬ d.Current childCopy := fun old => isNew.new (start.current _ old)
          exact next _ ((start.trans inner).moved forest moved received isNew.current new fresh.new) (kept.moved moved apart)

theorem clone_beside (forest : d.Forest) (n : NodeId) : Beside d (d.clone n).1 := cloneTo_beside d.height forest

-- A store that differs from another in the attributes of one node.
structure Painted (d d' : Dom) (n : NodeId) : Prop where
  current : ∀ m, d'.Current m ↔ d.Current m
  parent : ∀ m, d'.parent? m = d.parent? m
  children : ∀ m, d'.children m = d.children m
  node : ∀ m, d.Current m → m ≠ n → d'.node? m = d.node? m
  kind : d'.kind? n = d.kind? n

theorem edit_painted (current : d.Current n) (f : List Attribute → List Attribute) : Painted d (d.editAttributes n f) n := by
  refine ⟨fun _ => edit_current,fun m => edit_parent? d n m f,fun m => edit_children d n m f,?_,edit_kind? d n n f⟩
  intro m there apart
  rw [node?,edit_slot?,if_neg (current.slot_ne there (Ne.symm apart)),node?]

theorem addClass_painted (current : d.Current n) (name : Text) : Painted d (d.addClass n name) n := by
  unfold addClass
  split
  · exact ⟨fun _ => .rfl,fun _ => rfl,fun _ => rfl,fun _ _ _ => rfl,rfl⟩
  · exact edit_painted current _

namespace Edit

-- The nodes that an edit is told.
def nodes : Edit → List NodeId
  | create _ => []
  | append parent child | prepend parent child => [parent,child]
  | after sibling id => [sibling,id]
  | wrap parent wrapper => [parent,wrapper]
  | remove id | setAttribute id _ _ | removeAttribute id _ | addClass id _ | setText id _ | clone id => [id]

-- What an edit of nodes that are there leaves of the others.
def Effect (d d' : Dom) : Edit → Prop
  | create payload => ∃ n, Created d d' n payload
  | append p c => (d.Above c p → d' = d) ∧
      (¬ d.Above c p → Carried d d' c (some p) ∧ d'.children p = (d.children p).filter (· ≠ c) ++ [c])
  | prepend p c => (d.Above c p → d' = d) ∧
      (¬ d.Above c p → Carried d d' c (some p) ∧ d'.children p = c :: (d.children p).filter (· ≠ c))
  | after n c => (d.Above c n → d' = d) ∧
      (¬ d.Above c n → Carried d d' c (d.parent? n) ∧ ∀ p ∈ d.parent? n, ∃ before after,
        (d.children p).filter (· ≠ c) = before ++ n :: after ∧ d'.children p = before ++ n :: c :: after)
  | wrap p wrapper => Rearranged d d' (wrapper :: d.children p)
  | remove n => Removed d d' n
  | setAttribute n _ _ | removeAttribute n _ | addClass n _ => Painted d d' n
  | setText n value => ∃ text, Retold d d' n text value
  | clone _ => Beside d d'

-- Whether an edit takes a node out of the store.
def Takes (d : Dom) (m : NodeId) : Edit → Prop
  | remove n => d.Above n m
  | setText n _ => ∃ c ∈ d.children n, d.Above c m
  | _ => False

end Edit

-- The documents that come about by reading and editing, where each edit is told nodes that are there.
inductive Reached : Dom → Prop where
  | empty : Reached empty
  | read (source : Text) : Reached (read source)
  | edit {d : Dom} (e : Edit) : Reached d → (∀ n ∈ e.nodes, d.Current n) → Reached (e.apply d)

theorem placeAfter_split (l : List NodeId) (n c : NodeId) (inside : n ∈ l) (slots : ∀ x ∈ l, x.slot = n.slot → x = n) :
    ∃ before after, l = before ++ n :: after ∧ placeAfter n c l = before ++ n :: c :: after := by
  induction l with
  | nil => cases inside
  | cons x more ih =>
    by_cases same : x.slot = n.slot
    · cases slots x List.mem_cons_self same
      exact ⟨[],more,rfl,by simp [placeAfter]⟩
    · have later : n ∈ more := by
        rcases List.mem_cons.mp inside with equal | later
        · exact absurd (congrArg NodeId.slot equal.symm) same
        · exact later
      obtain ⟨before,after,whole,placed⟩ := ih later fun y inside => slots y (List.mem_cons_of_mem x inside)
      refine ⟨x :: before,after,by rw [whole,List.cons_append],?_⟩
      rw [placeAfter,if_neg same,placed,List.cons_append]

theorem append_effect (forest : d.Forest) (there : d.Current p) (current : d.Current c) :
    (Edit.append p c).Effect d (d.appendChild p c) := by
  refine ⟨fun above => if_pos ((wouldCycle_iff forest there).mpr above),fun free => ?_⟩
  have moved := appendChild_moved forest there current free
  refine ⟨moved.carried forest current fun q here => ?_,by rw [moved.children p there,if_pos rfl]⟩
  cases here
  exact ⟨there,free,inserts_last _ _⟩

theorem prepend_effect (forest : d.Forest) (there : d.Current p) (current : d.Current c) :
    (Edit.prepend p c).Effect d (d.prependChild p c) := by
  refine ⟨fun above => if_pos ((wouldCycle_iff forest there).mpr above),fun free => ?_⟩
  have moved := prependChild_moved forest there current free
  refine ⟨moved.carried forest current fun q here => ?_,by rw [moved.children p there,if_pos rfl]⟩
  cases here
  exact ⟨there,free,inserts_first _ _⟩

theorem after_effect (forest : d.Forest) (beside : d.Current n) (current : d.Current c) :
    (Edit.after n c).Effect d (d.insertAfter n c) := by
  refine ⟨fun above => if_pos ((wouldCycle_iff forest beside).mpr above),fun free => ?_⟩
  refine ⟨(insertAfter_carried forest beside current free).1,fun p linked => ?_⟩
  obtain ⟨moved,parent,_,_⟩ := insertAfter_moved forest current beside linked free
  have apart : n ≠ c := by
    intro same
    exact free (same ▸ .refl n)
  rw [moved.children p parent,if_pos rfl]
  apply placeAfter_split
  · exact List.mem_filter.mpr ⟨(forest.up beside linked).2,decide_eq_true apart⟩
  · intro x inside slot
    exact (forest.down parent (List.mem_filter.mp inside).1).1.same beside slot

theorem prependChild_forest (forest : d.Forest) (there : d.Current p) (current : d.Current c) :
    (d.prependChild p c).Forest := by
  rcases prependChild_cases forest there current with same | ⟨moved,received⟩
  · rw [same]
    exact forest
  · exact moved.receives forest current received

theorem insertAfter_forest (forest : d.Forest) (beside : d.Current n) (current : d.Current c) :
    (d.insertAfter n c).Forest := by
  by_cases above : d.Above c n
  · rw [insertAfter,if_pos ((wouldCycle_iff forest beside).mpr above)]
    exact forest
  · exact (insertAfter_carried forest beside current above).2

-- One step: an edit of nodes that are there keeps the forest and does what it says.
theorem edit_keeps (forest : d.Forest) (e : Edit) (told : ∀ n ∈ e.nodes, d.Current n) :
    (e.apply d).Forest ∧ e.Effect d (e.apply d) := by
  cases e with
  | create payload => exact ⟨create_forest forest payload,_,create_created forest payload⟩
  | append p c =>
    obtain ⟨there,current⟩ : d.Current p ∧ d.Current c := by simpa [Edit.nodes] using told
    exact ⟨appendChild_forest forest there current,append_effect forest there current⟩
  | prepend p c =>
    obtain ⟨there,current⟩ : d.Current p ∧ d.Current c := by simpa [Edit.nodes] using told
    exact ⟨prependChild_forest forest there current,prepend_effect forest there current⟩
  | after n c =>
    obtain ⟨beside,current⟩ : d.Current n ∧ d.Current c := by simpa [Edit.nodes] using told
    exact ⟨insertAfter_forest forest beside current,after_effect forest beside current⟩
  | wrap p wrapper =>
    obtain ⟨there,current⟩ : d.Current p ∧ d.Current wrapper := by simpa [Edit.nodes] using told
    exact wrapChildren_rearranged forest there current
  | remove n =>
    have current : d.Current n := told n List.mem_cons_self
    have removed := removeSubtree_removed forest current
    have same : (Edit.remove n).apply d = d.removeSubtree n := if_pos current.node?
    rw [same]
    exact ⟨removed.forest,removed⟩
  | setAttribute n name value => exact ⟨edit_forest forest,edit_painted (told n List.mem_cons_self) _⟩
  | removeAttribute n name => exact ⟨edit_forest forest,edit_painted (told n List.mem_cons_self) _⟩
  | addClass n name => exact ⟨addClass_forest forest n name,addClass_painted (told n List.mem_cons_self) name⟩
  | setText n value =>
    have retold := setText_retold forest (told n List.mem_cons_self) value
    exact ⟨retold.forest,_,retold⟩
  | clone n => exact ⟨(clone_beside forest n).forest,clone_beside forest n⟩

-- The whole run.
theorem Reached.forest (reached : Reached d) : d.Forest := by
  induction reached with
  | empty => exact empty_forest
  | read source => exact read_forest source
  | edit e _ told ih => exact (edit_keeps ih e told).1

-- Only removal and a new text take nodes out of the store.
theorem Edit.Effect.takes {e : Edit} (effect : e.Effect d d') (there : d.Current m) : d'.Current m ↔ ¬ e.Takes d m := by
  cases e with
  | create payload =>
    obtain ⟨n,created⟩ := effect
    simpa [Takes] using (created.current m).mpr (.inl there)
  | append p c =>
    by_cases above : d.Above c p
    · rw [effect.1 above]
      simpa [Takes] using there
    · simpa [Takes] using ((effect.2 above).1.others.current m).mpr there
  | prepend p c =>
    by_cases above : d.Above c p
    · rw [effect.1 above]
      simpa [Takes] using there
    · simpa [Takes] using ((effect.2 above).1.others.current m).mpr there
  | after n c =>
    by_cases above : d.Above c n
    · rw [effect.1 above]
      simpa [Takes] using there
    · simpa [Takes] using ((effect.2 above).1.others.current m).mpr there
  | wrap p wrapper => simpa [Takes] using (Rearranged.current effect m).mpr there
  | remove n =>
    rw [Removed.current effect m]
    exact and_iff_right there
  | setAttribute n name value => simpa [Takes] using (Painted.current effect m).mpr there
  | removeAttribute n name => simpa [Takes] using (Painted.current effect m).mpr there
  | addClass n name => simpa [Takes] using (Painted.current effect m).mpr there
  | setText n value =>
    obtain ⟨text,retold⟩ := effect
    have other : m ≠ text := by
      intro same
      exact retold.fresh (same ▸ there)
    rw [retold.current m]
    simp [Takes,there,other]
  | clone n => simpa [Takes] using Beside.current effect m there

-- A node is listed once by its parent, and by nobody else.
theorem Forest.listed (forest : d.Forest) (current : d.Current n) (there : d.Current p) :
    (d.children p).count n = if d.parent? n = some p then 1 else 0 := by
  split
  · rename_i linked
    exact List.count_eq_one_of_mem (forest.once there) (forest.up current linked).2
  · rename_i other
    exact List.count_eq_zero.mpr fun child => other (forest.down there child).2

-- However a document was edited: no node is above itself, each is listed once by its parent and by nobody else,
-- and a further edit has the effect it says and takes the nodes it says.
theorem edits_keep_forest (reached : Reached d) :
    (∀ n, d.Current n → (∀ p, d.parent? n = some p → d.Current p ∧ ¬ d.Above n p) ∧
      ∀ p, d.Current p → (d.children p).count n = if d.parent? n = some p then 1 else 0) ∧
    ∀ e : Edit, (∀ n ∈ e.nodes, d.Current n) → e.Effect d (e.apply d) ∧
      ∀ m, d.Current m → ((e.apply d).Current m ↔ ¬ e.Takes d m) := by
  have forest := reached.forest
  refine ⟨fun n current => ⟨fun p linked => ?_,fun p there => forest.listed current there⟩,fun e told => ?_⟩
  · exact ⟨(forest.up current linked).1,(forest.grounded current).acyclic linked⟩
  · have effect := (edit_keeps forest e told).2
    exact ⟨effect,fun m there => effect.takes there⟩

def listPage : Text := "<ul><li>one</li><li>two</li></ul>"

-- The first item of the list is put behind the other one. Then the list cannot move into it, and goes on to lose it.
theorem edits_keep_forest_list : ∃ d, d = (Edit.append ⟨4,0⟩ ⟨5,0⟩).apply (read listPage) ∧ Reached d ∧
    (d.children ⟨4,0⟩).count ⟨5,0⟩ = 1 ∧ (Edit.append ⟨5,0⟩ ⟨4,0⟩).apply d = d ∧
    ¬ ((Edit.setText ⟨4,0⟩ "three").apply d).Current ⟨5,0⟩ := by
  have told : ∀ n ∈ (Edit.append ⟨4,0⟩ ⟨5,0⟩).nodes, (read listPage).Current n := by
    simp only [← isCurrent_iff]
    decide +kernel
  have reached := Reached.edit (.append ⟨4,0⟩ ⟨5,0⟩) (.read listPage) told
  have there : ((Edit.append ⟨4,0⟩ ⟨5,0⟩).apply (read listPage)).Current ⟨4,0⟩ ∧
      ((Edit.append ⟨4,0⟩ ⟨5,0⟩).apply (read listPage)).Current ⟨5,0⟩ ∧
      ((Edit.append ⟨4,0⟩ ⟨5,0⟩).apply (read listPage)).parent? ⟨5,0⟩ = some ⟨4,0⟩ := by
    rw [← isCurrent_iff,← isCurrent_iff]
    decide +kernel
  generalize (Edit.append ⟨4,0⟩ ⟨5,0⟩).apply (read listPage) = d at reached there
  obtain ⟨list,item,linked⟩ := there
  obtain ⟨places,effects⟩ := edits_keep_forest reached
  refine ⟨d,rfl,reached,?_,?_,?_⟩
  · rw [(places _ item).2 _ list,if_pos linked]
  · exact (effects (.append ⟨5,0⟩ ⟨4,0⟩) (by simpa [Edit.nodes] using ⟨item,list⟩)).1.1 (.of_parent linked (.refl _))
  · rw [(effects (.setText ⟨4,0⟩ "three") (by simpa [Edit.nodes] using list)).2 _ item,not_not]
    exact ⟨_,(reached.forest.up item linked).2,.refl _⟩

end StyleTrim.Dom
