import StyleTrim.Proofs.SheetWalks
namespace StyleTrim.Css
open Text
variable {n m : Node} {s t : Sheet} {p q : Rule → Bool} {depth : Nat}

-- A sheet in outline: its nodes one after the other, each with its depth and without what it holds. What
-- removal and pruning do to a tree of any depth is told as what they leave out of this list.

-- A node by itself. Of a group, that is its name and its prelude.
inductive Head where
  | rule (r : Rule)
  | statement (name params : Text)
  | block (name params body : Text)
  | group (name params : Text)
deriving DecidableEq, Repr

def Node.head : Node → Head
  | .rule r => .rule r
  | .statement name params => .statement name params
  | .block name params body => .block name params body
  | .group name params _ => .group name params

def Head.isRule (p : Rule → Bool) : Head → Bool
  | .rule r => p r
  | _ => false

mutual
def Node.nested (depth : Nat) : Node → List (Nat × Node)
  | .group name params children => (depth,.group name params children) :: Sheet.nested (depth + 1) children
  | n => [(depth,n)]
-- The nodes in source order, a group before what it holds, each with the number of groups around it.
def Sheet.nested (depth : Nat) : Sheet → List (Nat × Node)
  | [] => []
  | n :: more => n.nested depth ++ Sheet.nested depth more
end

def outlined (placed : List (Nat × Node)) : List (Nat × Head) := placed.map fun (depth,n) => (depth,n.head)

def Sheet.outline (s : Sheet) : List (Nat × Head) := outlined (s.nested 0)

theorem outlined_append (l l' : List (Nat × Node)) : outlined (l ++ l') = outlined l ++ outlined l' := List.map_append

theorem Sheet.nested_append (depth : Nat) (s t : Sheet) : Sheet.nested depth (s ++ t) = s.nested depth ++ t.nested depth := by
  induction s with
  | nil => rfl
  | cons n more ih => rw [List.cons_append,Sheet.nested,ih,Sheet.nested,List.append_assoc]

mutual
theorem Node.nested_nodes (depth : Nat) : ∀ n : Node, (n.nested depth).map (·.2) = n.nodes
  | .rule _ | .statement .. | .block .. => rfl
  | .group name params children => congrArg (Node.group name params children :: ·) (Sheet.nested_nodes (depth + 1) children)
theorem Sheet.nested_nodes (depth : Nat) : ∀ s : Sheet, (s.nested depth).map (·.2) = s.nodes
  | [] => rfl
  | n :: more => by rw [Sheet.nested,List.map_append,Node.nested_nodes depth n,Sheet.nested_nodes depth more,Sheet.nodes]
end

-- A list in which what comes first does not lie as deep.
def Shallower (depth : Nat) (l : List (Nat × Head)) : Prop := ∀ e ∈ l.head?, e.1 < depth

theorem Node.outlined_cons (depth : Nat) (n : Node) (more : Sheet) (l : List (Nat × Head)) :
    ∃ rest, outlined (Sheet.nested depth (n :: more)) ++ l = (depth,n.head) :: rest := by
  cases n <;> exact ⟨_,rfl⟩

theorem not_shallower (n : Node) (more : Sheet) (l : List (Nat × Head)) :
    ¬ Shallower depth (outlined (Sheet.nested depth (n :: more)) ++ l) := by
  intro ends
  obtain ⟨rest,whole⟩ := n.outlined_cons depth more l
  rw [whole] at ends
  exact Nat.lt_irrefl depth (ends _ rfl)

theorem Shallower.nested {rest : List (Nat × Head)} (ends : Shallower depth rest) (s : Sheet) :
    Shallower (depth + 1) (outlined (s.nested depth) ++ rest) := by
  cases s with
  | nil => exact fun e first => Nat.lt_succ_of_lt (ends e first)
  | cons n more =>
    obtain ⟨l,whole⟩ := n.outlined_cons depth more rest
    rw [whole]
    rintro e ⟨⟩
    exact Nat.lt_succ_self depth

mutual
-- What is read off the front of a list is told by where the depth falls again.
theorem Node.outlined_front : ∀ (n m : Node) {depth : Nat} {l l' : List (Nat × Head)}, Shallower (depth + 1) l →
    Shallower (depth + 1) l' → outlined (n.nested depth) ++ l = outlined (m.nested depth) ++ l' → n = m ∧ l = l'
  | .group name params children, m, depth, l, l', ends, ends', same => by
    cases m with
    | group name' params' children' =>
      obtain ⟨first,rest⟩ := List.cons_eq_cons.mp same
      cases first
      obtain ⟨rfl,rfl⟩ := Sheet.outlined_front children children' ends ends' rest
      exact ⟨rfl,rfl⟩
    | rule | statement | block => cases (List.cons_eq_cons.mp same).1
  | .rule _, m, _, _, _, _, _, same | .statement .., m, _, _, _, _, _, same | .block .., m, _, _, _, _, _, same => by
    cases m <;> obtain ⟨first,rest⟩ := List.cons_eq_cons.mp same <;> cases first
    exact ⟨rfl,rest⟩
theorem Sheet.outlined_front : ∀ (s t : Sheet) {depth : Nat} {l l' : List (Nat × Head)}, Shallower depth l →
    Shallower depth l' → outlined (s.nested depth) ++ l = outlined (t.nested depth) ++ l' → s = t ∧ l = l'
  | [], [], _, _, _, _, _, same => ⟨rfl,same⟩
  | [], m :: others, _, l, l', ends, _, same => absurd (show l = _ from same) fun same => not_shallower m others l' (same ▸ ends)
  | n :: more, [], _, l, l', _, ends, same => absurd (show _ = l' from same) fun same => not_shallower n more l (same ▸ ends)
  | n :: more, m :: others, depth, l, l', ends, ends', same => by
    simp only [Sheet.nested,outlined_append,List.append_assoc] at same
    obtain ⟨rfl,rest⟩ := Node.outlined_front n m (ends.nested more) (ends'.nested others) same
    obtain ⟨rfl,rfl⟩ := Sheet.outlined_front more others ends ends' rest
    exact ⟨rfl,rfl⟩
end

theorem Sheet.outline_injective : Function.Injective Sheet.outline := by
  intro s t same
  have ends : Shallower 0 [] := nofun
  refine (Sheet.outlined_front s t ends ends ?_).1
  rw [List.append_nil,List.append_nil]
  exact same

mutual
theorem Node.nested_withoutRules (p : Rule → Bool) (depth : Nat) : ∀ n : Node,
    outlined (Sheet.nested depth (n.without (Sheet.onRule p))) = (outlined (n.nested depth)).filter fun e => !e.2.isRule p
  | .rule r => by cases goes : p r <;> simp [Node.without,Sheet.onRule,goes,Sheet.nested,Node.nested,outlined,Node.head,Head.isRule]
  | .statement .. | .block .. => rfl
  | .group name params children => by
    have inner := Sheet.nested_withoutRules p (depth + 1) children
    simpa [Node.without,Sheet.onRule,Sheet.nested,Node.nested,outlined,Node.head,Head.isRule,Sheet.withoutRules] using inner
theorem Sheet.nested_withoutRules (p : Rule → Bool) (depth : Nat) : ∀ s : Sheet,
    outlined ((s.withoutRules p).nested depth) = (outlined (s.nested depth)).filter fun e => !e.2.isRule p
  | [] => rfl
  | n :: more => by
    rw [Sheet.withoutRules,Sheet.without,Sheet.nested_append,outlined_append,Node.nested_withoutRules p depth n,Sheet.nested,
      outlined_append,List.filter_append]
    exact congrArg _ (Sheet.nested_withoutRules p depth more)
end

-- The rules that satisfy `p` were taken out of a sheet, in order, and all else is left where and as it was.
structure Divided (p : Rule → Bool) (s : Sheet) (taken : List Rule) (left : Sheet) : Prop where
  taken : taken = s.rules.filter p
  rules : left.rules = s.rules.filter fun r => !p r
  outline : left.outline = s.outline.filter fun e => !e.2.isRule p

theorem Sheet.withoutRules_withoutRules (p q : Rule → Bool) (s : Sheet) :
    (s.withoutRules p).withoutRules q = s.withoutRules fun r => p r || q r := by
  refine (Sheet.without_without (onRule_shallow q) s).trans (Sheet.without_congr fun n _ => ?_)
  cases n <;> rfl

theorem Sheet.removedRules_withoutRules (p q : Rule → Bool) (s : Sheet) :
    (s.withoutRules p).removedRules q = s.rules.filter fun r => !p r && q r := by
  rw [Sheet.removedRules_eq,Sheet.rules_withoutRules,List.filter_filter]
  exact List.filter_congr fun r _ => Bool.and_comm _ _

-- What two removals take in all does not hang on which comes first.
theorem filter_either (p q : Rule → Bool) (l : List Rule) :
    (l.filter p ++ l.filter fun r => !p r && q r).Perm (l.filter fun r => p r || q r) := by
  have first : l.filter p = (l.filter fun r => p r || q r).filter p := by
    rw [List.filter_filter]
    refine List.filter_congr fun r _ => ?_
    cases p r <;> simp
  have second : (l.filter fun r => !p r && q r) = (l.filter fun r => p r || q r).filter fun r => !p r := by
    rw [List.filter_filter]
    refine List.filter_congr fun r _ => ?_
    cases p r <;> simp
  rw [first,second]
  exact List.filter_append_perm p _

theorem removal_partitions (p q : Rule → Bool) (s : Sheet) :
    (∀ taken left, taken = s.removedRules p ∧ left = s.withoutRules p ↔ Divided p s taken left) ∧
    (s.withoutRules p).withoutRules q = (s.withoutRules q).withoutRules p ∧
    (s.removedRules p ++ (s.withoutRules p).removedRules q).Perm (s.removedRules q ++ (s.withoutRules q).removedRules p) ∧
    (s.withoutRules p).removedRules p = [] ∧ (s.withoutRules p).withoutRules p = s.withoutRules p := by
  have outline := Sheet.nested_withoutRules p 0 s
  refine ⟨fun taken left => ⟨?_,fun parted => ⟨?_,?_⟩⟩,?_,?_,?_,?_⟩
  · rintro ⟨rfl,rfl⟩
    exact ⟨Sheet.removedRules_eq p s,Sheet.rules_withoutRules p s,outline⟩
  · rw [parted.taken,Sheet.removedRules_eq]
  · exact Sheet.outline_injective (parted.outline.trans outline.symm)
  · rw [Sheet.withoutRules_withoutRules,Sheet.withoutRules_withoutRules]
    exact congrArg s.withoutRules (funext fun r => Bool.or_comm _ _)
  · rw [Sheet.removedRules_withoutRules,Sheet.removedRules_withoutRules,Sheet.removedRules_eq,Sheet.removedRules_eq]
    have same : (fun r => p r || q r) = fun r => q r || p r := funext fun r => Bool.or_comm _ _
    exact (filter_either p q s.rules).trans (same ▸ (filter_either q p s.rules).symm)
  · rw [Sheet.removedRules_withoutRules,List.filter_eq_nil_iff]
    simp
  · rw [Sheet.withoutRules_withoutRules]
    exact congrArg s.withoutRules (funext fun r => Bool.or_self _)

-- A group in which there are only groups, however deep.
def Node.isDead (n : Node) : Bool := n.nodes.all Node.isGroup

theorem Node.isDead_group (name params : Text) (children : Sheet) :
    (Node.group name params children).isDead = children.all Node.isDead := by
  suffices all : children.nodes.all Node.isGroup = children.all Node.isDead by
    rw [Node.isDead,Node.nodes,List.all_cons,all]
    rfl
  induction children with
  | nil => rfl
  | cons n more ih => rw [Sheet.nodes,List.all_append,ih,List.all_cons,Node.isDead]

mutual
theorem Node.nodes_within : ∀ {n : Node}, m ∈ n.nodes → m.nodes ⊆ n.nodes
  | .rule _, inside | .statement .., inside | .block .., inside => by rw [List.mem_singleton.mp inside]; exact fun _ => id
  | .group .., inside => by
    rcases List.mem_cons.mp inside with rfl | deeper
    · exact fun _ => id
    · exact fun x found => List.mem_cons_of_mem _ (Sheet.nodes_within deeper found)
theorem Sheet.nodes_within : ∀ {s : Sheet}, m ∈ s.nodes → m.nodes ⊆ s.nodes
  | n :: more, inside => fun x found => by
    rcases List.mem_append.mp inside with first | later
    · exact List.mem_append_left _ (Node.nodes_within first found)
    · exact List.mem_append_right _ (Sheet.nodes_within later found)
end

theorem Node.isDead_nodes (dead : n.isDead = true) (inside : m ∈ n.nodes) : m.isDead = true :=
  List.all_eq_true.mpr fun x found => List.all_eq_true.mp dead x (Node.nodes_within inside found)

mutual
theorem Node.pruned_nil : ∀ n : Node, n.pruned = [] ↔ n.isDead = true
  | .rule _ | .statement .. | .block .. => by simp [Node.pruned,Node.isDead,Node.nodes,Node.isGroup]
  | .group name params children => by
    have inner := Sheet.pruned_nil children
    rw [Node.pruned,Node.isDead_group,← inner]
    split
    · rename_i none; exact iff_of_true rfl none
    · rename_i some; exact iff_of_false (List.cons_ne_nil _ _) some
-- Nothing is left of a sheet in which there is nothing but groups.
theorem Sheet.pruned_nil : ∀ s : Sheet, s.pruned = [] ↔ s.all Node.isDead = true
  | [] => by simp [Sheet.pruned]
  | n :: more => by
    rw [Sheet.pruned,List.append_eq_nil_iff,Node.pruned_nil n,Sheet.pruned_nil more,List.all_cons,Bool.and_eq_true]
end

-- A dead node is left out with all that it holds, as that is dead too.
theorem Node.nested_dead (dead : n.isDead = true) (depth : Nat) : (n.nested depth).filter (fun e => !e.2.isDead) = [] := by
  refine List.filter_eq_nil_iff.mpr fun e inside => ?_
  have found : e.2 ∈ n.nodes := Node.nested_nodes depth n ▸ List.mem_map_of_mem inside
  simp [Node.isDead_nodes dead found]

mutual
theorem Node.nested_pruned (depth : Nat) : ∀ n : Node,
    outlined (Sheet.nested depth n.pruned) = outlined ((n.nested depth).filter fun e => !e.2.isDead)
  | .rule _ | .statement .. | .block .. => rfl
  | .group name params children => by
    have inner := Sheet.nested_pruned (depth + 1) children
    cases dead : (Node.group name params children).isDead with
    | true => rw [(Node.pruned_nil _).mpr dead,Node.nested_dead dead]; rfl
    | false =>
      have alive : (Node.group name params children).pruned = [.group name params (Sheet.pruned children)] := by
        have some : Sheet.pruned children ≠ [] := fun none => by
          rw [Sheet.pruned_nil,← Node.isDead_group name params,dead] at none
          cases none
        rw [Node.pruned]
        split
        · contradiction
        · rfl
      rw [alive,Node.nested,List.filter_cons_of_pos (by simp [dead]),Sheet.nested,Sheet.nested,List.append_nil]
      exact congrArg ((depth,Head.group name params) :: ·) inner
theorem Sheet.nested_pruned (depth : Nat) : ∀ s : Sheet,
    outlined (s.pruned.nested depth) = outlined ((s.nested depth).filter fun e => !e.2.isDead)
  | [] => rfl
  | n :: more => by
    rw [Sheet.pruned,Sheet.nested_append,outlined_append,Node.nested_pruned depth n,Sheet.nested_pruned depth more,Sheet.nested,
      List.filter_append,outlined_append]
end

mutual
theorem Node.prunedCount_eq : ∀ n : Node, n.prunedCount = n.nodes.countP Node.isDead
  | .rule _ | .statement .. | .block .. => rfl
  | .group name params children => by
    have empty : (Sheet.pruned children).isEmpty = (Node.group name params children).isDead := by
      rw [Bool.eq_iff_iff,List.isEmpty_iff,Sheet.pruned_nil,Node.isDead_group]
    rw [Node.prunedCount,Sheet.prunedCount_eq children,empty,Node.nodes,List.countP_cons,Nat.add_comm]
theorem Sheet.prunedCount_eq : ∀ s : Sheet, s.prunedCount = s.nodes.countP Node.isDead
  | [] => rfl
  | n :: more => by
    rw [Sheet.prunedCount,Node.prunedCount_eq n,Sheet.prunedCount_eq more,Sheet.nodes,List.countP_append]
end

-- The dead groups were taken out of a sheet and counted, and all else is left where and as it was.
structure Cleared (s : Sheet) (count : Nat) (left : Sheet) : Prop where
  count : count = s.nodes.countP Node.isDead
  outline : left.outline = outlined ((s.nested 0).filter fun e => !e.2.isDead)

theorem pruning_clears (s : Sheet) :
    (∀ count left, count = s.prunedCount ∧ left = s.pruned ↔ Cleared s count left) ∧ s.pruned.rules = s.rules ∧
    (∀ name params, Node.group name params [] ∉ s.pruned.nodes) ∧ s.pruned.prunedCount = 0 ∧ s.pruned.pruned = s.pruned := by
  have outline := Sheet.nested_pruned 0 s
  obtain ⟨rests,none⟩ := Sheet.pruned_rests s
  refine ⟨fun count left => ⟨?_,fun cleared => ⟨?_,?_⟩⟩,Sheet.rules_pruned s,fun name params inside => ?_,none,rests⟩
  · rintro ⟨rfl,rfl⟩
    exact ⟨Sheet.prunedCount_eq s,outline⟩
  · rw [cleared.count,Sheet.prunedCount_eq]
  · exact Sheet.outline_injective (cleared.outline.trans outline.symm)
  · rw [Sheet.prunedCount_eq,List.countP_eq_zero] at none
    exact none _ inside rfl

end StyleTrim.Css
