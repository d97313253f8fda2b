import StyleTrim.Css.Sheet
namespace StyleTrim.Css

mutual
def Node.nodes : Node → List Node
  | .group name params children => .group name params children :: Sheet.nodes children
  | n => [n]
-- All nodes at every depth, a group before what it holds.
def Sheet.nodes : Sheet → List Node
  | [] => []
  | n :: more => n.nodes ++ Sheet.nodes more
end

theorem Sheet.nodes_append (s t : Sheet) : Sheet.nodes (s ++ t) = s.nodes ++ t.nodes := by
  induction s with
  | nil => rfl
  | cons n more ih => rw [List.cons_append,Sheet.nodes,ih,Sheet.nodes,List.append_assoc]

theorem Node.mem_nodes (n : Node) : n ∈ n.nodes := by cases n <;> simp [Node.nodes]

def Node.isGroup : Node → Bool
  | .group .. => true
  | _ => false

mutual
theorem Node.mem_rules {n : Node} : r ∈ n.rules ↔ .rule r ∈ n.nodes :=
  match n with
  | .rule _ => by simp [Node.rules,Node.nodes]
  | .statement .. | .block .. => by simp [Node.rules,Node.nodes]
  | .group _ _ children => by simp [Node.rules,Node.nodes,Sheet.mem_rules (s := children)]
theorem Sheet.mem_rules {s : Sheet} : r ∈ s.rules ↔ .rule r ∈ s.nodes :=
  match s with
  | [] => by simp [Sheet.rules,Sheet.nodes]
  | n :: more => by
    simp [Sheet.rules,Sheet.nodes,Node.mem_rules (n := n),Sheet.mem_rules (s := more)]
end

mutual
def Node.Grouped : Node → Prop
  | .group name _ children => isGroupName name = true ∧ Sheet.Grouped children
  | _ => True
-- Rules lie in at-rules that are groups by their name, and in no others.
def Sheet.Grouped : Sheet → Prop
  | [] => True
  | n :: more => n.Grouped ∧ Sheet.Grouped more
end

mutual
theorem Node.grouped_nodes : ∀ {n : Node}, n.Grouped → .group name params children ∈ n.nodes → isGroupName name = true
  | .rule _, _, inside | .statement .., _, inside | .block .., _, inside => by simp [Node.nodes] at inside
  | .group .., grouped, inside => by
    rcases List.mem_cons.mp inside with same | deeper
    · cases same; exact grouped.1
    · exact Sheet.grouped_nodes grouped.2 deeper
theorem Sheet.grouped_nodes : ∀ {s : Sheet}, s.Grouped → .group name params children ∈ s.nodes → isGroupName name = true
  | [], _, inside => by cases inside
  | _ :: _, grouped, inside => by
    rcases List.mem_append.mp inside with first | later
    · exact Node.grouped_nodes grouped.1 first
    · exact Sheet.grouped_nodes grouped.2 later
end

-- No selector reads like the text under which an animation is recorded.
def Sheet.Unmistaken (s : Sheet) : Prop := ∀ r ∈ s.rules, ¬ ("@keyframes " : Text) <+: r.selector

instance (s : Sheet) : Decidable s.Unmistaken := inferInstanceAs (Decidable (∀ r ∈ s.rules, ¬ _))

theorem group_no_keyframes (group : isGroupName name = true) : isKeyframesName name = false := by
  have known : name ∈ Text.ofStrings ["media","supports","document","-moz-document","container","layer","scope"] := by
    simpa [isGroupName,Text.isOneOf] using group
  simp only [Text.ofStrings,List.map_cons,List.map_nil,List.mem_cons,List.not_mem_nil,or_false] at known
  rcases known with rfl | rfl | rfl | rfl | rfl | rfl | rfl <;> decide

-- What a predicate says of a group does not hang on what the group holds. Only such a predicate
-- can be asked before or after another removal with the same answer.
def Shallow (p : Node → Bool) : Prop :=
  ∀ name params before after, p (.group name params before) = p (.group name params after)

theorem onRule_shallow (p : Rule → Bool) : Shallow (Sheet.onRule p) := fun _ _ _ _ => rfl

theorem Shallow.any {p : α → Node → Bool} (each : ∀ a, Shallow (p a)) (l : List α) : Shallow fun n => l.any fun a => p a n := by
  intro name params earlier later
  exact congrArg (l.any ·) (funext fun a => each a name params earlier later)

theorem Sheet.without_append (p : Node → Bool) (s t : Sheet) :
    Sheet.without p (s ++ t) = Sheet.without p s ++ Sheet.without p t := by
  induction s with
  | nil => rfl
  | cons n more ih => simp only [List.cons_append,Sheet.without,ih,List.append_assoc]

mutual
theorem Node.without_without (shallow : Shallow q) :
    ∀ n : Node, Sheet.without q (n.without p) = n.without fun m => p m || q m
  | .rule r | .statement name params | .block name params body => by
    simp only [Node.without]
    split <;> simp_all [Sheet.without,Node.without]
  | .group name params children => by
    have inner := Sheet.without_without (p := p) shallow children
    have same := shallow name params (Sheet.without p children) children
    simp only [Node.without]
    split <;> simp_all [Sheet.without,Node.without]
-- Two removals in a row take away what either of them takes.
theorem Sheet.without_without (shallow : Shallow q) :
    ∀ s : Sheet, Sheet.without q (Sheet.without p s) = Sheet.without (fun m => p m || q m) s
  | [] => rfl
  | n :: more => by
    rw [Sheet.without,Sheet.without_append,Node.without_without shallow n,Sheet.without_without shallow more,
      Sheet.without]
end

mutual
theorem Node.without_congr : ∀ {n : Node}, (∀ m ∈ n.nodes, p m = q m) → n.without p = n.without q
  | .rule r, same | .statement name params, same | .block name params body, same => by
    simp [Node.without,same _ (Node.mem_nodes _)]
  | .group name params children, same => by
    have self := same _ (Node.mem_nodes _)
    have inner := Sheet.without_congr (s := children) fun m inside => same m (by simp [Node.nodes,inside])
    simp only [Node.without,self,inner]
theorem Sheet.without_congr : ∀ {s : Sheet}, (∀ m ∈ s.nodes, p m = q m) → Sheet.without p s = Sheet.without q s
  | [], _ => rfl
  | n :: more, same => by
    rw [Sheet.without,Sheet.without,
      Node.without_congr (n := n) fun m inside => same m (by simp [Sheet.nodes,inside]),
      Sheet.without_congr (s := more) fun m inside => same m (by simp [Sheet.nodes,inside])]
end

mutual
theorem Node.without_none : ∀ n : Node, n.without (fun _ => false) = [n]
  | .rule _ | .statement .. | .block .. => rfl
  | .group _ _ children => by simp [Node.without,Sheet.without_none children]
theorem Sheet.without_none : ∀ s : Sheet, Sheet.without (fun _ => false) s = s
  | [] => rfl
  | n :: more => by rw [Sheet.without,Node.without_none n,Sheet.without_none more]; rfl
end

theorem Sheet.withoutRules_rests {s : Sheet} {p : Rule → Bool} (spared : ∀ r ∈ s.rules, p r = false) : s.withoutRules p = s := by
  refine (Sheet.without_congr fun n inside => ?_).trans (Sheet.without_none s)
  cases n with
  | rule r => exact spared r (Sheet.mem_rules.mpr inside)
  | statement | block | group => rfl

theorem Sheet.rules_append (s t : Sheet) : Sheet.rules (s ++ t) = s.rules ++ t.rules := by
  induction s with
  | nil => rfl
  | cons n more ih => rw [List.cons_append,Sheet.rules,ih,Sheet.rules,List.append_assoc]

mutual
theorem Node.rules_withoutRules (p : Rule → Bool) :
    ∀ n : Node, Sheet.rules (n.without (Sheet.onRule p)) = n.rules.filter fun r => !p r
  | .rule r => by
    cases goes : p r <;> simp [Node.without,Sheet.onRule,goes,Sheet.rules,Node.rules]
  | .statement .. | .block .. => rfl
  | .group name params children => by
    have inner := Sheet.rules_withoutRules p children
    simpa [Node.without,Sheet.onRule,Sheet.rules,Node.rules,Sheet.withoutRules] using inner
theorem Sheet.rules_withoutRules (p : Rule → Bool) :
    ∀ s : Sheet, Sheet.rules (s.withoutRules p) = s.rules.filter fun r => !p r
  | [] => rfl
  | n :: more => by
    rw [Sheet.withoutRules,Sheet.without,Sheet.rules_append,Node.rules_withoutRules p n,Sheet.rules,List.filter_append]
    exact congrArg _ (Sheet.rules_withoutRules p more)
end

theorem Sheet.removedRules_append (p : Rule → Bool) (s t : Sheet) :
    Sheet.removedRules p (s ++ t) = s.removedRules p ++ t.removedRules p := by
  have dropped : Sheet.dropped (Sheet.onRule p) (s ++ t) =
      Sheet.dropped (Sheet.onRule p) s ++ Sheet.dropped (Sheet.onRule p) t := by
    induction s with
    | nil => rfl
    | cons n more ih => rw [List.cons_append,Sheet.dropped,ih,Sheet.dropped,List.append_assoc]
  rw [Sheet.removedRules,dropped,List.filterMap_append]
  rfl

mutual
theorem Node.removedRules_eq (p : Rule → Bool) : ∀ n : Node, Sheet.removedRules p [n] = n.rules.filter p
  | .rule r => by
    cases goes : p r <;> simp [Sheet.removedRules,Sheet.dropped,Node.dropped,Sheet.onRule,goes,Node.rules]
  | .statement .. | .block .. => rfl
  | .group _ _ children => by
    have inner := Sheet.removedRules_eq p children
    simpa [Sheet.removedRules,Sheet.dropped,Node.dropped,Sheet.onRule,Node.rules] using inner
-- What a removal reports are the rules that it is about, in order.
theorem Sheet.removedRules_eq (p : Rule → Bool) : ∀ s : Sheet, s.removedRules p = s.rules.filter p
  | [] => rfl
  | n :: more => by
    rw [show n :: more = [n] ++ more from rfl,Sheet.removedRules_append,Node.removedRules_eq p n,
      Sheet.removedRules_eq p more,Sheet.rules_append,List.filter_append]
    simp [Sheet.rules]
end

-- What is about neither rules nor groups leaves all rules where they are.
structure SparesRules (p : Node → Bool) : Prop where
  rule : ∀ r, p (.rule r) = false
  group : ∀ name params children, isGroupName name = true → p (.group name params children) = false

theorem declaresAnimation_spares (a : Text) : SparesRules (Node.declaresAnimation a) where
  rule _ := rfl
  group name params children group := by
    simp [Node.declaresAnimation,Node.atRule?,group_no_keyframes group]

theorem SparesRules.any {p : α → Node → Bool} (spares : ∀ a, SparesRules (p a)) (as : List α) :
    SparesRules fun n => as.any fun a => p a n where
  rule r := by simp [(spares _).rule]
  group name params children group := by simp [(spares _).group name params children group]

mutual
theorem Node.rules_without (spares : SparesRules p) :
    ∀ {n : Node}, n.Grouped → Sheet.rules (n.without p) = n.rules
  | .rule r, _ => by simp [Node.without,spares.rule,Sheet.rules]
  | .statement name params, _ | .block name params body, _ => by
    simp only [Node.without]
    split <;> rfl
  | .group name params children, grouped => by
    simp [Node.without,spares.group name params children grouped.1,Sheet.rules,Node.rules,
      Sheet.rules_without spares grouped.2]
theorem Sheet.rules_without (spares : SparesRules p) :
    ∀ {s : Sheet}, s.Grouped → Sheet.rules (Sheet.without p s) = s.rules
  | [], _ => rfl
  | n :: more, grouped => by
    rw [Sheet.without,Sheet.rules_append,Node.rules_without spares grouped.1,Sheet.rules_without spares grouped.2,
      Sheet.rules]
end

theorem Sheet.grouped_append {s t : Sheet} : Sheet.Grouped (s ++ t) ↔ s.Grouped ∧ t.Grouped := by
  induction s with
  | nil => simp [Sheet.Grouped]
  | cons n more ih => simp [Sheet.Grouped,ih,and_assoc]

mutual
theorem Node.grouped_without (p : Node → Bool) : ∀ {n : Node}, n.Grouped → Sheet.Grouped (n.without p)
  | .rule _, _ | .statement .., _ | .block .., _ => by
    simp only [Node.without]
    split <;> simp [Sheet.Grouped,Node.Grouped]
  | .group name params children, grouped => by
    have inner := Sheet.grouped_without p grouped.2
    simp only [Node.without]
    split
    · trivial
    · exact ⟨⟨grouped.1,inner⟩,trivial⟩
theorem Sheet.grouped_without (p : Node → Bool) : ∀ {s : Sheet}, s.Grouped → Sheet.Grouped (Sheet.without p s)
  | [], _ => trivial
  | _ :: _, grouped => Sheet.grouped_append.mpr ⟨Node.grouped_without p grouped.1,Sheet.grouped_without p grouped.2⟩
end

theorem Sheet.pruned_append (s t : Sheet) : Sheet.pruned (s ++ t) = s.pruned ++ t.pruned := by
  induction s with
  | nil => rfl
  | cons n more ih => rw [List.cons_append,Sheet.pruned,ih,Sheet.pruned,List.append_assoc]

theorem Sheet.prunedCount_append (s t : Sheet) : Sheet.prunedCount (s ++ t) = s.prunedCount + t.prunedCount := by
  induction s with
  | nil => simp [Sheet.prunedCount]
  | cons n more ih => rw [List.cons_append,Sheet.prunedCount,ih,Sheet.prunedCount,Nat.add_assoc]

mutual
theorem Node.rules_pruned : ∀ n : Node, Sheet.rules n.pruned = n.rules
  | .rule _ | .statement .. | .block .. => rfl
  | .group name params children => by
    have inner := Sheet.rules_pruned children
    rw [Node.pruned]
    split
    · rename_i empty; rw [empty] at inner; exact inner
    · simpa only [Sheet.rules,Node.rules,List.append_nil] using inner
theorem Sheet.rules_pruned : ∀ s : Sheet, Sheet.rules s.pruned = s.rules
  | [] => rfl
  | n :: more => by
    rw [Sheet.pruned,Sheet.rules_append,Node.rules_pruned n,Sheet.rules_pruned more,Sheet.rules]
end

mutual
theorem Node.grouped_pruned : ∀ {n : Node}, n.Grouped → Sheet.Grouped n.pruned
  | .rule _, _ | .statement .., _ | .block .., _ => ⟨trivial,trivial⟩
  | .group name params children, grouped => by
    have inner := Sheet.grouped_pruned grouped.2
    rw [Node.pruned]
    split
    · trivial
    · exact ⟨⟨grouped.1,inner⟩,trivial⟩
theorem Sheet.grouped_pruned : ∀ {s : Sheet}, s.Grouped → Sheet.Grouped s.pruned
  | [], _ => trivial
  | _ :: _, grouped => Sheet.grouped_append.mpr ⟨Node.grouped_pruned grouped.1,Sheet.grouped_pruned grouped.2⟩
end

mutual
theorem Node.pruned_rests : ∀ n : Node, Sheet.pruned n.pruned = n.pruned ∧ Sheet.prunedCount n.pruned = 0
  | .rule _ | .statement .. | .block .. => ⟨rfl,rfl⟩
  | .group name params children => by
    obtain ⟨same,none⟩ := Sheet.pruned_rests children
    rw [Node.pruned]
    split
    · exact ⟨rfl,rfl⟩
    · rename_i kept
      have some : (Sheet.pruned children).isEmpty = false := by simpa using kept
      refine ⟨?_,by simp [Sheet.prunedCount,Node.prunedCount,same,none,some]⟩
      rw [Sheet.pruned,Node.pruned,same]
      split
      · contradiction
      · rfl
-- Pruning leaves nothing to prune.
theorem Sheet.pruned_rests : ∀ s : Sheet, Sheet.pruned s.pruned = s.pruned ∧ Sheet.prunedCount s.pruned = 0
  | [] => ⟨rfl,rfl⟩
  | n :: more => by
    obtain ⟨first,none⟩ := Node.pruned_rests n
    obtain ⟨rest,nothing⟩ := Sheet.pruned_rests more
    exact ⟨by rw [Sheet.pruned,Sheet.pruned_append,first,rest],
      by rw [Sheet.pruned,Sheet.prunedCount_append,none,nothing]⟩
end

end StyleTrim.Css
