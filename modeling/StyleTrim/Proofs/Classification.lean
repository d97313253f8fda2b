import Mathlib.Data.List.Nodup
import StyleTrim.Css.Strategy
import StyleTrim.Proofs.SheetWalks
namespace StyleTrim.Css
open Text
variable {s : Sheet} {n : Node} {r : Rule} {st : Strategy} {all : List Strategy}

theorem Selector.colon?_join (scan : Scan) (split : scan.colon? text = some (base,modifier)) :
    base ++ modifier = text := by
  induction text generalizing scan base with
  | nil => cases split
  | cons c rest ih =>
    rw [Scan.colon?] at split
    split at split
    · cases split; rfl
    · obtain ⟨⟨front,back⟩,inner,same⟩ := Option.map_eq_some_iff.mp split
      cases same
      rw [List.cons_append,ih _ inner]

-- A strategy is known by the selector that it decides on.
theorem Strategy.text_ofSelector (selector : Text) : (Strategy.ofSelector selector).text = selector := by
  unfold Strategy.ofSelector
  dsimp only
  split; · rfl
  split; · rfl
  split; · rfl
  split
  · rename_i base modifier found
    split at found
    · exact Selector.colon?_join _ found
    · cases found
  · split <;> rfl

theorem Strategy.ofSelector_not_animation (selector name : Text) : Strategy.ofSelector selector ≠ .animation name := by
  unfold Strategy.ofSelector
  dsimp only
  repeat' split
  all_goals exact Strategy.noConfusion

-- Where a strategy of a sheet comes from: a rule of the sheet or a keyframes at-rule.
def Node.strategy? : Node → Option Strategy
  | .rule r => some (.ofSelector r.selector)
  | .statement name params | .block name params _ =>
    if isKeyframesName name then some (.animation (animationName params)) else none
  | .group .. => none

mutual
theorem Node.strategies_eq : ∀ {n : Node}, n.Grouped → n.strategies = n.nodes.filterMap Node.strategy?
  | .rule _, _ => rfl
  | .statement name params, _ | .block name params _, _ => by
    cases kind : isKeyframesName name <;> simp [Node.strategies,Node.nodes,Node.strategy?,kind]
  | .group name params children, grouped => by
    rw [Node.strategies,Node.nodes,List.filterMap_cons_none rfl]
    simpa [group_no_keyframes grouped.1,grouped.1] using Sheet.strategies_eq grouped.2
theorem Sheet.strategies_eq : ∀ {s : Sheet}, s.Grouped → s.strategies = s.nodes.filterMap Node.strategy?
  | [], _ => rfl
  | n :: more, grouped => by
    rw [Sheet.strategies,Sheet.nodes,List.filterMap_append,Node.strategies_eq grouped.1,Sheet.strategies_eq grouped.2]
end

theorem Sheet.mem_firstSeen : st ∈ Sheet.firstSeen seen all → st ∈ all ∧ st.text ∉ seen := by
  intro found
  induction all generalizing seen with
  | nil => cases found
  | cons head more ih =>
    rw [Sheet.firstSeen] at found
    split at found
    · exact ⟨List.mem_cons_of_mem _ (ih found).1,(ih found).2⟩
    · rename_i fresh
      rcases List.mem_cons.mp found with rfl | later
      · exact ⟨List.mem_cons_self,by simpa using fresh⟩
      · obtain ⟨among,unseen⟩ := ih later
        exact ⟨List.mem_cons_of_mem _ among,fun old => unseen (List.mem_cons_of_mem _ old)⟩

-- No text is lost with the repetitions.
theorem Sheet.firstSeen_text (seen : List Text) (among : st ∈ all) (fresh : st.text ∉ seen) :
    ∃ kept ∈ Sheet.firstSeen seen all, kept.text = st.text := by
  induction all generalizing seen with
  | nil => cases among
  | cons head more ih =>
    rw [Sheet.firstSeen]
    split
    · rename_i old
      rcases List.mem_cons.mp among with rfl | later
      · exact absurd (by simpa using old) fresh
      · exact ih seen later fresh
    · by_cases same : st.text = head.text
      · exact ⟨head,List.mem_cons_self,same.symm⟩
      · rcases List.mem_cons.mp among with rfl | later
        · exact absurd rfl same
        · obtain ⟨kept,found,equal⟩ := ih (head.text :: seen) later (by simp [same,fresh])
          exact ⟨kept,List.mem_cons_of_mem _ found,equal⟩

theorem Sheet.mem_classify (grouped : s.Grouped) (found : st ∈ s.classify) :
    (∃ r ∈ s.rules, st = .ofSelector r.selector) ∨
      ∃ a, st = .animation a ∧ ∃ n ∈ s.nodes, n.strategy? = some (.animation a) := by
  have among := (Sheet.mem_firstSeen found).1
  rw [Sheet.strategies_eq grouped] at among
  obtain ⟨n,inside,origin⟩ := List.mem_filterMap.mp among
  cases n with
  | rule r => exact .inl ⟨r,Sheet.mem_rules.mpr inside,(Option.some.inj origin).symm⟩
  | statement name params | block name params body =>
    rw [Node.strategy?] at origin
    split at origin
    · rename_i kind
      exact .inr ⟨_,(Option.some.inj origin).symm,_,inside,by rw [Node.strategy?,if_pos kind]⟩
    · cases origin
  | group => cases origin

theorem Sheet.firstSeen_distinct (seen : List Text) (all : List Strategy) :
    ((Sheet.firstSeen seen all).map Strategy.text).Nodup := by
  induction all generalizing seen with
  | nil => exact List.nodup_nil
  | cons head more ih =>
    rw [Sheet.firstSeen]
    split
    · exact ih seen
    · refine List.nodup_cons.mpr ⟨fun again => ?_,ih _⟩
      obtain ⟨st,found,same⟩ := List.mem_map.mp again
      exact (Sheet.mem_firstSeen found).2 (same ▸ List.mem_cons_self)

theorem Sheet.classify_distinct (s : Sheet) : (s.classify.map Strategy.text).Nodup := Sheet.firstSeen_distinct [] _

-- No animation of the sheet is decided on under the text of the selector.
def Sheet.Unmasked (s : Sheet) (selector : Text) : Prop := ∀ a, .animation a ∈ s.classify → (Strategy.animation a).text ≠ selector

theorem Sheet.unmasked_of_own {selector : Text} (own : ¬ ("@keyframes " : Text) <+: selector) : s.Unmasked selector :=
  fun a _ same => own ⟨a,same⟩

-- The entry under the text of a selector is the strategy of that selector.
theorem Sheet.classified_rule (grouped : s.Grouped) (own : s.Unmasked r.selector) (inside : r ∈ s.rules) :
    Strategy.ofSelector r.selector ∈ s.classify := by
  have strategy : Strategy.ofSelector r.selector ∈ s.strategies := by
    rw [Sheet.strategies_eq grouped]
    exact List.mem_filterMap.mpr ⟨_,Sheet.mem_rules.mp inside,rfl⟩
  obtain ⟨kept,found,same⟩ := Sheet.firstSeen_text [] strategy (by simp)
  rw [Strategy.text_ofSelector] at same
  rcases Sheet.mem_classify grouped found with ⟨other,_,rfl⟩ | ⟨a,rfl,_⟩
  · rw [Strategy.text_ofSelector] at same
    rwa [← same]
  · exact absurd same (own a found)

theorem Sheet.classified_animation (grouped : s.Grouped) (unmistaken : s.Unmistaken) (inside : n ∈ s.nodes)
    (head : n.strategy? = some (.animation a)) : Strategy.animation a ∈ s.classify := by
  have strategy : Strategy.animation a ∈ s.strategies := by
    rw [Sheet.strategies_eq grouped]
    exact List.mem_filterMap.mpr ⟨n,inside,head⟩
  obtain ⟨kept,found,same⟩ := Sheet.firstSeen_text [] strategy (by simp)
  rcases Sheet.mem_classify grouped found with ⟨r,among,rfl⟩ | ⟨b,rfl,_⟩
  · rw [Strategy.text_ofSelector] at same
    exact absurd ⟨a,same.symm⟩ (unmistaken r among)
  · have equal : b = a := List.append_cancel_left same
    exact equal ▸ found

end StyleTrim.Css
