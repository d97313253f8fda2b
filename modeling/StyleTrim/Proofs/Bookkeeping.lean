import Mathlib.Data.List.Nodup
import StyleTrim.Proofs.Animations
namespace StyleTrim
open Text Css
variable {o document browser other : Oracle} {w : Whitelist} {c : Cleaning} {s sheet before after : Sheet} {n : Node}
  {st : Strategy} {all strategies : List Strategy} {followsData : Bool} {a selector : Text} {removals : Removals}
  {category : Category} {p : Node → Bool}

-- What the passes record is what is gone: every selector once, under its own category, in the order in
-- which the sheet first names it.

theorem filter_eraseDups (q : Text → Bool) (texts : List Text) : texts.eraseDups.filter q = (texts.filter q).eraseDups := by
  induction size : texts.length using Nat.strongRecOn generalizing texts with
  | ind n ih =>
    cases texts with
    | nil => rfl
    | cons t more =>
      have shorter : (more.filter fun u => !u == t).length < n := by
        have := List.length_filter_le (fun u => !u == t) more
        rw [← size,List.length_cons]
        omega
      rw [List.eraseDups_cons,List.filter_cons,ih _ shorter _ rfl,List.filter_filter,List.filter_cons]
      split
      · rw [List.eraseDups_cons,List.filter_filter]
        simp only [Bool.and_comm]
      · rename_i stays
        -- Where the text itself does not count, neither do its repetitions.
        refine congrArg _ (List.filter_congr fun u _ => ?_)
        by_cases same : u = t
        · rw [same]
          simp [stays]
        · simp [same]

namespace Css

theorem Sheet.firstSeen_texts (seen : List Text) (all : List Strategy) :
    (Sheet.firstSeen seen all).map Strategy.text =
      ((all.map Strategy.text).filter fun t => !seen.contains t).eraseDups := by
  induction all generalizing seen with
  | nil => rfl
  | cons head more ih =>
    rw [Sheet.firstSeen,List.map_cons,List.filter_cons]
    cases old : seen.contains head.text with
    | true =>
      simp only [↓reduceIte,Bool.not_true,Bool.false_eq_true]
      exact ih seen
    | false =>
      simp only [Bool.false_eq_true,↓reduceIte,Bool.not_false,List.map_cons,List.eraseDups_cons,ih,List.filter_filter]
      refine congrArg (head.text :: ·.eraseDups) (List.filter_congr fun t _ => ?_)
      rw [List.contains_cons,Bool.not_or]

mutual
theorem Node.dropped_eq : ∀ {n : Node}, SparesGroups p n.nodes → n.dropped p = n.nodes.filter p
  | .rule _, _ | .statement .., _ | .block .., _ => by
    simp only [Node.dropped,Node.nodes,List.filter_cons,List.filter_nil]
  | .group name params children, spares => by
    have inner := Sheet.dropped_eq (s := children) fun name params children inside =>
      spares name params children (List.mem_cons_of_mem _ inside)
    have stays := spares name params children (Node.mem_nodes _)
    simp only [Node.dropped,Node.nodes,List.filter_cons,stays,Bool.false_eq_true,↓reduceIte,inner]
-- A removal that spares groups reports the nodes that it is about.
theorem Sheet.dropped_eq : ∀ {s : Sheet}, SparesGroups p s.nodes → Sheet.dropped p s = s.nodes.filter p
  | [], _ => rfl
  | n :: more, spares => by
    rw [Sheet.dropped,Sheet.nodes,List.filter_append,
      Node.dropped_eq fun name params children inside => spares name params children (List.mem_append_left _ inside),
      Sheet.dropped_eq fun name params children inside => spares name params children (List.mem_append_right _ inside)]
end

theorem Sheet.countAnimation_pos (grouped : s.Grouped) : 0 < s.countAnimation a ↔ a ∈ s.animations := by
  have spares : SparesGroups (Node.declaresAnimation a) s.nodes := fun name params children inside =>
    (declaresAnimation_spares a).group name params children (Sheet.grouped_nodes grouped inside)
  rw [Sheet.countAnimation,Sheet.dropped_eq spares,List.length_pos_iff_exists_mem,Sheet.mem_animations]
  simp only [List.mem_filter]

-- A removal that is about some animations leaves the names of the others.
theorem Sheet.animations_without (left : Text → Bool) (grouped : s.Grouped) (spares : SparesGroups p s.nodes)
    (about : ∀ n ∈ s.nodes, ∀ a, n.animation? = some a → p n = !left a) :
    (s.without p).animations = s.animations.filter left := by
  rw [Sheet.animations_weighed (Sheet.grouped_without p grouped),Sheet.weighed_without spares,
    Sheet.animations_weighed grouped,List.filterMap_filter,List.filter_filterMap]
  refine List.filterMap_congr fun n inside => ?_
  cases named : n.animation? with
  | none => simp
  | some a =>
    rw [about n (List.mem_filter.mp inside).1 a named]
    cases known : left a <;> simp [known,Option.filter]

theorem Sheet.animations_withoutAnimation (grouped : s.Grouped) (a : Text) :
    (s.withoutAnimation a).animations = s.animations.filter (· != a) := by
  refine Sheet.animations_without _ grouped (fun name params children inside =>
    (declaresAnimation_spares a).group name params children (Sheet.grouped_nodes grouped inside)) fun n _ b named => ?_
  rw [Bool.eq_iff_iff,Node.declaresAnimation_iff,named]
  simp

theorem Sheet.animations_pruned (grouped : s.Grouped) : s.pruned.animations = s.animations := by
  rw [Sheet.animations_weighed (Sheet.grouped_pruned grouped),Sheet.weighed_pruned,Sheet.animations_weighed grouped]

theorem Sheet.animations_filtered {keepsRule : Rule → Bool} {keepsAnimation : Text → Bool} (grouped : s.Grouped) :
    (s.filtered keepsRule keepsAnimation).animations = s.animations.filter keepsAnimation := by
  rw [← Sheet.pruned_without,Sheet.animations_pruned (Sheet.grouped_without _ grouped)]
  refine Sheet.animations_without _ grouped (fun _ _ _ _ => rfl) fun n inside a named => ?_
  cases n with
  | rule r => cases named
  | statement name params | block name params body =>
    cases kind : isKeyframesName name <;> simp_all [Node.animation?,Node.atRule?,Node.falls]
  | group name params children => rw [Sheet.group_animation grouped inside] at named; cases named

def Node.rule? : Node → Option Rule
  | .rule r => some r
  | _ => none

mutual
theorem Node.rules_nodes : ∀ n : Node, n.rules = n.nodes.filterMap Node.rule?
  | .rule _ | .statement .. | .block .. => rfl
  | .group _ _ children => Sheet.rules_nodes children
theorem Sheet.rules_nodes : ∀ s : Sheet, s.rules = s.nodes.filterMap Node.rule?
  | [] => rfl
  | n :: more => by rw [Sheet.rules,Sheet.nodes,List.filterMap_append,Node.rules_nodes n,Sheet.rules_nodes more]
end

theorem Sheet.classify_texts (grouped : s.Grouped) (q : Text → Bool) :
    (s.classify.filter fun st => q st.text).map Strategy.text =
      (s.nodes.filterMap fun n => (n.strategy?.map Strategy.text).filter q).eraseDups := by
  have texts : s.classify.map Strategy.text = (s.strategies.map Strategy.text).eraseDups :=
    (Sheet.firstSeen_texts [] _).trans (congrArg _ (List.filter_eq_self.mpr fun _ _ => rfl))
  have parted : (s.classify.filter fun st => q st.text).map Strategy.text = (s.classify.map Strategy.text).filter q :=
    List.filter_map.symm
  rw [parted,texts,filter_eraseDups,Sheet.strategies_eq grouped,List.map_filterMap,List.filter_filterMap]

-- A question about selectors is put to the rules, whatever animations there are.
theorem Sheet.classified_selectors (grouped : s.Grouped) {q : Text → Bool}
    (other : ∀ a ∈ s.animations, q (Strategy.animation a).text = false) :
    (s.classify.filter fun st => q st.text).map Strategy.text = (s.rules.map (·.selector)).eraseDups.filter q := by
  rw [Sheet.classify_texts grouped,filter_eraseDups,Sheet.rules_nodes,List.map_filterMap,List.filter_filterMap]
  refine congrArg _ (List.filterMap_congr fun n inside => ?_)
  cases n with
  | rule r => simp [Node.strategy?,Node.rule?,Strategy.text_ofSelector]
  | statement name params | block name params body =>
    cases kind : isKeyframesName name with
    | false => simp [Node.strategy?,Node.rule?,kind]
    | true =>
      have declared := other (animationName params)
        (List.mem_filterMap.mpr ⟨_,inside,by simp [Node.animation?,Node.atRule?,kind]⟩)
      simp [Node.strategy?,Node.rule?,kind,Option.filter,declared]
  | group => rfl

-- A question about animations is put to the at-rules that declare them.
theorem Sheet.classified_animations (grouped : s.Grouped) {q gone : Text → Bool}
    (other : ∀ r ∈ s.rules, q r.selector = false) (own : ∀ a ∈ s.animations, q (Strategy.animation a).text = gone a) :
    (s.classify.filter fun st => q st.text).map Strategy.text =
      ((s.animations.filter gone).map fun a => (Strategy.animation a).text).eraseDups := by
  rw [Sheet.classify_texts grouped,Sheet.animations,List.filter_filterMap,List.map_filterMap]
  refine congrArg _ (List.filterMap_congr fun n inside => ?_)
  cases n with
  | rule r =>
    have spared := other r (Sheet.mem_rules.mpr inside)
    simp [Node.strategy?,Node.animation?,Node.atRule?,Strategy.text_ofSelector,Option.filter,spared]
  | statement name params | block name params body =>
    cases kind : isKeyframesName name with
    | false => simp [Node.strategy?,Node.animation?,Node.atRule?,kind]
    | true =>
      have declared := own (animationName params)
        (List.mem_filterMap.mpr ⟨_,inside,by simp [Node.animation?,Node.atRule?,kind]⟩)
      cases known : gone (animationName params) <;>
        simp [Node.strategy?,Node.animation?,Node.atRule?,kind,Option.filter,declared,known]
  | group name params children =>
    rw [Sheet.group_animation grouped inside]
    rfl

-- Whether some rule with entries has the selector.
def Sheet.fills (s : Sheet) (selector : Text) : Bool := s.rules.any fun r => r.selector == selector && !r.isEmpty

theorem Sheet.countSelector_pos : 0 < s.countSelector selector ↔ ∃ r ∈ s.rules, r.selector = selector := by
  rw [Sheet.countSelector,Sheet.removedRules_eq,List.length_pos_iff_exists_mem]
  simp only [List.mem_filter,beq_iff_eq]

-- Rules that a removal is not about are counted as before.
theorem Sheet.countSelector_spared {q : Rule → Bool} (spared : ∀ r ∈ s.rules, r.selector = selector → q r = false) :
    0 < (s.withoutRules q).countSelector selector ↔ 0 < s.countSelector selector := by
  simp only [Sheet.countSelector_pos,Sheet.rules_withoutRules,List.mem_filter,Bool.not_eq_true']
  constructor
  · rintro ⟨r,⟨inside,_⟩,own⟩
    exact ⟨r,inside,own⟩
  · rintro ⟨r,inside,own⟩
    exact ⟨r,⟨inside,spared r inside own⟩,own⟩

end Css

namespace Removals

theorem of_add (r : Removals) (category other : Category) (selector : Text) :
    (r.add category selector).of other = r.of other ++ if category = other then [selector] else [] := by
  simp only [of,add,List.filter_append,List.map_append]
  by_cases same : category = other <;> simp [same]

theorem total_zero_iff (r : Removals) : r.total = 0 ↔ ∀ category, r.of category = [] := by
  simp only [total,List.length_eq_zero_iff,of,List.map_eq_nil_iff,List.filter_eq_nil_iff,decide_eq_true_eq]
  constructor
  · intro none category
    rw [none]
    exact nofun
  · intro none
    refine List.eq_nil_iff_forall_not_mem.mpr fun entry inside => none entry.1 entry inside rfl

theorem mem_insertByName (one other : Category) (more : List Category) :
    one ∈ insertByName other more ↔ one = other ∨ one ∈ more := by
  induction more with
  | nil => simp [insertByName]
  | cons next more ih =>
    rw [insertByName]
    split
    · simp
    · simp [ih,or_left_comm]

theorem mem_categories (r : Removals) (category : Category) : category ∈ r.categories ↔ r.of category ≠ [] := by
  have sorted : ∀ l : List Category, category ∈ l.foldr insertByName [] ↔ category ∈ l := by
    intro l
    induction l with
    | nil => rfl
    | cons next more ih => rw [List.foldr_cons,mem_insertByName,ih,List.mem_cons]
  have known : category ∈ Category.all := by cases category <;> decide
  rw [categories,sorted,List.mem_filter]
  simp [known,count]

-- A tally is told for each category with removals, and counts the selectors that it lists.
theorem mem_tallies (r : Removals) (entry : Text × Tally) : entry ∈ r.tallies ↔
    ∃ category, r.of category ≠ [] ∧ entry = (category.name,⟨(r.of category).length,r.of category⟩) := by
  simp only [tallies,List.mem_map,mem_categories,count,eq_comm (b := entry)]

end Removals

namespace Cleaning

variable {gone : Strategy → Bool} {f : Cleaning → Strategy → Cleaning}

-- What goes at a strategy's turn is what was there before the run: no other entry has its text.
theorem run_records (decides : ∀ c st, Informed o c → Decides o (gone st) st c (f c st)) (informed : Informed o c)
    (distinct : (strategies.map Strategy.text).Nodup) (category : Category) :
    (strategies.foldl f c).removals.of category = c.removals.of category ++ (strategies.filter fun st =>
      gone st && st.category == category && decide (0 < c.sheet.countSelector st.text)).map Strategy.text := by
  induction strategies generalizing c with
  | nil => exact (List.append_nil _).symm
  | cons st more ih =>
    have step := decides c st informed
    obtain ⟨fresh,apart⟩ := List.nodup_cons.mp distinct
    have counted : ∀ later ∈ more, (0 < (f c st).sheet.countSelector later.text ↔ 0 < c.sheet.countSelector later.text) := by
      intro later inside
      rw [step.sheet]
      split
      · refine Sheet.countSelector_spared fun r _ own => ?_
        rw [own]
        exact beq_eq_false_iff_ne.mpr fun same => fresh (same ▸ List.mem_map_of_mem inside)
      · rfl
    have rest : (more.filter fun st' => gone st' && st'.category == category && decide (0 < (f c st).sheet.countSelector st'.text)) =
        more.filter fun st' => gone st' && st'.category == category && decide (0 < c.sheet.countSelector st'.text) :=
      List.filter_congr fun later inside => by simp only [counted later inside]
    rw [List.foldl_cons,ih step.informed apart,rest,List.filter_cons,step.removals]
    cases gone st with
    | false => rfl
    | true =>
      by_cases present : 0 < c.sheet.countSelector st.text
      · by_cases own : st.category = category
        · simp [present,own,Removals.of_add]
        · simp [present,own,Removals.of_add]
      · simp [present]

-- What a pass does for a strategy, and the category that it is about.
abbrev Pass := (Cleaning → Strategy → Cleaning) × Category

def inTurn (strategies : List Strategy) (passes : List Pass) (c : Cleaning) : Cleaning :=
  passes.foldl (fun c pass => strategies.foldl pass.1 c) c

def Pass.Decides (w : Whitelist) (o : Oracle) (pass : Pass) : Prop :=
  ∀ c st, Informed o c → Cleaning.Decides o (goes w o pass.2 st) st c (pass.1 c st)

-- The passes that ask one oracle about selectors, and the one about components.
def singlePasses (w : Whitelist) (o : Oracle) : List Pass :=
  [(forList w o,.anyOf),(forPlain w o,.plain),(forStateful w o,.stateful),(forEscaped w o,.escaped)]

theorem singlePasses_decide : ∀ pass ∈ singlePasses w o, pass.Decides w o := by
  intro pass inside
  simp only [singlePasses,List.mem_cons,List.not_mem_nil,or_false] at inside
  rcases inside with rfl | rfl | rfl | rfl
  · exact fun _ _ => forList_decides
  · exact fun _ _ => forPlain_decides
  · exact fun _ _ => forStateful_decides
  · exact fun _ _ => forEscaped_decides

theorem singlePasses_categories (w : Whitelist) (o : Oracle) :
    (singlePasses w o).map (·.2) = [.anyOf,.plain,.stateful,.escaped] := rfl

theorem goes_category (gone : goes w o category st = true) : st.category = category := by
  simp only [goes,Bool.and_eq_true,beq_iff_eq] at gone
  exact gone.1.1

-- A pass about one category does not touch what another one is about.
theorem other_counted (distinct : (strategies.map Strategy.text).Nodup) (inside : st ∈ strategies)
    (quiet : goes w o category st = false) :
    0 < (s.withoutRules fun r => strategies.any fun st => goes w o category st && r.selector == st.text).countSelector st.text ↔
      0 < s.countSelector st.text := by
  refine Sheet.countSelector_spared fun r _ own => List.any_eq_false.mpr fun st' among yes => ?_
  obtain ⟨gone,same⟩ := Bool.and_eq_true_iff.mp yes
  have equal : st' = st := List.inj_on_of_nodup_map distinct among inside ((eq_of_beq same).symm.trans own)
  rw [equal,quiet] at gone
  cases gone

theorem inTurn_records (passes : List Pass) (decide' : ∀ pass ∈ passes, pass.Decides w o)
    (apart : (passes.map (·.2)).Nodup) (informed : Informed o c) (distinct : (strategies.map Strategy.text).Nodup)
    (category : Category) : (inTurn strategies passes c).removals.of category = c.removals.of category ++
      if category ∈ passes.map (·.2) then
        (strategies.filter fun st => goes w o category st && decide (0 < c.sheet.countSelector st.text)).map Strategy.text
      else [] := by
  induction passes generalizing c with
  | nil => simp [inTurn]
  | cons pass more ih =>
    obtain ⟨fresh,apart⟩ := List.nodup_cons.mp apart
    have decides := decide' pass List.mem_cons_self
    obtain ⟨left,informed',_⟩ := run_decides strategies decides informed
    have first := run_records decides informed distinct category
    have rest := ih (fun pass inside => decide' pass (List.mem_cons_of_mem _ inside)) apart informed'
    rw [inTurn,List.foldl_cons]
    refine rest.trans ?_
    rw [first,List.map_cons]
    by_cases own : category = pass.2
    · subst own
      rw [if_neg fresh,if_pos List.mem_cons_self,List.append_nil]
      refine congrArg (fun l => _ ++ l.map Strategy.text) (List.filter_congr fun st _ => ?_)
      cases gone : goes w o pass.2 st with
      | true => simp [goes_category gone]
      | false => rfl
    · have none : (strategies.filter fun st => goes w o pass.2 st && st.category == category &&
          decide (0 < c.sheet.countSelector st.text)) = [] := by
        refine List.filter_eq_nil_iff.mpr fun st _ yes => own ?_
        simp only [Bool.and_eq_true,beq_iff_eq] at yes
        exact yes.1.2.symm.trans (goes_category yes.1.1)
      rw [none,List.map_nil,List.append_nil]
      by_cases later : category ∈ more.map (·.2)
      · rw [if_pos later,if_pos (List.mem_cons_of_mem _ later)]
        refine congrArg (fun l => _ ++ l.map Strategy.text) (List.filter_congr fun st inside => ?_)
        cases gone : goes w o category st with
        | false => rfl
        | true =>
          have quiet : goes w o pass.2 st = false := Bool.eq_false_iff.mpr fun earlier =>
            own ((goes_category gone).symm.trans (goes_category earlier))
          simp only [left,other_counted distinct inside quiet]
      · rw [if_neg later,if_neg (by simp [own,later])]

theorem inTurn_grouped (passes : List Pass) (decide' : ∀ pass ∈ passes, pass.Decides w o) (informed : Informed o c)
    (grouped : c.sheet.Grouped) : (inTurn strategies passes c).sheet.Grouped := by
  induction passes generalizing c with
  | nil => exact grouped
  | cons pass more ih =>
    obtain ⟨left,informed',_⟩ := run_decides strategies (decide' pass List.mem_cons_self) informed
    exact ih (fun pass inside => decide' pass (List.mem_cons_of_mem _ inside)) informed'
      (left ▸ Sheet.grouped_without _ grouped)

-- Whether a strategy is about an animation that is declared while nothing protects or names it.
def lapses (w : Whitelist) (sheet : Sheet) : Strategy → Bool
  | .animation a => !(w.protectsAnimation a || sheet.referencesAnimation a) && sheet.animations.contains a
  | _ => false

theorem forAnimation_removals (grouped : c.sheet.Grouped) : (forAnimation w c st).removals =
    if lapses w c.sheet st then c.removals.add .animation st.text else c.removals := by
  cases st with
  | animation a =>
    have declared : (0 < c.sheet.countAnimation a) ↔ c.sheet.animations.contains a = true :=
      (Sheet.countAnimation_pos grouped).trans List.contains_iff_mem.symm
    by_cases safe : (w.protectsAnimation a || c.sheet.referencesAnimation a) = true
    · have none : lapses w c.sheet (.animation a) = false := by simp only [lapses,safe]; rfl
      rw [forAnimation,if_pos safe,none]
      rfl
    · have all : lapses w c.sheet (.animation a) = c.sheet.animations.contains a := by simp only [lapses,safe]; rfl
      rw [forAnimation,if_neg safe,all]
      simp only [declared]
      split <;> rfl
  | _ => rfl

-- The turn of one animation does not change the case of another.
theorem lapses_later (grouped : c.sheet.Grouped) {later : Strategy} (apart : later.text ≠ st.text) :
    lapses w (forAnimation w c st).sheet later = lapses w c.sheet later := by
  have rules : (forAnimation w c st).sheet.rules = c.sheet.rules := by
    rw [forAnimation_sheet,Sheet.rules_without (forgets_spares w c.sheet st) grouped]
  cases later with
  | animation b =>
    have listed : (forAnimation w c st).sheet.animations.contains b = c.sheet.animations.contains b := by
      cases st with
      | animation a =>
        have other : b ≠ a := fun same => apart (by rw [same])
        rw [forAnimation]
        split
        · rfl
        · split
          · rw [record,Sheet.animations_withoutAnimation grouped,Bool.eq_iff_iff,List.contains_iff_mem,List.contains_iff_mem,
              List.mem_filter]
            simp [other]
          · rfl
      | _ => rfl
    simp only [lapses,Sheet.referencesAnimation,rules,listed]
  | _ => rfl

theorem animations_records (grouped : c.sheet.Grouped) (distinct : (strategies.map Strategy.text).Nodup)
    (category : Category) : (animations w strategies c).removals.of category = c.removals.of category ++
      if category = .animation then (strategies.filter (lapses w c.sheet)).map Strategy.text else [] := by
  unfold animations
  induction strategies generalizing c with
  | nil => simp
  | cons st more ih =>
    obtain ⟨fresh,apart⟩ := List.nodup_cons.mp distinct
    have inner : (forAnimation w c st).sheet.Grouped := forAnimation_sheet ▸ Sheet.grouped_without _ grouped
    have rest : more.filter (lapses w (forAnimation w c st).sheet) = more.filter (lapses w c.sheet) :=
      List.filter_congr fun later inside => lapses_later grouped fun same => fresh (same ▸ List.mem_map_of_mem inside)
    rw [List.foldl_cons,ih inner apart,rest,forAnimation_removals grouped,List.filter_cons]
    by_cases own : category = .animation
    · subst own
      split
      · simp [Removals.of_add]
      · rfl
    · have other : Category.animation ≠ category := fun same => own same.symm
      split
      · simp [Removals.of_add,other]
      · simp

-- The passes of both kinds of run: the document is asked about components, another oracle about the rest.
def runPasses (w : Whitelist) (strategies : List Strategy) (followsData : Bool) (document other : Oracle) (sheet : Sheet) :
    Cleaning :=
  let c := components w strategies document (of sheet).emptyRules
  if followsData then c else selectors w strategies other c

theorem emptyRules_records (sheet : Sheet) (category : Category) : (of sheet).emptyRules.removals.of category =
    if category = .empty then (sheet.rules.filter Rule.isEmpty).map (·.selector) else [] := by
  have run : ∀ (selectors : List Text) (c : Cleaning),
      (selectors.foldl (fun c s => c.record .empty s) c).removals.of category =
        c.removals.of category ++ if category = .empty then selectors else [] := by
    intro selectors
    induction selectors with
    | nil => exact fun c => by simp
    | cons s more ih =>
      intro c
      rw [List.foldl_cons,ih,record,Removals.of_add]
      by_cases own : category = .empty
      · simp [own]
      · have other : Category.empty ≠ category := fun same => own same.symm
        simp [own,other]
  rw [emptyRules,run,Sheet.emptySelectors,Sheet.removedRules_eq]
  rfl

theorem components_records (w : Whitelist) (o : Oracle) (sheet : Sheet)
    (distinct : (strategies.map Strategy.text).Nodup) (category : Category) :
    (components w strategies o (of sheet).emptyRules).removals.of category =
      (if category = .empty then (sheet.rules.filter Rule.isEmpty).map (·.selector) else []) ++
        if category = .component then (strategies.filter fun st => goes w o .component st &&
          decide (0 < sheet.withoutEmptyRules.countSelector st.text)).map Strategy.text
        else [] := by
  obtain ⟨early,fresh⟩ := emptyRules_facts (o := o) sheet
  have run := inTurn_records (w := w) [(forComponent w o,.component)]
    (fun pass inside => by rw [List.mem_singleton.mp inside]; exact fun _ _ => forComponent_decides)
    (List.nodup_singleton _) fresh distinct category
  rw [emptyRules_records,early] at run
  refine run.trans (congrArg _ ?_)
  by_cases component : category = .component
  · subst component
    rfl
  · simp [component]

theorem selectors_records (grouped : c.sheet.Grouped) (distinct : (strategies.map Strategy.text).Nodup)
    (category : Category) : (selectors w strategies o c).removals.of category = c.removals.of category ++
      (if category ∈ [Category.anyOf,.plain,.stateful,.escaped] then (strategies.filter fun st =>
        goes w o category st && decide (0 < c.sheet.countSelector st.text)).map Strategy.text else []) ++
      if category = .animation then (strategies.filter (lapses w
        (inTurn strategies (singlePasses w o) {c with crowd := none}).sheet)).map Strategy.text else [] := by
  have fresh : Informed o {c with crowd := none} := fun _ known => nomatch known
  have run := inTurn_records (singlePasses w o) singlePasses_decide (by rw [singlePasses_categories]; decide) fresh
    distinct category
  have inner : (inTurn strategies (singlePasses w o) {c with crowd := none}).sheet.Grouped :=
    inTurn_grouped _ singlePasses_decide fresh grouped
  have last := animations_records (w := w) inner distinct category
  rw [run,singlePasses_categories] at last
  exact last

-- Which pass it is that does not keep a strategy.
theorem unkept_eq (st : Strategy) (category : Category) : (st.category == category && !keeps w document other followsData st) =
    if category = .component then goes w document .component st
    else !followsData && [Category.anyOf,.plain,.stateful,.escaped].contains category && goes w other category st := by
  by_cases own : st.category = category
  · subst own
    unfold keeps goes
    generalize w.protectsStrategy st = safe
    cases st with
    | component => cases safe <;> rfl
    | vendor | animation => cases safe <;> cases followsData <;> rfl
    | _ =>
      generalize other.uses _ = found
      cases safe <;> cases followsData <;> cases found <;> rfl
  · have apart : (st.category == category) = false := beq_eq_false_iff_ne.mpr own
    rw [apart]
    split
    · rename_i component
      rw [component] at apart
      simp [goes,apart]
    · simp [goes,apart]

theorem components_left (w : Whitelist) (o : Oracle) (strategies : List Strategy) (sheet : Sheet) :
    (components w strategies o (of sheet).emptyRules).sheet = sheet.withoutEmptyRules.withoutRules fun r =>
      strategies.any fun st => goes w o .component st && r.selector == st.text := by
  rw [components_any,Sheet.withoutEmptyRules,Sheet.withoutRules_twice]

-- Selectors are recorded that are not kept and have a rule with entries.
theorem runPasses_records (w : Whitelist) (followsData : Bool) (document other : Oracle) (grouped : sheet.Grouped)
    (distinct : (strategies.map Strategy.text).Nodup) (full : category ≠ .empty) (named : category ≠ .animation) :
    (runPasses w strategies followsData document other sheet).removals.of category =
      (strategies.filter fun st => st.category == category && !keeps w document other followsData st &&
        decide (0 < sheet.withoutEmptyRules.countSelector st.text)).map Strategy.text := by
  have first := components_records w document sheet distinct category
  rw [if_neg full,List.nil_append] at first
  have inner : (components w strategies document (of sheet).emptyRules).sheet.Grouped :=
    components_left .. ▸ Sheet.grouped_without _ (Sheet.grouped_without _ grouped)
  simp only [unkept_eq]
  unfold runPasses
  cases followsData with
  | true =>
    dsimp only
    rw [if_pos rfl,first]
    split
    · rename_i component
      subst component
      rfl
    · simp
  | false =>
    refine (selectors_records inner distinct category).trans ?_
    rw [if_neg named,List.append_nil,first,components_left]
    by_cases component : category = .component
    · subst component
      simp
    · by_cases single : category ∈ [Category.anyOf,.plain,.stateful,.escaped]
      · rw [if_neg component,if_pos single,List.nil_append]
        refine congrArg (List.map Strategy.text) (List.filter_congr fun st inside => ?_)
        rw [if_neg component,List.contains_iff_mem.mpr single]
        cases gone : goes w other category st with
        | false => rfl
        | true =>
          have quiet : goes w document .component st = false := Bool.eq_false_iff.mpr fun earlier =>
            component ((goes_category gone).symm.trans (goes_category earlier))
          simp only [other_counted distinct inside quiet]
          rfl
      · simp [component,single]

-- The removals tell the difference between two sheets: what was empty rule by rule, and every selector
-- and every animation that is gone once, where it was first seen.
structure Accounts (before after : Sheet) (removals : Removals) : Prop where
  tallies : ∀ entry, entry ∈ removals.tallies ↔ ∃ category, removals.of category ≠ [] ∧
    entry = (category.name,⟨(removals.of category).length,removals.of category⟩)
  empties : removals.of .empty = (before.rules.filter Rule.isEmpty).map (·.selector)
  selectors : ∀ category, category ≠ .empty → category ≠ .animation → removals.of category =
    (before.rules.map (·.selector)).eraseDups.filter fun s =>
      (Strategy.ofSelector s).category == category && before.fills s && !after.fills s
  animations : removals.of .animation =
    ((before.animations.filter fun a => !after.animations.contains a).map fun a => ("@keyframes " : Text) ++ a).eraseDups
  total : removals.total = 0 ↔ after = before.pruned

theorem fills_iff : s.fills selector = true ↔ ∃ r ∈ s.rules, r.selector = selector ∧ r.isEmpty = false := by
  simp [Sheet.fills]

theorem counted_iff : 0 < s.withoutEmptyRules.countSelector selector ↔ s.fills selector = true := by
  rw [Sheet.countSelector_pos,fills_iff,Sheet.withoutEmptyRules,Sheet.rules_withoutRules]
  simp only [List.mem_filter,Bool.not_eq_true',and_assoc,and_comm]

theorem fills_survivors (w : Whitelist) (document other : Oracle) (followsData : Bool) (sheet : Sheet) (selector : Text) :
    (survivors w document other followsData sheet).fills selector =
      (sheet.fills selector && keeps w document other followsData (.ofSelector selector)) := by
  rw [Bool.eq_iff_iff,Bool.and_eq_true,fills_iff,fills_iff,survivors,Sheet.rules_filtered]
  simp only [List.mem_filter,keepsRule,Bool.and_eq_true,Bool.not_eq_true']
  constructor
  · rintro ⟨r,⟨inside,_,kept⟩,own,full⟩
    exact ⟨⟨r,inside,own,full⟩,own ▸ kept⟩
  · rintro ⟨⟨r,inside,own,full⟩,kept⟩
    exact ⟨r,⟨inside,full,own ▸ kept⟩,own,full⟩

theorem unfilled_animation (unmistaken : sheet.Unmistaken) (a : Text) :
    sheet.fills (Strategy.animation a).text = false := by
  refine Bool.eq_false_iff.mpr fun filled => ?_
  obtain ⟨r,inside,own,_⟩ := fills_iff.mp filled
  exact unmistaken r inside ⟨a,own.symm⟩

theorem ofSelector_category (selector : Text) :
    (Strategy.ofSelector selector).category ≠ .empty ∧ (Strategy.ofSelector selector).category ≠ .animation := by
  have other := Strategy.ofSelector_not_animation selector
  generalize Strategy.ofSelector selector = st at other
  cases st with
  | animation a => exact absurd rfl (other a)
  | _ => exact ⟨nofun,nofun⟩

theorem run_selectors (w : Whitelist) (document other : Oracle) (followsData : Bool) (grouped : sheet.Grouped)
    (unmistaken : sheet.Unmistaken) (full : category ≠ .empty) (named : category ≠ .animation) :
    (runPasses w sheet.classify followsData document other sheet).removals.of category =
      (sheet.rules.map (·.selector)).eraseDups.filter fun s => (Strategy.ofSelector s).category == category &&
        sheet.fills s && !(survivors w document other followsData sheet).fills s := by
  rw [runPasses_records w followsData document other grouped sheet.classify_distinct full named,
    ← Sheet.classified_selectors grouped fun a _ => by rw [unfilled_animation unmistaken,Bool.and_false,Bool.false_and]]
  refine congrArg (List.map Strategy.text) (List.filter_congr fun st inside => ?_)
  simp only [counted_iff,fills_survivors,Bool.decide_eq_true]
  rcases Sheet.mem_classify grouped inside with ⟨r,_,rfl⟩ | ⟨a,rfl,_⟩
  · rw [Strategy.text_ofSelector]
    cases sheet.fills r.selector <;> simp
  · have apart : (Category.animation == category) = false := beq_eq_false_iff_ne.mpr fun same => named same.symm
    rw [unfilled_animation unmistaken]
    simp [Strategy.category,apart]

-- The passes before the last one leave the animations, and the rules for whose sake they are kept.
theorem lapses_iff (w : Whitelist) (document other : Oracle) (grouped : sheet.Grouped) (a : Text) :
    lapses w (sheet.withoutRules fun r => !keepsRule w document other false r) (.animation a) =
      (!keepsAnimation w document other false sheet a && sheet.animations.contains a) := by
  have names : Sheet.referencesAnimation a (sheet.withoutRules fun r => !keepsRule w document other false r) =
      Sheet.referencesAnimation a ((sheet.rules.filter (keepsRule w document other false)).map .rule) := by
    simp only [Sheet.referencesAnimation,Sheet.rules_withoutRules,rules_of_rules,Bool.not_not]
  have declared : (sheet.withoutRules fun r => !keepsRule w document other false r).animations = sheet.animations := by
    refine (Sheet.animations_without (fun _ => true) grouped (fun _ _ _ _ => rfl) fun n _ b named => ?_).trans
      (List.filter_eq_self.mpr fun _ _ => rfl)
    cases n with
    | rule r => cases named
    | _ => rfl
  simp only [lapses,names,declared,keepsAnimation,Bool.false_or]

-- The animations that the last pass takes, by their texts.
theorem lapsed_texts (w : Whitelist) (document other : Oracle) (grouped : sheet.Grouped) (unmistaken : sheet.Unmistaken) :
    (sheet.classify.filter (lapses w (sheet.withoutRules fun r => !keepsRule w document other false r))).map Strategy.text =
      ((sheet.animations.filter fun a => !keepsAnimation w document other false sheet a).map
        fun a => (Strategy.animation a).text).eraseDups := by
  -- Asked about a text, the entries of the classification answer as the at-rules do.
  let gone (t : Text) : Bool := (sheet.animations.filter fun a => !keepsAnimation w document other false sheet a).any fun a =>
    (Strategy.animation a).text == t
  have bears : ∀ a, gone (Strategy.animation a).text =
      (!keepsAnimation w document other false sheet a && sheet.animations.contains a) := by
    intro a
    rw [Bool.eq_iff_iff,List.any_eq_true,Bool.and_eq_true,List.contains_iff_mem]
    constructor
    · rintro ⟨b,gone,same⟩
      have equal : b = a := List.append_cancel_left (eq_of_beq same)
      exact ⟨equal ▸ (List.mem_filter.mp gone).2,equal ▸ (List.mem_filter.mp gone).1⟩
    · exact fun gone => ⟨a,List.mem_filter.mpr ⟨gone.2,gone.1⟩,beq_self_eq_true _⟩
  have spared : ∀ r ∈ sheet.rules, gone r.selector = false := fun r inside =>
    List.any_eq_false.mpr fun a _ same => unmistaken r inside ⟨a,eq_of_beq same⟩
  rw [← Sheet.classified_animations grouped spared fun a declared => by
    rw [bears,List.contains_iff_mem.mpr declared,Bool.and_true]]
  refine congrArg (List.map Strategy.text) (List.filter_congr fun st inside => ?_)
  rcases Sheet.mem_classify grouped inside with ⟨r,among,rfl⟩ | ⟨a,rfl,_⟩
  · have none : ∀ left, lapses w left (.ofSelector r.selector) = false := by
      intro left
      have other := Strategy.ofSelector_not_animation r.selector
      generalize Strategy.ofSelector r.selector = st at other
      cases st with
      | animation a => exact absurd rfl (other a)
      | _ => rfl
    rw [none,Strategy.text_ofSelector,spared r among]
  · rw [lapses_iff w document other grouped,bears]

theorem run_animations (w : Whitelist) (document other : Oracle) (followsData : Bool) (grouped : sheet.Grouped)
    (unmistaken : sheet.Unmistaken) :
    (runPasses w sheet.classify followsData document other sheet).removals.of .animation =
      ((sheet.animations.filter fun a => !(survivors w document other followsData sheet).animations.contains a).map
        fun a => (Strategy.animation a).text).eraseDups := by
  have left : ∀ a ∈ sheet.animations, (survivors w document other followsData sheet).animations.contains a =
      keepsAnimation w document other followsData sheet a := by
    intro a declared
    rw [survivors,Sheet.animations_filtered grouped,Bool.eq_iff_iff,List.contains_iff_mem,List.mem_filter]
    exact ⟨fun kept => kept.2,fun kept => ⟨declared,kept⟩⟩
  rw [List.filter_congr fun a declared => congrArg _ (left a declared)]
  have first := components_records w document sheet sheet.classify_distinct .animation
  unfold runPasses
  cases followsData with
  | true =>
    have none : (sheet.animations.filter fun a => !keepsAnimation w document other true sheet a) = [] :=
      List.filter_eq_nil_iff.mpr fun _ _ gone => by cases gone
    rw [none]
    exact first
  | false =>
    have inner : (components w sheet.classify document (of sheet).emptyRules).sheet.Grouped :=
      components_left .. ▸ Sheet.grouped_without _ (Sheet.grouped_without _ grouped)
    have single : (inTurn sheet.classify (singlePasses w other)
        {components w sheet.classify document (of sheet).emptyRules with crowd := none}).sheet = _ :=
      singlePasses_sheet w document other grouped unmistaken
    refine (selectors_records inner sheet.classify_distinct .animation).trans ?_
    rw [first,single]
    exact lapsed_texts w document other grouped unmistaken

theorem run_empties (w : Whitelist) (document other : Oracle) (followsData : Bool) (grouped : sheet.Grouped) :
    (runPasses w sheet.classify followsData document other sheet).removals.of .empty =
      (sheet.rules.filter Rule.isEmpty).map (·.selector) := by
  have first := components_records w document sheet sheet.classify_distinct .empty
  unfold runPasses
  cases followsData with
  | true => exact first.trans (List.append_nil _)
  | false =>
    have inner : (components w sheet.classify document (of sheet).emptyRules).sheet.Grouped :=
      components_left .. ▸ Sheet.grouped_without _ (Sheet.grouped_without _ grouped)
    refine (selectors_records inner sheet.classify_distinct .empty).trans ?_
    rw [first]
    simp

theorem survivors_whole_iff (w : Whitelist) (document other : Oracle) (followsData : Bool) (grouped : sheet.Grouped) :
    survivors w document other followsData sheet = sheet.pruned ↔
      (∀ r ∈ sheet.rules, keepsRule w document other followsData r = true) ∧
        ∀ a ∈ sheet.animations, keepsAnimation w document other followsData sheet a = true := by
  constructor
  · intro same
    have rules := (Sheet.rules_filtered sheet).symm.trans ((congrArg Sheet.rules same).trans (Sheet.rules_pruned sheet))
    have animations := (Sheet.animations_filtered grouped).symm.trans
      ((congrArg Sheet.animations same).trans (Sheet.animations_pruned grouped))
    exact ⟨List.filter_eq_self.mp rules,List.filter_eq_self.mp animations⟩
  · rintro ⟨rules,animations⟩
    rw [survivors,← Sheet.pruned_without]
    refine congrArg Sheet.pruned ((Sheet.without_congr fun n inside => ?_).trans (Sheet.without_none sheet))
    cases n with
    | rule r => rw [Node.falls,rules r (Sheet.mem_rules.mpr inside)]; rfl
    | group => rfl
    | statement name params | block name params body =>
      cases kind : isKeyframesName name with
      | false => rw [Node.falls,kind]; rfl
      | true =>
        have declared : animationName params ∈ sheet.animations :=
          List.mem_filterMap.mpr ⟨_,inside,by simp [Node.animation?,Node.atRule?,kind]⟩
        rw [Node.falls,animations _ declared,kind]
        rfl

-- Nothing is recorded if and only if no rule and no animation is to go.
theorem run_quiet_iff (w : Whitelist) (document other : Oracle) (followsData : Bool) (grouped : sheet.Grouped)
    (unmistaken : sheet.Unmistaken) :
    (runPasses w sheet.classify followsData document other sheet).removals.total = 0 ↔
      (∀ r ∈ sheet.rules, keepsRule w document other followsData r = true) ∧
        ∀ a ∈ sheet.animations, keepsAnimation w document other followsData sheet a = true := by
  have empties := run_empties w document other followsData grouped
  have selectors := fun (category : Category) (full : category ≠ .empty) (named : category ≠ .animation) =>
    run_selectors w document other followsData grouped unmistaken full named
  have animations := run_animations w document other followsData grouped unmistaken
  rw [Removals.total_zero_iff]
  constructor
  · intro nothing
    simp only [nothing] at empties selectors animations
    refine ⟨fun r inside => ?_,fun a declared => ?_⟩
    · have full : r.isEmpty = false :=
        Bool.eq_false_iff.mpr (List.filter_eq_nil_iff.mp (List.map_eq_nil_iff.mp empties.symm) r inside)
      have listed : r.selector ∈ (sheet.rules.map (·.selector)).eraseDups :=
        List.mem_eraseDups.mpr (List.mem_map_of_mem inside)
      have stays := List.filter_eq_nil_iff.mp
        (selectors _ (ofSelector_category r.selector).1 (ofSelector_category r.selector).2).symm r.selector listed
      rw [fills_survivors,fills_iff.mpr ⟨r,inside,rfl,full⟩] at stays
      simpa [keepsRule,full] using stays
    · have left : a ∈ (survivors w document other followsData sheet).animations := by
        by_contra gone
        have listed : (Strategy.animation a).text ∈ ([] : List Text) := animations ▸ List.mem_eraseDups.mpr
          (List.mem_map_of_mem (List.mem_filter.mpr ⟨declared,by simpa using gone⟩))
        cases listed
      rw [survivors,Sheet.animations_filtered grouped] at left
      exact (List.mem_filter.mp left).2
  · rintro ⟨rules,declared⟩ category
    have whole := (survivors_whole_iff w document other followsData grouped).mpr ⟨rules,declared⟩
    by_cases full : category = .empty
    · rw [full,empties,List.map_eq_nil_iff,List.filter_eq_nil_iff]
      intro r inside empty
      have kept := rules r inside
      rw [keepsRule,empty] at kept
      cases kept
    · by_cases named : category = .animation
      · rw [named,animations,whole,Sheet.animations_pruned grouped]
        have none : (sheet.animations.filter fun a => !sheet.animations.contains a) = [] :=
          List.filter_eq_nil_iff.mpr fun a inside gone => by simp [inside] at gone
        rw [none]
        rfl
      · rw [selectors category full named,whole,List.filter_eq_nil_iff]
        have same : ∀ s, sheet.pruned.fills s = sheet.fills s := fun s => by
          rw [Sheet.fills,Sheet.rules_pruned,Sheet.fills]
        intro s _ gone
        simp only [same,Bool.and_assoc,Bool.and_not_self,Bool.and_false,Bool.false_eq_true] at gone

theorem run_accounts (w : Whitelist) (document other : Oracle) (followsData : Bool) (grouped : sheet.Grouped)
    (unmistaken : sheet.Unmistaken) : Accounts sheet (survivors w document other followsData sheet)
      (runPasses w sheet.classify followsData document other sheet).removals where
  tallies := Removals.mem_tallies _
  empties := run_empties w document other followsData grouped
  selectors _ full named := run_selectors w document other followsData grouped unmistaken full named
  animations := run_animations w document other followsData grouped unmistaken
  total := (run_quiet_iff w document other followsData grouped unmistaken).trans
    (survivors_whole_iff w document other followsData grouped).symm

-- What a run tells about its removals is exactly how the sheet it leaves differs from the one it was given.
theorem removals_account (w : Whitelist) (document browser : Oracle) (followsData : Bool) (css : Text)
    (unmistaken : (sheetOf css).Unmistaken) :
    let sheet := sheetOf css
    let alone := byDocument w sheet.classify followsData document sheet
    let helped := byBrowser w sheet.classify document browser sheet
    Accounts sheet alone.sheet alone.removals ∧ Accounts sheet helped.sheet helped.removals := by
  intro sheet alone helped
  have grouped := sheetOf_grouped css
  have early : alone.sheet = survivors w document document followsData sheet :=
    (congrArg Sheet.pruned (documentPasses_sheet followsData grouped unmistaken)).trans (Sheet.pruned_without _)
  have late : helped.sheet = survivors w document browser false sheet :=
    (congrArg Sheet.pruned (browserPasses_sheet grouped unmistaken)).trans (Sheet.pruned_without _)
  rw [early,late]
  exact ⟨run_accounts w document document followsData grouped unmistaken,
    run_accounts w document browser false grouped unmistaken⟩

-- A selector with and without entries, twice in a group; an animation declared twice that nothing names.
theorem removals_account_repeated :
    let css : Text := ".a{}.b:hover{c:d}@media print{.a{e:f}.b:hover{}.a{g:h}}@keyframes i{}@-o-keyframes 'i'{}.j,.k{l:m}"
    let o : Oracle := ⟨.document,fun selector => some (if selector = (".k" : Text) then 1 else 0),fun _ => some []⟩
    let alone := byDocument .empty (sheetOf css).classify false o (sheetOf css)
    Accounts (sheetOf css) alone.sheet alone.removals ∧
      alone.removals.of .empty = Text.ofStrings [".a",".b:hover"] ∧ alone.removals.of .plain = Text.ofStrings [".a"] ∧
      alone.removals.of .stateful = Text.ofStrings [".b:hover"] ∧
      alone.removals.of .animation = Text.ofStrings ["@keyframes i"] ∧ alone.removals.total = 5 := by
  intro css
  have written : css = _ := chars_of_literal rfl
  clear_value css
  intro o
  have unmistaken : (sheetOf css).Unmistaken := by subst written; decide +kernel
  exact ⟨(removals_account .empty o o false css unmistaken).1,by subst written; decide +kernel⟩

end Cleaning
end StyleTrim
