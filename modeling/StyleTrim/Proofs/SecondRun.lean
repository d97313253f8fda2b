import StyleTrim.Css.Reader
import StyleTrim.Proofs.SingleFilter
namespace StyleTrim
open Text Css
variable {o document other : Oracle} {w : Whitelist} {c : Cleaning} {s sheet : Sheet} {r : Rule} {n : Node}
  {st : Strategy} {strategies : List Strategy} {followsData : Bool}

namespace Css

theorem Read.rules_grouped (finish : Place) (first : Bool) (cs : List Component) :
    (Read.rules finish first cs).sheet.Grouped := by
  fun_induction Read.rules finish first cs with
  | case1 => exact trivial
  | case2 => rename_i later; exact later
  | case4 => rename_i group _ later inner; exact ⟨⟨group,inner⟩,later⟩
  | case3 | case5 | case6 => rename_i later; exact ⟨trivial,later⟩
  | case7 => rename_i later; exact later

theorem sheetOf_grouped (css : Text) : (sheetOf css).Grouped := by
  unfold sheetOf read
  dsimp only
  split
  · exact ⟨trivial,Read.rules_grouped _ _ _⟩
  · exact Read.rules_grouped _ _ _

variable {keepsRule : Rule → Bool} {keepsAnimation : Text → Bool}

mutual
theorem Node.rules_filtered : ∀ n : Node, Sheet.rules (n.filtered keepsRule keepsAnimation) = n.rules.filter keepsRule
  | .rule r => by
    cases kept : keepsRule r <;> simp [Node.filtered,kept,Sheet.rules,Node.rules]
  | .statement .. | .block .. => by
    simp only [Node.filtered]
    split <;> rfl
  | .group name params children => by
    have inner := Sheet.rules_filtered children
    rw [Node.filtered,Node.rules,← inner]
    split
    · rename_i empty; rw [empty]
    · rw [Sheet.rules,Node.rules]; exact List.append_nil _
theorem Sheet.rules_filtered : ∀ s : Sheet,
    Sheet.rules (s.filtered keepsRule keepsAnimation) = s.rules.filter keepsRule
  | [] => rfl
  | n :: more => by
    rw [Sheet.filtered,Sheet.rules_append,Node.rules_filtered n,Sheet.rules_filtered more,Sheet.rules,List.filter_append]
end

mutual
theorem Node.filtered_falls : ∀ n : Node, ∀ m ∈ Sheet.nodes (n.filtered keepsRule keepsAnimation),
    m.falls keepsRule keepsAnimation = false
  | .rule r, m, inside => by
    rw [Node.filtered] at inside
    split at inside
    · rename_i kept
      simp only [Sheet.nodes,Node.nodes,List.append_nil,List.mem_singleton] at inside
      rw [inside,Node.falls,kept]; rfl
    · cases inside
  | .statement name params, m, inside | .block name params body, m, inside => by
    rw [Node.filtered] at inside
    split at inside
    · cases inside
    · rename_i kept
      simp only [Sheet.nodes,Node.nodes,List.append_nil,List.mem_singleton] at inside
      rw [inside,Node.falls]
      exact Bool.eq_false_iff.mpr kept
  | .group name params children, m, inside => by
    have inner := Sheet.filtered_falls children m
    rw [Node.filtered] at inside
    split at inside
    · cases inside
    · rw [Sheet.nodes,Node.nodes] at inside
      rcases List.mem_cons.mp inside with rfl | deeper
      · rfl
      · exact inner (by simpa [Sheet.nodes] using deeper)
-- What falls is not left at any depth.
theorem Sheet.filtered_falls : ∀ s : Sheet, ∀ m ∈ Sheet.nodes (s.filtered keepsRule keepsAnimation),
    m.falls keepsRule keepsAnimation = false
  | [], _, inside => by cases inside
  | n :: more, m, inside => by
    rw [Sheet.filtered,Sheet.nodes_append] at inside
    rcases List.mem_append.mp inside with first | later
    · exact Node.filtered_falls n m first
    · exact Sheet.filtered_falls more m later
end

theorem Sheet.filtered_grouped (grouped : s.Grouped) : (s.filtered keepsRule keepsAnimation).Grouped := by
  rw [← Sheet.pruned_without]
  exact Sheet.grouped_pruned (Sheet.grouped_without _ grouped)

theorem Sheet.filtered_pruned (keepsRule : Rule → Bool) (keepsAnimation : Text → Bool) (s : Sheet) :
    (s.filtered keepsRule keepsAnimation).pruned = s.filtered keepsRule keepsAnimation ∧
      (s.filtered keepsRule keepsAnimation).prunedCount = 0 := by
  rw [← Sheet.pruned_without]
  exact Sheet.pruned_rests _

theorem Sheet.filtered_unmistaken (unmistaken : s.Unmistaken) : (s.filtered keepsRule keepsAnimation).Unmistaken := by
  intro r inside
  rw [Sheet.rules_filtered] at inside
  exact unmistaken r (List.mem_filter.mp inside).1

end Css

namespace Cleaning

-- Neither rules nor animations of the sheet are to go.
structure Settled (w : Whitelist) (document other : Oracle) (followsData : Bool) (sheet : Sheet) : Prop where
  grouped : sheet.Grouped
  unmistaken : sheet.Unmistaken
  rule : ∀ r ∈ sheet.rules, keepsRule w document other followsData r = true
  falls : ∀ n ∈ sheet.nodes,
    n.falls (keepsRule w document other followsData) (keepsAnimation w document other followsData sheet) = false

theorem survivors_settled (w : Whitelist) (document other : Oracle) (followsData : Bool) (grouped : sheet.Grouped) (unmistaken : sheet.Unmistaken) :
    Settled w document other followsData (survivors w document other followsData sheet) where
  grouped := Sheet.filtered_grouped grouped
  unmistaken := Sheet.filtered_unmistaken unmistaken
  rule r inside := by
    rw [survivors,Sheet.rules_filtered] at inside
    exact (List.mem_filter.mp inside).2
  falls n inside := by
    have same : keepsAnimation w document other followsData (survivors w document other followsData sheet) =
        keepsAnimation w document other followsData sheet := by
      funext a
      simp only [keepsAnimation,survivors,Sheet.rules_filtered,List.filter_filter,Bool.and_self]
    rw [same]
    exact Sheet.filtered_falls _ n inside

theorem Settled.not_goes (settled : Settled w document other followsData sheet) (found : st ∈ sheet.classify) :
    goes w document .component st = false ∧
      (followsData = false → ∀ category ∈ [Category.anyOf,.plain,.stateful,.escaped], goes w other category st = false) := by
  rcases Sheet.mem_classify settled.grouped found with ⟨r,inside,rfl⟩ | ⟨a,rfl,_⟩
  · have kept := (Bool.and_eq_true_iff.mp (settled.rule r inside)).2
    cases followsData with
    | true =>
      have early := keeps_early (w := w) document other (.ofSelector r.selector)
      rw [kept] at early
      exact ⟨early.symm,nofun⟩
    | false =>
      have late := keeps_late (w := w) document other (.ofSelector r.selector)
      rw [kept] at late
      obtain ⟨component,others⟩ := Bool.or_eq_false_iff.mp late.symm
      exact ⟨component,fun _ category among => by simpa using List.any_eq_false.mp others category among⟩
  · refine ⟨rfl,fun _ category among => ?_⟩
    simp only [List.mem_cons,List.not_mem_nil,or_false] at among
    rcases among with rfl | rfl | rfl | rfl <;> rfl

theorem emptyRules_rest (full : ∀ r ∈ sheet.rules, r.isEmpty = false) : (of sheet).emptyRules = of sheet := by
  have none : sheet.removedRules Rule.isEmpty = [] := by
    rw [Sheet.removedRules_eq,List.filter_eq_nil_iff]
    simpa using full
  have same : sheet.withoutEmptyRules = sheet := Sheet.withoutRules_rests full
  simp only [emptyRules,of,Sheet.emptySelectors,none,same,List.map_nil,List.foldl_nil]

theorem run_rests {gone : Strategy → Bool} {f : Cleaning → Strategy → Cleaning}
    (decides : ∀ c st, Informed o c → Decides o (gone st) st c (f c st)) (informed : Informed o c)
    (quiet : ∀ st ∈ strategies, gone st = false) :
    (strategies.foldl f c).sheet = c.sheet ∧ (strategies.foldl f c).removals = c.removals ∧
      Informed o (strategies.foldl f c) := by
  obtain ⟨left,informed,removals⟩ := run_decides strategies decides informed
  refine ⟨left.trans (Sheet.withoutRules_rests fun r _ => ?_),removals quiet,informed⟩
  refine List.any_eq_false.mpr fun st found yes => ?_
  rw [quiet st found] at yes
  cases yes

theorem components_rest (settled : Settled w document other followsData sheet) :
    (components w sheet.classify document (of sheet).emptyRules).sheet = sheet ∧
      (components w sheet.classify document (of sheet).emptyRules).removals = .none := by
  have full : ∀ r ∈ sheet.rules, r.isEmpty = false := fun r inside => by
    simpa using (Bool.and_eq_true_iff.mp (settled.rule r inside)).1
  have fresh : Informed document (of sheet) := fun _ known => nomatch known
  rw [emptyRules_rest full]
  obtain ⟨same,removals,_⟩ := run_rests (fun _ _ => forComponent_decides) fresh fun _ found => (settled.not_goes found).1
  exact ⟨same,removals⟩

theorem forAnimation_rests (settled : Settled w document other false sheet) (same : c.sheet = sheet)
    (found : st ∈ sheet.classify) : forAnimation w c st = c := by
  rcases Sheet.mem_classify settled.grouped found with ⟨r,_,rfl⟩ | ⟨a,rfl,n,inside,head⟩
  · have other := Strategy.ofSelector_not_animation r.selector
    generalize Strategy.ofSelector r.selector = own at other ⊢
    cases own with
    | animation a => exact absurd rfl (other a)
    | _ => rfl
  · have stays := settled.falls n inside
    have all : sheet.rules.filter (keepsRule w document other false) = sheet.rules :=
      List.filter_eq_self.mpr settled.rule
    have kept : (w.protectsAnimation a || sheet.referencesAnimation a) = true := by
      have named : keepsAnimation w document other false sheet a = true := by
        cases n with
        | rule => exact absurd (Option.some.inj head) (Strategy.ofSelector_not_animation _ _)
        | group => cases head
        | statement name params | block name params body =>
          rw [Node.strategy?] at head
          split at head
          · rename_i kind
            cases head
            simpa [Node.falls,kind] using stays
          · cases head
      simpa only [keepsAnimation,all,Sheet.referencesAnimation,rules_of_rules,Bool.false_or] using named
    rw [forAnimation,same,if_pos kept]

theorem selectors_rest (settled : Settled w document other false sheet) (same : c.sheet = sheet) :
    (selectors w sheet.classify other c).sheet = sheet ∧ (selectors w sheet.classify other c).removals = c.removals := by
  have quiet : ∀ category ∈ [Category.anyOf,.plain,.stateful,.escaped], ∀ st ∈ sheet.classify,
      goes w other category st = false := fun category among st found => (settled.not_goes found).2 rfl category among
  have fresh : Informed other {c with crowd := none} := fun _ known => nomatch known
  obtain ⟨lists,noLists,informed⟩ := run_rests (fun _ _ => forList_decides) fresh (quiet .anyOf (by decide))
  obtain ⟨plains,noPlains,informed⟩ := run_rests (fun _ _ => forPlain_decides) informed (quiet .plain (by decide))
  obtain ⟨stateful,noStateful,informed⟩ := run_rests (fun _ _ => forStateful_decides) informed (quiet .stateful (by decide))
  obtain ⟨escaped,noEscaped,_⟩ := run_rests (fun _ _ => forEscaped_decides) informed (quiet .escaped (by decide))
  have sheetSame := ((escaped.trans stateful).trans plains).trans (lists.trans same)
  have fixed : ∀ (all : List Strategy) (c : Cleaning), c.sheet = sheet → (∀ st ∈ all, st ∈ sheet.classify) →
      animations w all c = c := by
    intro all
    induction all with
    | nil => exact fun _ _ _ => rfl
    | cons st more ih =>
      intro c own among
      rw [animations,List.foldl_cons,forAnimation_rests settled own (among st List.mem_cons_self)]
      exact ih c own fun st later => among st (List.mem_cons_of_mem _ later)
  unfold selectors
  dsimp only
  rw [fixed _ _ sheetSame fun _ found => found]
  exact ⟨sheetSame,((noEscaped.trans noStateful).trans noPlains).trans noLists⟩

theorem browserPasses_rest (settled : Settled w document other false sheet) :
    (browserPasses w sheet.classify document other sheet).sheet = sheet ∧
      (browserPasses w sheet.classify document other sheet).removals = .none := by
  obtain ⟨same,quiet⟩ := components_rest settled
  obtain ⟨later,nothing⟩ := selectors_rest settled same
  exact ⟨later,nothing.trans quiet⟩

theorem documentPasses_rest (settled : Settled w document document followsData sheet) :
    (documentPasses w sheet.classify followsData document sheet).sheet = sheet ∧
      (documentPasses w sheet.classify followsData document sheet).removals = .none := by
  cases followsData with
  | true => exact components_rest settled
  | false => exact browserPasses_rest settled

-- What a first run leaves, classified anew, gives a second run of the same kind nothing to remove,
-- to record or to prune.
theorem second_run_rests (w : Whitelist) (document browser : Oracle) (followsData : Bool) (css : Text)
    (unmistaken : (sheetOf css).Unmistaken) :
    (let first := (byDocument w (sheetOf css).classify followsData document (sheetOf css)).sheet
     let second := documentPasses w first.classify followsData document first
     second.sheet = first ∧ second.removals = .none ∧ second.sheet.prunedCount = 0 ∧ second.groups.sheet = first) ∧
    (let first := (byBrowser w (sheetOf css).classify document browser (sheetOf css)).sheet
     let second := browserPasses w first.classify document browser first
     second.sheet = first ∧ second.removals = .none ∧ second.sheet.prunedCount = 0 ∧ second.groups.sheet = first) := by
  have grouped := sheetOf_grouped css
  have early : (byDocument w (sheetOf css).classify followsData document (sheetOf css)).sheet =
      survivors w document document followsData (sheetOf css) :=
    (congrArg Sheet.pruned (documentPasses_sheet followsData grouped unmistaken)).trans (Sheet.pruned_without _)
  have late : (byBrowser w (sheetOf css).classify document browser (sheetOf css)).sheet =
      survivors w document browser false (sheetOf css) :=
    (congrArg Sheet.pruned (browserPasses_sheet grouped unmistaken)).trans (Sheet.pruned_without _)
  refine ⟨?_,?_⟩ <;> dsimp only
  · rw [early]
    obtain ⟨same,quiet⟩ := documentPasses_rest (survivors_settled w document document followsData grouped unmistaken)
    obtain ⟨full,count⟩ := Sheet.filtered_pruned (keepsRule w document document followsData)
      (keepsAnimation w document document followsData (sheetOf css)) (sheetOf css)
    exact ⟨same,quiet,(congrArg Sheet.prunedCount same).trans count,(congrArg Sheet.pruned same).trans full⟩
  · rw [late]
    obtain ⟨same,quiet⟩ := browserPasses_rest (survivors_settled w document browser false grouped unmistaken)
    obtain ⟨full,count⟩ := Sheet.filtered_pruned (keepsRule w document browser false)
      (keepsAnimation w document browser false (sheetOf css)) (sheetOf css)
    exact ⟨same,quiet,(congrArg Sheet.prunedCount same).trans count,(congrArg Sheet.pruned same).trans full⟩

-- The first run leaves one rule of three and takes its animation with the last rule that names it.
theorem second_run_rests_nested :
    let css : Text := ".a{b:c}@media print{.d{animation:spin}@layer{@keyframes spin{}}}.e{}"
    let o : Oracle := ⟨.document,fun selector => some (if selector = (".a" : Text) then 1 else 0),fun _ => some []⟩
    let first := (byDocument .empty (sheetOf css).classify false o (sheetOf css)).sheet
    let second := documentPasses .empty first.classify false o first
    first == [.rule ⟨".a",[.declaration ⟨"b","c",false⟩]⟩] ∧ second.sheet = first ∧ second.removals = .none := by
  intro css
  have written : css = _ := chars_of_literal rfl
  clear_value css
  intro o
  have unmistaken : (sheetOf css).Unmistaken := by subst written; decide +kernel
  obtain ⟨same,quiet,_⟩ := (second_run_rests .empty o o false css unmistaken).1
  exact ⟨by subst written; decide +kernel,same,quiet⟩

end Cleaning
end StyleTrim
