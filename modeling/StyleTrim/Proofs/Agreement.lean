import StyleTrim.Proofs.Bookkeeping
namespace StyleTrim
open Text Css
variable {s : Sheet} {r : Rule} {st : Strategy} {a selector : Text} {all : List Strategy}

-- Classification walks a sheet by the names of its groups, removal by what lies where, and the two meet in
-- texts only. On a sheet as it is read they are about the same rules and the same animations.

-- Where different things stay different, repetitions are the same.
theorem eraseDups_map {f : Text → Text} (apart : Function.Injective f) (texts : List Text) :
    (texts.map f).eraseDups = texts.eraseDups.map f := by
  induction size : texts.length using Nat.strongRecOn generalizing texts with
  | ind n ih =>
    cases texts with
    | nil => rfl
    | cons t more =>
      have same : ((fun u => !u == f t) ∘ f) = fun u => !u == t := by
        funext u
        simp [apart.eq_iff]
      have shorter : (more.filter fun u => !u == t).length < n := by
        have := List.length_filter_le (fun u => !u == t) more
        simp [← size]
        omega
      simp [List.eraseDups_cons,List.filter_map,same,ih _ shorter _ rfl]

namespace Css

def Strategy.animation? : Strategy → Option Text
  | .animation a => some a
  | _ => none

theorem Strategy.animation?_some : st.animation? = some a ↔ st = .animation a := by
  cases st <;> simp [animation?]

theorem Strategy.animation?_ofSelector (selector : Text) : (Strategy.ofSelector selector).animation? = none := by
  cases known : Strategy.ofSelector selector with
  | animation a => exact absurd known (Strategy.ofSelector_not_animation selector a)
  | _ => rfl

-- What the texts under which animations are recorded begin with.
def readsAnimation (t : Text) : Bool := ("@keyframes " : Text).isPrefixOf t

theorem readsAnimation_text (a : Text) : readsAnimation (Strategy.animation a).text = true :=
  List.isPrefixOf_iff_prefix.mpr (List.prefix_append _ a)

theorem Sheet.Unmistaken.reads (unmistaken : s.Unmistaken) (inside : r ∈ s.rules) : readsAnimation r.selector = false := by
  apply Bool.eq_false_iff.mpr
  intro reads
  exact unmistaken r inside (List.isPrefixOf_iff_prefix.mp reads)

-- An entry is about an animation exactly if its text says so.
theorem Sheet.classified_reads (grouped : s.Grouped) (unmistaken : s.Unmistaken) (found : st ∈ s.classify) :
    readsAnimation st.text = st.animation?.isSome := by
  rcases Sheet.mem_classify grouped found with ⟨r,inside,same⟩ | ⟨a,same,_⟩
  · simp [same,Strategy.text_ofSelector,Strategy.animation?_ofSelector,unmistaken.reads inside]
  · simp [same,readsAnimation_text,Strategy.animation?]

theorem Sheet.declared_of_classified (grouped : s.Grouped) (found : .animation a ∈ s.classify) : a ∈ s.animations :=
  Sheet.mem_animations.mpr ((Sheet.classify_animation grouped).mp found).1

theorem Sheet.classify_rules (grouped : s.Grouped) (unmistaken : s.Unmistaken) :
    (s.classify.filter fun st => st.animation?.isNone) = (s.rules.map (·.selector)).eraseDups.map Strategy.ofSelector := by
  have texts := Sheet.classified_selectors (q := fun t => !readsAnimation t) grouped fun a _ => by simp [readsAnimation_text]
  have all : (s.rules.map (·.selector)).eraseDups.filter (fun t => !readsAnimation t) = (s.rules.map (·.selector)).eraseDups := by
    apply List.filter_eq_self.mpr
    intro t inside
    obtain ⟨r,among,same⟩ := List.mem_map.mp (List.mem_eraseDups.mp inside)
    simp [← same,unmistaken.reads among]
  have entries : (s.classify.filter fun st => st.animation?.isNone) = s.classify.filter fun st => !readsAnimation st.text := by
    apply List.filter_congr
    intro st found
    simp [Sheet.classified_reads grouped unmistaken found]
  -- An entry that is no animation can be told from its text.
  have known : ∀ st ∈ s.classify.filter (fun st => st.animation?.isNone), Strategy.ofSelector st.text = st := by
    intro st inside
    obtain ⟨found,other⟩ := List.mem_filter.mp inside
    rcases Sheet.mem_classify grouped found with ⟨r,_,same⟩ | ⟨a,same,_⟩
    · simp [same,Strategy.text_ofSelector]
    · simp [same,Strategy.animation?] at other
  calc (s.classify.filter fun st => st.animation?.isNone)
    _ = (s.classify.filter fun st => st.animation?.isNone).map fun st => Strategy.ofSelector st.text :=
        ((List.map_congr_left known).trans (List.map_id' _)).symm
    _ = ((s.classify.filter fun st => !readsAnimation st.text).map Strategy.text).map Strategy.ofSelector := by
        simp [entries]
    _ = (s.rules.map (·.selector)).eraseDups.map Strategy.ofSelector := by simp only [texts,all]

theorem Sheet.classify_animations (grouped : s.Grouped) (unmistaken : s.Unmistaken) :
    s.classify.filterMap Strategy.animation? = s.animations.eraseDups := by
  have apart : Function.Injective fun a => (Strategy.animation a).text := fun _ _ same => List.append_cancel_left same
  apply List.map_injective_iff.mpr apart
  have texts : (s.classify.filter fun st => readsAnimation st.text).map Strategy.text =
      ((s.animations.filter fun _ => true).map fun a => (Strategy.animation a).text).eraseDups :=
    Sheet.classified_animations grouped (fun r inside => unmistaken.reads inside) fun a _ => readsAnimation_text a
  have named : ∀ all : List Strategy, (∀ st ∈ all, readsAnimation st.text = st.animation?.isSome) →
      (all.filterMap Strategy.animation?).map (fun a => (Strategy.animation a).text) =
        (all.filter fun st => readsAnimation st.text).map Strategy.text := by
    intro all reads
    induction all with
    | nil => rfl
    | cons st more ih =>
      have rest := ih fun st inside => reads st (List.mem_cons_of_mem _ inside)
      have first := reads st List.mem_cons_self
      cases known : st.animation? with
      | none => simp [known,first,rest]
      | some a =>
        cases Strategy.animation?_some.mp known
        simp [known,first,rest]
  simp only [named _ fun st found => Sheet.classified_reads grouped unmistaken found,texts,List.filter_true,eraseDups_map apart]

theorem Sheet.selector_goes (grouped : s.Grouped) (unmistaken : s.Unmistaken) (found : st ∈ s.classify)
    (other : st.animation? = none) :
    0 < s.countSelector st.text ∧ ∀ left ∈ (s.withoutSelector st.text).classify, left.text ≠ st.text := by
  have silent := Sheet.classified_reads grouped unmistaken found
  constructor
  · rcases Sheet.mem_classify grouped found with ⟨r,inside,same⟩ | ⟨a,same,_⟩
    · exact Sheet.countSelector_pos.mpr ⟨r,inside,by simp [same,Strategy.text_ofSelector]⟩
    · rw [same] at other
      cases other
  · intro left among same
    have grouped' : (s.withoutSelector st.text).Grouped := Sheet.grouped_without _ grouped
    rcases Sheet.mem_classify grouped' among with ⟨r,inside,own⟩ | ⟨a,own,_⟩
    · simp only [Sheet.withoutSelector,Sheet.rules_withoutRules,List.mem_filter] at inside
      simp_all [Strategy.text_ofSelector]
    · simp [← same,own,readsAnimation_text,other] at silent

theorem Sheet.animation_goes (grouped : s.Grouped) (unmistaken : s.Unmistaken) (found : .animation a ∈ s.classify) :
    0 < s.countAnimation a ∧ ∀ left ∈ (s.withoutAnimation a).classify, left.text ≠ (Strategy.animation a).text := by
  constructor
  · exact (Sheet.countAnimation_pos grouped).mpr (Sheet.declared_of_classified grouped found)
  · intro left among same
    have grouped' : (s.withoutAnimation a).Grouped := Sheet.grouped_without _ grouped
    rcases Sheet.mem_classify grouped' among with ⟨r,inside,own⟩ | ⟨b,own,_⟩
    · simp only [Sheet.withoutAnimation,Sheet.rules_without (declaresAnimation_spares a) grouped] at inside
      have silent := unmistaken.reads inside
      simp_all [Strategy.text_ofSelector,readsAnimation_text]
    · have equal : b = a := List.append_cancel_left (own ▸ same)
      have stays := Sheet.declared_of_classified grouped' (own ▸ among)
      simp [Sheet.animations_withoutAnimation grouped,equal] at stays

-- What classification and the removals have in common on a sheet.
structure Sheet.Agrees (s : Sheet) : Prop where
  -- What lies in a group lies in one that classification walks.
  walked : ∀ name params children, Node.group name params children ∈ s.nodes →
    (Node.group name params children).atRuleUse = .walked
  rules : (s.classify.filter fun st => st.animation?.isNone) = (s.rules.map (·.selector)).eraseDups.map Strategy.ofSelector
  animations : s.classify.filterMap Strategy.animation? = s.animations.eraseDups
  selectorsGo : ∀ st ∈ s.classify, st.animation? = none →
    0 < s.countSelector st.text ∧ ∀ left ∈ (s.withoutSelector st.text).classify, left.text ≠ st.text
  animationsGo : ∀ a, .animation a ∈ s.classify →
    0 < s.countAnimation a ∧ ∀ left ∈ (s.withoutAnimation a).classify, left.text ≠ (Strategy.animation a).text

-- Every selector and every animation of a sheet has one entry, in the order of first occurrence, and can be
-- removed by the text of that entry. Of any selector that text is the selector itself.
theorem classify_agrees (css : Text) (unmistaken : (sheetOf css).Unmistaken) :
    (sheetOf css).Agrees ∧ ∀ selector, (Strategy.ofSelector selector).text = selector := by
  have grouped := sheetOf_grouped css
  refine ⟨⟨?walked,Sheet.classify_rules grouped unmistaken,Sheet.classify_animations grouped unmistaken,?_,?_⟩,
    Strategy.text_ofSelector⟩
  case walked =>
    intro name params children inside
    have group := Sheet.grouped_nodes grouped inside
    simp [Node.atRuleUse,group,group_no_keyframes group]
  · intro st found other
    exact Sheet.selector_goes grouped unmistaken found other
  · intro a found
    exact Sheet.animation_goes grouped unmistaken found

-- Selectors and animations that come twice, in groups and outside of them, and an at-rule that is no group.
theorem classify_agrees_repeated :
    let css : Text := ".a:hover{b:c}@media print{@keyframes d{}.e,.f{}.a:hover{}}@-o-keyframes d{}@page{g:h}.e,.f{i:j}"
    (sheetOf css).Agrees ∧ (sheetOf css).classify =
      [.stateful ".a" ":hover",.animation "d",.anyOf ".e,.f" (Text.ofStrings [".e",".f"])] ∧
      (sheetOf css).countSelector ".a:hover" = 2 ∧ (sheetOf css).countAnimation "d" = 2 := by
  intro css
  have written : css = _ := chars_of_literal rfl
  clear_value css
  have unmistaken : (sheetOf css).Unmistaken := by subst written; decide +kernel
  exact ⟨(classify_agrees css unmistaken).1,by subst written; decide +kernel⟩

end Css
end StyleTrim
