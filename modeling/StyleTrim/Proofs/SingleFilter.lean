import StyleTrim.Proofs.Verdicts
namespace StyleTrim
open Text Css
variable {o document other : Oracle} {w : Whitelist} {c : Cleaning} {s sheet : Sheet} {r : Rule}
  {n : Node} {st : Strategy} {strategies : List Strategy}

namespace Css

mutual
def Node.filtered (keepsRule : Rule → Bool) (keepsAnimation : Text → Bool) : Node → List Node
  | .rule r => if keepsRule r then [.rule r] else []
  | .statement name params =>
    if isKeyframesName name && !keepsAnimation (animationName params) then [] else [.statement name params]
  | .block name params body =>
    if isKeyframesName name && !keepsAnimation (animationName params) then [] else [.block name params body]
  | .group name params children =>
    match Sheet.filtered keepsRule keepsAnimation children with
    | [] => []
    | kept => [.group name params kept]
-- The rules and animations to be kept, at every depth and in source order, with what is neither.
-- A group of which nothing is left is not kept.
def Sheet.filtered (keepsRule : Rule → Bool) (keepsAnimation : Text → Bool) : Sheet → Sheet
  | [] => []
  | n :: more => n.filtered keepsRule keepsAnimation ++ Sheet.filtered keepsRule keepsAnimation more
end

variable {keepsRule : Rule → Bool} {keepsAnimation : Text → Bool}

-- The removal behind a filter, before groups are looked at.
def Node.falls (keepsRule : Rule → Bool) (keepsAnimation : Text → Bool) : Node → Bool
  | .rule r => !keepsRule r
  | .statement name params | .block name params _ => isKeyframesName name && !keepsAnimation (animationName params)
  | .group .. => false

mutual
theorem Node.pruned_without : ∀ n : Node,
    Sheet.pruned (n.without (Node.falls keepsRule keepsAnimation)) = n.filtered keepsRule keepsAnimation
  | .rule r => by
    cases kept : keepsRule r <;> simp [Node.without,Node.falls,Node.filtered,kept,Sheet.pruned,Node.pruned]
  | .statement name params | .block name params body => by
    by_cases falls : (isKeyframesName name && !keepsAnimation (animationName params)) = true
    · simp only [Node.without,Node.falls,Node.filtered,falls,↓reduceIte]; rfl
    · simp only [Node.without,Node.falls,Node.filtered,falls]; rfl
  | .group name params children => by
    have inner := Sheet.pruned_without children
    cases left : Sheet.filtered keepsRule keepsAnimation children with
    | nil | cons => simp [Node.without,Node.falls,Sheet.pruned,Node.pruned,inner,Node.filtered,left]
theorem Sheet.pruned_without : ∀ s : Sheet,
    Sheet.pruned (Sheet.without (Node.falls keepsRule keepsAnimation) s) = s.filtered keepsRule keepsAnimation
  | [] => rfl
  | n :: more => by
    rw [Sheet.without,Sheet.pruned_append,Node.pruned_without n,Sheet.pruned_without more,Sheet.filtered]
end

theorem Sheet.withoutRules_twice (p q : Rule → Bool) (s : Sheet) :
    (s.withoutRules p).withoutRules q = s.withoutRules fun r => p r || q r := by
  rw [Sheet.withoutRules,Sheet.withoutRules,Sheet.without_without (onRule_shallow q)]
  exact Sheet.without_congr fun n _ => by cases n <;> rfl

-- Of all entries of a sheet only the one of its text has a say on a selector.
theorem Sheet.classified_any (among : st ∈ s.classify) (same : st.text = selector) (gone : Strategy → Bool) :
    (s.classify.any fun st => gone st && selector == st.text) = gone st := by
  cases answer : gone st with
  | true => exact List.any_eq_true.mpr ⟨st,among,by simp [answer,same]⟩
  | false =>
    apply List.any_eq_false.mpr
    intro other found yes
    obtain ⟨said,text⟩ := Bool.and_eq_true_iff.mp yes
    have one : other = st := List.inj_on_of_nodup_map s.classify_distinct found among
      ((eq_of_beq text).symm.trans same.symm)
    rw [one,answer] at said
    cases said

theorem Sheet.classified_own (grouped : s.Grouped) (own : s.Unmasked r.selector) (inside : r ∈ s.rules)
    (gone : Strategy → Bool) :
    (s.classify.any fun st => gone st && r.selector == st.text) = gone (.ofSelector r.selector) :=
  Sheet.classified_any (Sheet.classified_rule grouped own inside) (Strategy.text_ofSelector r.selector) gone

mutual
theorem Node.without_undropped {p : Node → Bool} : ∀ {n : Node}, n.dropped p = [] → n.without p = [n]
  | .rule _, nothing | .statement .., nothing | .block .., nothing => by
    simp only [Node.dropped] at nothing
    simp only [Node.without]
    split at nothing
    · cases nothing
    · rename_i stays; rw [if_neg stays]
  | .group .., nothing => by
    simp only [Node.dropped] at nothing
    simp only [Node.without]
    split at nothing
    · cases nothing
    · rename_i stays; rw [if_neg stays,Sheet.without_undropped nothing]
theorem Sheet.without_undropped {p : Node → Bool} : ∀ {s : Sheet}, Sheet.dropped p s = [] → Sheet.without p s = s
  | [], _ => rfl
  | n :: more, nothing => by
    obtain ⟨first,rest⟩ := List.append_eq_nil_iff.mp nothing
    rw [Sheet.without,Node.without_undropped first,Sheet.without_undropped rest]
    rfl
end

end Css

namespace Cleaning

theorem run_decides {gone : Strategy → Bool} {f : Cleaning → Strategy → Cleaning} (strategies : List Strategy)
    (decides : ∀ c st, Informed o c → Decides o (gone st) st c (f c st)) (informed : Informed o c) :
    (strategies.foldl f c).sheet =
        c.sheet.withoutRules (fun r => strategies.any fun st => gone st && r.selector == st.text) ∧
      Informed o (strategies.foldl f c) ∧
      ((∀ st ∈ strategies, gone st = false) → (strategies.foldl f c).removals = c.removals) := by
  induction strategies generalizing c with
  | nil =>
    exact ⟨(Sheet.withoutRules_rests fun _ _ => rfl).symm,informed,fun _ => rfl⟩
  | cons st more ih =>
    have step := decides c st informed
    obtain ⟨sheet,informed,quiet⟩ := ih step.informed
    refine ⟨?_,informed,fun none => ?_⟩
    · have first : (f c st).sheet = c.sheet.withoutRules fun r => gone st && r.selector == st.text := by
        rw [step.sheet]
        cases gone st with
        | true => rfl
        | false => exact (Sheet.withoutRules_rests fun _ _ => rfl).symm
      rw [List.foldl_cons,sheet,first,Sheet.withoutRules_twice]
      rfl
    · rw [List.foldl_cons,quiet fun st inside => none st (List.mem_cons_of_mem _ inside),step.removals,
        none st List.mem_cons_self]
      rfl

theorem emptyRules_facts (sheet : Sheet) :
    (of sheet).emptyRules.sheet = sheet.withoutRules Rule.isEmpty ∧ Informed o (of sheet).emptyRules := by
  have kept : ∀ (selectors : List Text) (c : Cleaning), (selectors.foldl (fun c s => c.record .empty s) c).sheet = c.sheet ∧
      (selectors.foldl (fun c s => c.record .empty s) c).crowd = c.crowd := by
    intro selectors
    induction selectors with
    | nil => exact fun _ => ⟨rfl,rfl⟩
    | cons s more ih => exact fun c => ih _
  obtain ⟨same,crowd⟩ := kept sheet.emptySelectors {of sheet with sheet := sheet.withoutEmptyRules}
  refine ⟨same,fun answer known => ?_⟩
  cases crowd.symm.trans known

-- Whether a node declares the animation of a strategy, which nobody protects and no rule names.
def forgets (w : Whitelist) (sheet : Sheet) : Strategy → Node → Bool
  | .animation a, n => !(w.protectsAnimation a || sheet.referencesAnimation a) && n.declaresAnimation a
  | _, _ => false

theorem forgets_shallow (w : Whitelist) (sheet : Sheet) (st : Strategy) : Shallow (forgets w sheet st) := by
  cases st <;> exact fun _ _ _ _ => rfl

theorem forgets_spares (w : Whitelist) (sheet : Sheet) (st : Strategy) : SparesRules (forgets w sheet st) := by
  cases st with
  | animation a =>
    exact ⟨fun r => by simp [forgets,(declaresAnimation_spares a).rule],
      fun name params children group => by simp [forgets,(declaresAnimation_spares a).group name params children group]⟩
  | _ => exact ⟨fun _ => rfl,fun _ _ _ _ => rfl⟩

theorem forgets_congr (same : s.rules = sheet.rules) : forgets w s = forgets w sheet := by
  funext st n
  cases st with
  | animation a => simp only [forgets,Sheet.referencesAnimation,same]
  | _ => rfl

theorem forAnimation_sheet : (forAnimation w c st).sheet = Sheet.without (forgets w c.sheet st) c.sheet := by
  cases st with
  | animation a =>
    by_cases safe : (w.protectsAnimation a || c.sheet.referencesAnimation a) = true
    · have none : forgets w c.sheet (.animation a) = fun _ => false := by funext n; simp only [forgets,safe]; rfl
      rw [forAnimation,if_pos safe,none,Sheet.without_none]
    · have all : forgets w c.sheet (.animation a) = Node.declaresAnimation a := by
        funext n; simp only [forgets,safe]; rfl
      rw [forAnimation,if_neg safe,all]
      split
      · rfl
      · rename_i absent
        exact (Sheet.without_undropped (List.length_eq_zero_iff.mp (Nat.eq_zero_of_not_pos absent))).symm
  | _ => exact (Sheet.without_none _).symm

theorem animations_sheet (grouped : c.sheet.Grouped) :
    (animations w strategies c).sheet = Sheet.without (fun n => strategies.any fun st => forgets w c.sheet st n) c.sheet := by
  unfold animations
  induction strategies generalizing c with
  | nil => exact (Sheet.without_none _).symm
  | cons st more ih =>
    have step : (forAnimation w c st).sheet = Sheet.without (forgets w c.sheet st) c.sheet := forAnimation_sheet
    have inner : (forAnimation w c st).sheet.Grouped := step ▸ Sheet.grouped_without _ grouped
    have rules : (forAnimation w c st).sheet.rules = c.sheet.rules := by
      rw [step,Sheet.rules_without (forgets_spares w c.sheet st) grouped]
    have rest := Shallow.any (forgets_shallow w c.sheet) more
    rw [List.foldl_cons,ih inner,forgets_congr rules,step,Sheet.without_without rest]
    rfl

-- Components are sought in the document, everything else with the help of another oracle. Where
-- components follow data only they can be told to be unused.
def keeps (w : Whitelist) (document other : Oracle) (followsData : Bool) (st : Strategy) : Bool :=
  w.protectsStrategy st || if st.category = .component then document.uses st else followsData || other.uses st

def keepsRule (w : Whitelist) (document other : Oracle) (followsData : Bool) (r : Rule) : Bool :=
  !r.isEmpty && keeps w document other followsData (.ofSelector r.selector)

-- An animation is kept for the sake of the rules that are kept.
def keepsAnimation (w : Whitelist) (document other : Oracle) (followsData : Bool) (sheet : Sheet) (a : Text) : Bool :=
  followsData || w.protectsAnimation a ||
    Sheet.referencesAnimation a ((sheet.rules.filter (keepsRule w document other followsData)).map .rule)

def survivors (w : Whitelist) (document other : Oracle) (followsData : Bool) (sheet : Sheet) : Sheet :=
  sheet.filtered (keepsRule w document other followsData) (keepsAnimation w document other followsData sheet)

theorem falls_onRule (keepsRule : Rule → Bool) (sheet : Sheet) :
    sheet.withoutRules (fun r => !keepsRule r) = sheet.without (Node.falls keepsRule fun _ => true) :=
  Sheet.without_congr fun n _ => by cases n <;> simp [Sheet.onRule,Node.falls]

theorem components_any : (components w strategies o (of sheet).emptyRules).sheet = sheet.withoutRules fun r =>
    r.isEmpty || strategies.any fun st => goes w o .component st && r.selector == st.text := by
  obtain ⟨early,informed⟩ := emptyRules_facts (o := o) sheet
  rw [components,(run_decides _ (fun _ _ => forComponent_decides) informed).1,early,Sheet.withoutRules_twice]

theorem components_sheet (grouped : sheet.Grouped) (unmistaken : sheet.Unmistaken) :
    (components w sheet.classify o (of sheet).emptyRules).sheet =
      sheet.withoutRules fun r => r.isEmpty || goes w o .component (.ofSelector r.selector) := by
  rw [components_any]
  refine Sheet.without_congr fun n inside => ?_
  cases n with
  | rule r =>
    have among := Sheet.mem_rules.mpr inside
    simp only [Sheet.onRule,Sheet.classified_own grouped (Sheet.unmasked_of_own (unmistaken r among)) among]
  | _ => rfl

-- Four passes over selectors, with a fresh question about all elements.
theorem singles_sheet (c : Cleaning) (strategies : List Strategy) :
    let lists := strategies.foldl (forList w o) {c with crowd := none}
    let plains := strategies.foldl (forPlain w o) lists
    let stateful := strategies.foldl (forStateful w o) plains
    (strategies.foldl (forEscaped w o) stateful).sheet = c.sheet.withoutRules fun r =>
      [Category.anyOf,.plain,.stateful,.escaped].any fun category =>
        strategies.any fun st => goes w o category st && r.selector == st.text := by
  dsimp only
  have fresh : Informed o {c with crowd := none} := fun _ known => nomatch known
  have lists := run_decides strategies (fun _ _ => forList_decides (w := w)) fresh
  have plains := run_decides strategies (fun _ _ => forPlain_decides (w := w)) lists.2.1
  have stateful := run_decides strategies (fun _ _ => forStateful_decides (w := w)) plains.2.1
  have escaped := run_decides strategies (fun _ _ => forEscaped_decides (w := w)) stateful.2.1
  rw [escaped.1,stateful.1,plains.1,lists.1]
  simp only [Sheet.withoutRules_twice,List.any_cons,List.any_nil,Bool.or_false,Bool.or_assoc]

theorem keeps_early (document other : Oracle) (st : Strategy) :
    (!keeps w document other true st) = goes w document .component st := by
  unfold keeps goes
  generalize w.protectsStrategy st = safe
  generalize document.uses st = found
  cases st <;> cases safe <;> cases found <;> rfl

theorem keeps_late (document other : Oracle) (st : Strategy) : (!keeps w document other false st) =
    (goes w document .component st || [Category.anyOf,.plain,.stateful,.escaped].any fun category =>
      goes w other category st) := by
  unfold keeps goes
  generalize w.protectsStrategy st = safe
  generalize document.uses st = found
  cases st with
  | vendor | animation => cases safe <;> cases found <;> rfl
  | _ =>
    generalize other.uses _ = seen
    cases safe <;> cases found <;> cases seen <;> rfl

theorem rules_of_rules (rules : List Rule) : Sheet.rules (rules.map .rule) = rules := by
  induction rules with
  | nil => rfl
  | cons r more ih => simp [Sheet.rules,Node.rules,ih]

theorem earlyPasses_sheet (grouped : sheet.Grouped) (unmistaken : sheet.Unmistaken) :
    (components w sheet.classify document (of sheet).emptyRules).sheet =
      sheet.without (Node.falls (keepsRule w document other true) (keepsAnimation w document other true sheet)) := by
  have always : keepsAnimation w document other true sheet = fun _ => true := rfl
  rw [components_sheet grouped unmistaken,always,← falls_onRule]
  simp only [keepsRule,Bool.not_and,Bool.not_not,keeps_early]

theorem singlePasses_sheet (w : Whitelist) (document other : Oracle) (grouped : sheet.Grouped) (unmistaken : sheet.Unmistaken) :
    let c := components w sheet.classify document (of sheet).emptyRules
    let lists := sheet.classify.foldl (forList w other) {c with crowd := none}
    let plains := sheet.classify.foldl (forPlain w other) lists
    let stateful := sheet.classify.foldl (forStateful w other) plains
    (sheet.classify.foldl (forEscaped w other) stateful).sheet =
      sheet.withoutRules fun r => !keepsRule w document other false r := by
  refine (singles_sheet _ _).trans ?_
  rw [components_sheet grouped unmistaken,Sheet.withoutRules_twice]
  refine Sheet.without_congr fun n inside => ?_
  cases n with
  | rule r =>
    have among := Sheet.mem_rules.mpr inside
    simp only [Sheet.onRule,Sheet.classified_own grouped (Sheet.unmasked_of_own (unmistaken r among)) among,keepsRule,Bool.not_and,Bool.not_not,keeps_late,Bool.or_assoc]
  | _ => rfl

-- Every animation that is declared was classified, so its node is asked about.
theorem any_forgets (grouped : sheet.Grouped) (unmistaken : sheet.Unmistaken) (inside : n ∈ sheet.nodes) (left : Sheet) :
    (sheet.classify.any fun st => forgets w left st n) =
      n.falls (fun _ => true) fun a => w.protectsAnimation a || left.referencesAnimation a := by
  have declared : ∀ a, n.strategy? = some (.animation a) → n.declaresAnimation a = true →
      (∀ b, n.declaresAnimation b = true → b = a) →
      (sheet.classify.any fun st => forgets w left st n) = !(w.protectsAnimation a || left.referencesAnimation a) := by
    intro a head own only
    have found := Sheet.classified_animation grouped unmistaken inside head
    cases stays : w.protectsAnimation a || left.referencesAnimation a with
    | false => exact List.any_eq_true.mpr ⟨_,found,by simp only [forgets,stays,own]; rfl⟩
    | true =>
      refine List.any_eq_false.mpr fun st _ yes => ?_
      cases st with
      | animation b =>
        obtain ⟨gone,same⟩ := Bool.and_eq_true_iff.mp yes
        rw [only b same,stays] at gone
        cases gone
      | _ => cases yes
  have undeclared : (∀ a, n.declaresAnimation a = false) → (sheet.classify.any fun st => forgets w left st n) = false := by
    intro none
    refine List.any_eq_false.mpr fun st _ yes => ?_
    cases st with
    | animation b => rw [forgets,none b,Bool.and_false] at yes; cases yes
    | _ => cases yes
  cases n with
  | rule r => exact undeclared fun _ => rfl
  | group name params children =>
    exact undeclared fun a => (declaresAnimation_spares a).group _ _ _ (Sheet.grouped_nodes grouped inside)
  | statement name params | block name params body =>
    cases kind : isKeyframesName name with
    | true =>
      rw [declared (animationName params) (by simp [Node.strategy?,kind]) (by simp [Node.declaresAnimation,Node.atRule?,kind])
        (by simp [Node.declaresAnimation,Node.atRule?])]
      simp only [Node.falls,kind,Bool.true_and]
    | false =>
      rw [undeclared (by simp [Node.declaresAnimation,Node.atRule?,kind])]
      simp only [Node.falls,kind,Bool.false_and]

theorem browserPasses_sheet (grouped : sheet.Grouped) (unmistaken : sheet.Unmistaken) :
    (browserPasses w sheet.classify document other sheet).sheet =
      sheet.without (Node.falls (keepsRule w document other false) (keepsAnimation w document other false sheet)) := by
  have single := singlePasses_sheet w document other grouped unmistaken
  dsimp only at single
  have left : Sheet.Grouped (sheet.withoutRules fun r => !keepsRule w document other false r) :=
    Sheet.grouped_without _ grouped
  have shallow := Shallow.any (forgets_shallow w (sheet.withoutRules fun r => !keepsRule w document other false r)) sheet.classify
  unfold browserPasses selectors
  dsimp only
  rw [animations_sheet (by rwa [single]),single]
  refine (Sheet.without_without shallow sheet).trans (Sheet.without_congr fun n inside => ?_)
  have names : ∀ a, Sheet.referencesAnimation a (sheet.withoutRules fun r => !keepsRule w document other false r) =
      Sheet.referencesAnimation a ((sheet.rules.filter (keepsRule w document other false)).map .rule) := by
    intro a
    simp only [Sheet.referencesAnimation,Sheet.rules_withoutRules,rules_of_rules,Bool.not_not]
  rw [any_forgets grouped unmistaken inside]
  cases n with
  | rule r => simp [Sheet.onRule,Node.falls]
  | _ => simp only [Sheet.onRule,Node.falls,keepsAnimation,names,Bool.false_or]

theorem documentPasses_sheet (followsData : Bool) (grouped : sheet.Grouped) (unmistaken : sheet.Unmistaken) :
    (documentPasses w sheet.classify followsData o sheet).sheet =
      sheet.without (Node.falls (keepsRule w o o followsData) (keepsAnimation w o o followsData sheet)) := by
  cases followsData with
  | true => exact earlyPasses_sheet grouped unmistaken
  | false => exact browserPasses_sheet grouped unmistaken

-- The passes, one after the other over a sheet that they change, come to one filter.
theorem byDocument_survivors (w : Whitelist) (o : Oracle) (followsData : Bool) (sheet : Sheet)
    (grouped : sheet.Grouped) (unmistaken : sheet.Unmistaken) :
    (byDocument w sheet.classify followsData o sheet).sheet = survivors w o o followsData sheet := by
  unfold survivors
  rw [← Sheet.pruned_without]
  exact congrArg Sheet.pruned (documentPasses_sheet followsData grouped unmistaken)

-- A selector with and without entries, an animation that nothing names any more, and a group that
-- holds nothing else.
theorem byDocument_survivors_nested :
    let o : Oracle := ⟨.document,fun selector => some (if selector = (".a" : Text) then 1 else 0),fun _ => some []⟩
    let sheet : Sheet :=
      [.group "media" "print" [.rule ⟨".a",[.verbatim "b"]⟩,.rule ⟨".c",[.declaration ⟨"animation","spin",false⟩]⟩],
        .rule ⟨".a",[]⟩,.group "layer" "" [.group "supports" "(d:e)" [.block "keyframes" "spin" "from{f:g}"]]]
    (byDocument .empty sheet.classify false o sheet).sheet = survivors .empty o o false sheet ∧
      survivors .empty o o false sheet == [.group "media" "print" [.rule ⟨".a",[.verbatim "b"]⟩]] := by
  intro o sheet
  have grouped : sheet.Grouped := ⟨⟨by decide,trivial,trivial,trivial⟩,trivial,⟨by decide,⟨by decide,trivial,trivial⟩,trivial⟩,trivial⟩
  have unmistaken : sheet.Unmistaken := by decide +kernel
  exact ⟨byDocument_survivors .empty o false sheet grouped unmistaken,by decide +kernel⟩

end Cleaning
end StyleTrim
