import Mathlib.Data.List.Basic
import StyleTrim.Proofs.UsedRules
namespace StyleTrim
open Text Css
variable {o o' document document' other other' browser browser' : Oracle} {w w' : Whitelist} {c : Cleaning}
  {s sheet : Sheet} {r : Rule} {n : Node} {st : Strategy} {strategies : List Strategy} {followsData followsData' : Bool}
  {entries entries' : List Text} {entry selector : Text} {p q : Node → Bool}

-- Removal is monotone: who has more evidence that things are used removes less.

namespace Whitelist

-- Whether one entry protects a selector.
def shields (selector entry : Text) : Bool :=
  (empty.add (trim entry)).toOption.any fun alone => alone.protects selector

theorem add_protects (added : w.add entry = .ok w') (selector : Text) :
    w'.protects selector = (w.protects selector ||
      ((empty.add entry).toOption.any fun alone => alone.protects selector)) := by
  unfold add at added ⊢
  split at added
  · cases added
    rename_i blank
    simp [blank,Except.toOption,protects,empty]
  · rename_i ink
    rw [if_neg ink]
    split at added
    · cases added
      simp only [Except.toOption,Option.any_some,protects,empty,List.contains_append,List.nil_append,
        List.any_nil,Bool.or_false,Bool.or_right_comm]
    · split at added
      · cases added
        simp only [Except.toOption,Option.any_some,protects,empty,List.any_append,List.nil_append,
          List.contains_nil,Bool.false_or,Bool.or_assoc]
      · cases added

theorem protects_entries (listed : ofEntries entries = .ok w) (selector : Text) :
    w.protects selector = entries.any (shields selector) := by
  have run : ∀ (l : List Text) (w₀ : Whitelist), l.foldlM (fun w entry => w.add (trim entry)) w₀ = .ok w →
      w.protects selector = (w₀.protects selector || l.any (shields selector)) := by
    intro l
    induction l with
    | nil =>
      intro w₀ ran
      cases ran
      simp
    | cons entry more ih =>
      intro w₀ ran
      rw [List.foldlM_cons] at ran
      cases added : w₀.add (trim entry) with
      | error e => rw [added] at ran; cases ran
      | ok w₁ =>
        rw [added] at ran
        rw [ih w₁ ran,add_protects added,List.any_cons,shields,Bool.or_assoc]
  exact (run entries empty listed).trans (by simp [protects,empty])

theorem protects_more (listed : ofEntries entries = .ok w) (listed' : ofEntries entries' = .ok w')
    (included : entries ⊆ entries') (safe : w.protects selector = true) : w'.protects selector = true := by
  rw [protects_entries listed,List.any_eq_true] at safe
  obtain ⟨entry,inside,shielded⟩ := safe
  rw [protects_entries listed',List.any_eq_true]
  exact ⟨entry,included inside,shielded⟩

end Whitelist

-- The second whitelist protects whatever the first one does.
def Whitelist.Within (w w' : Whitelist) : Prop := ∀ selector, w.protects selector = true → w'.protects selector = true

theorem Whitelist.Within.strategy (within : w.Within w') (st : Strategy) (safe : w.protectsStrategy st = true) :
    w'.protectsStrategy st = true := by
  cases st with
  | anyOf s branches =>
    rcases Bool.or_eq_true_iff.mp safe with whole | part
    · exact Bool.or_eq_true_iff.mpr (.inl (within s whole))
    · obtain ⟨branch,inside,own⟩ := List.any_eq_true.mp part
      exact Bool.or_eq_true_iff.mpr (.inr (List.any_eq_true.mpr ⟨branch,inside,within branch own⟩))
  | animation a => exact Bool.or_eq_true_iff.mpr ((Bool.or_eq_true_iff.mp safe).imp (within _) (within _))
  | _ => exact within _ safe

namespace Oracle

-- Nothing that is known of all elements speaks against the literal.
def Bears (o : Oracle) (literal : Selector.Literal) : Prop :=
  ∀ elements, o.elements "*" = some elements → ∃ e ∈ elements, Cleaning.carries literal e = true

-- The second oracle calls used whatever the first one does: by a positive count, by having no answer,
-- or by an element that carries the class or id.
structure Within (o o' : Oracle) : Prop where
  counts : ∀ selector, 0 < o.countOrUsed selector → 0 < o'.countOrUsed selector
  bears : ∀ literal, o.Bears literal → o'.Bears literal

-- The second oracle answers like the first one or not at all.
structure Falters (o o' : Oracle) : Prop where
  counts : ∀ selector, o'.count selector = o.count selector ∨ o'.count selector = none
  elements : ∀ selector, o'.elements selector = o.elements selector ∨ o'.elements selector = none

theorem Falters.within (falters : Falters o o') : Within o o' where
  counts selector found := by
    unfold countOrUsed at found ⊢
    rcases falters.counts selector with same | none
    · rw [same]
      exact found
    · rw [none]
      exact Nat.one_pos
  bears literal borne elements known := by
    rcases falters.elements "*" with same | none
    · exact borne elements (same ▸ known)
    · rw [none] at known
      cases known

theorem Within.isFound (within : Within o o') (found : o.isFound selector = true) : o'.isFound selector = true :=
  decide_eq_true (within.counts selector (of_decide_eq_true found))

theorem isLiteralFound_iff : o.isLiteralFound selector = true ↔
    ∀ literal, Selector.literal? selector = some literal → o.Bears literal := by
  unfold isLiteralFound Bears
  cases Selector.literal? selector with
  | none => simp
  | some literal => cases o.elements "*" <;> simp

theorem Within.usesAlone (within : Within o o') (used : o.usesAlone st = true) : o'.usesAlone st = true := by
  cases st with
  | plain s | component s => exact within.isFound used
  | stateful base modifier => exact Bool.or_eq_true_iff.mpr ((Bool.or_eq_true_iff.mp used).imp id within.isFound)
  | escaped s =>
    refine isLiteralFound_iff.mpr fun literal found => within.bears literal ?_
    exact isLiteralFound_iff.mp used literal found
  | vendor | anyOf | animation => rfl

theorem Within.uses (within : Within o o') (used : o.uses st = true) : o'.uses st = true := by
  unfold Oracle.uses at used ⊢
  split at used
  · obtain ⟨branch,inside,found⟩ := List.any_eq_true.mp used
    exact List.any_eq_true.mpr ⟨branch,inside,within.usesAlone found⟩
  · exact within.usesAlone used

end Oracle

namespace Css

def Node.isWeighed : Node → Bool
  | .rule _ => true
  | .statement name _ | .block name _ _ => isKeyframesName name
  | .group .. => false

-- The style rules and the keyframes at-rules, at every depth and in source order.
def Sheet.weighed (s : Sheet) : List Node := s.nodes.filter Node.isWeighed

theorem Sheet.weighed_append (s t : Sheet) : Sheet.weighed (s ++ t) = s.weighed ++ t.weighed := by
  simp only [Sheet.weighed,Sheet.nodes_append,List.filter_append]

theorem Sheet.weighed_group (name params : Text) (children more : Sheet) :
    Sheet.weighed (.group name params children :: more) = children.weighed ++ more.weighed := by
  simp [Sheet.weighed,Sheet.nodes,Node.nodes,Node.isWeighed]

mutual
theorem Node.weighed_pruned : ∀ n : Node, Sheet.weighed n.pruned = Sheet.weighed [n]
  | .rule _ | .statement .. | .block .. => rfl
  | .group name params children => by
    have inner := Sheet.weighed_pruned children
    rw [Sheet.weighed_group,← inner,Node.pruned]
    split
    · rename_i empty
      rw [empty]
      rfl
    · exact Sheet.weighed_group ..
-- Pruning takes away groups only.
theorem Sheet.weighed_pruned : ∀ s : Sheet, s.pruned.weighed = s.weighed
  | [] => rfl
  | n :: more => by
    rw [Sheet.pruned,Sheet.weighed_append,Node.weighed_pruned n,Sheet.weighed_pruned more,← Sheet.weighed_append]
    rfl
end

-- What no group satisfies.
def SparesGroups (p : Node → Bool) (nodes : List Node) : Prop :=
  ∀ name params children, .group name params children ∈ nodes → p (.group name params children) = false

mutual
theorem Node.weighed_without : ∀ {n : Node}, SparesGroups p n.nodes →
    Sheet.weighed (n.without p) = (Sheet.weighed [n]).filter fun m => !p m
  | .rule r, _ => by
    cases goes : p (.rule r) <;> simp [Node.without,goes,Sheet.weighed,Sheet.nodes,Node.nodes,Node.isWeighed]
  | .statement name params, _ => by
    cases goes : p (.statement name params) <;> cases kind : isKeyframesName name <;>
      simp [Node.without,goes,kind,Sheet.weighed,Sheet.nodes,Node.nodes,Node.isWeighed]
  | .block name params body, _ => by
    cases goes : p (.block name params body) <;> cases kind : isKeyframesName name <;>
      simp [Node.without,goes,kind,Sheet.weighed,Sheet.nodes,Node.nodes,Node.isWeighed]
  | .group name params children, spares => by
    have inner := Sheet.weighed_without (s := children) fun name params children inside =>
      spares name params children (List.mem_cons_of_mem _ inside)
    have stays := spares name params children (Node.mem_nodes _)
    rw [Node.without,if_neg (by rw [stays]; exact Bool.false_ne_true),Sheet.weighed_group,Sheet.weighed_group,inner]
    exact (List.append_nil _).trans (congrArg _ (List.append_nil _).symm)
-- What a removal that spares groups leaves of the nodes that are decided on.
theorem Sheet.weighed_without : ∀ {s : Sheet}, SparesGroups p s.nodes →
    Sheet.weighed (s.without p) = s.weighed.filter fun m => !p m
  | [], _ => rfl
  | n :: more, spares => by
    have first := Node.weighed_without (n := n) fun name params children inside =>
      spares name params children (List.mem_append_left _ inside)
    have rest := Sheet.weighed_without (s := more) fun name params children inside =>
      spares name params children (List.mem_append_right _ inside)
    rw [Sheet.without,Sheet.weighed_append,first,rest,← List.filter_append,← Sheet.weighed_append]
    rfl
end

end Css

namespace Cleaning

-- Rules that go, by any of the entries of a classification.
def loses (w : Whitelist) (document other : Oracle) (followsData : Bool) (strategies : List Strategy) (r : Rule) : Bool :=
  r.isEmpty || strategies.any fun st => !keeps w document other followsData st && r.selector == st.text

-- Nodes that go in a whole run. An animation goes for want of the rules that are left.
def drops (w : Whitelist) (document other : Oracle) (followsData : Bool) (strategies : List Strategy) (sheet : Sheet)
    (n : Node) : Bool :=
  Sheet.onRule (loses w document other followsData strategies) n || !followsData && strategies.any fun st =>
    forgets w (sheet.withoutRules (loses w document other followsData strategies)) st n

theorem loses_early (other : Oracle) : (components w strategies document (of sheet).emptyRules).sheet =
    sheet.withoutRules (loses w document other true strategies) := by
  rw [components_any]
  simp only [← keeps_early document other]
  rfl

theorem loses_late : loses w document other false strategies r = ((r.isEmpty ||
      strategies.any fun st => goes w document .component st && r.selector == st.text) ||
    [Category.anyOf,.plain,.stateful,.escaped].any fun category =>
      strategies.any fun st => goes w other category st && r.selector == st.text) := by
  have swap : ([Category.anyOf,.plain,.stateful,.escaped].any fun category =>
      strategies.any fun st => goes w other category st && r.selector == st.text) =
      strategies.any fun st => ([Category.anyOf,.plain,.stateful,.escaped].any fun category =>
        goes w other category st) && r.selector == st.text := by
    rw [Bool.eq_iff_iff]
    simp only [List.any_eq_true,Bool.and_eq_true]
    constructor
    · rintro ⟨category,listed,st,inside,gone,own⟩
      exact ⟨st,inside,⟨category,listed,gone⟩,own⟩
    · rintro ⟨st,inside,⟨category,listed,gone⟩,own⟩
      exact ⟨category,listed,st,inside,gone,own⟩
  rw [swap,loses,Bool.or_assoc]
  congr 1
  simp only [keeps_late]
  rw [Bool.eq_iff_iff]
  simp only [Bool.or_eq_true,List.any_eq_true (l := strategies),Bool.and_eq_true]
  constructor
  · rintro ⟨st,inside,early | late,own⟩
    · exact .inl ⟨st,inside,early,own⟩
    · exact .inr ⟨st,inside,late,own⟩
  · rintro (⟨st,inside,early,own⟩ | ⟨st,inside,late,own⟩)
    · exact ⟨st,inside,.inl early,own⟩
    · exact ⟨st,inside,.inr late,own⟩

theorem loses_singles (w : Whitelist) (document other : Oracle) (strategies : List Strategy) (sheet : Sheet) :
    let c := components w strategies document (of sheet).emptyRules
    let lists := strategies.foldl (forList w other) {c with crowd := none}
    let plains := strategies.foldl (forPlain w other) lists
    let stateful := strategies.foldl (forStateful w other) plains
    (strategies.foldl (forEscaped w other) stateful).sheet =
      sheet.withoutRules (loses w document other false strategies) := by
  refine (singles_sheet _ _).trans ?_
  rw [components_any,Sheet.withoutRules_twice]
  simp only [← loses_late]

theorem drops_browser (grouped : sheet.Grouped) :
    (browserPasses w strategies document browser sheet).sheet =
      sheet.without (drops w document browser false strategies sheet) := by
  have single := loses_singles w document browser strategies sheet
  dsimp only at single
  have left : Sheet.Grouped (sheet.withoutRules (loses w document browser false strategies)) := Sheet.grouped_without _ grouped
  have shallow := Shallow.any (forgets_shallow w (sheet.withoutRules (loses w document browser false strategies))) strategies
  unfold browserPasses selectors
  dsimp only
  rw [animations_sheet (by rwa [single]),single]
  exact (Sheet.without_without shallow sheet).trans (Sheet.without_congr fun n _ => by simp [drops])

theorem drops_document (grouped : sheet.Grouped) :
    (documentPasses w strategies followsData o sheet).sheet = sheet.without (drops w o o followsData strategies sheet) := by
  cases followsData with
  | true => exact (loses_early o).trans (Sheet.without_congr fun n _ => by simp [drops])
  | false => exact drops_browser grouped

theorem drops_group (grouped : sheet.Grouped) {name params : Text} {children : Sheet}
    (inside : .group name params children ∈ sheet.nodes) :
    drops w document other followsData strategies sheet (.group name params children) = false := by
  have spared := (SparesRules.any (forgets_spares w
    (sheet.withoutRules (loses w document other followsData strategies))) strategies).group name params children
      (Sheet.grouped_nodes grouped inside)
  rw [drops,spared]
  simp [Sheet.onRule]

theorem weighed_left (grouped : sheet.Grouped) :
    (sheet.without (drops w document other followsData strategies sheet)).pruned.weighed =
      sheet.weighed.filter fun n => !drops w document other followsData strategies sheet n := by
  rw [Sheet.weighed_pruned,Sheet.weighed_without fun _ _ _ inside => drops_group grouped inside]

-- The evidence of two runs: the second one has all that the first one has.
structure Outweighed (w w' : Whitelist) (document document' other other' : Oracle) (followsData followsData' : Bool) : Prop where
  whitelist : w.Within w'
  document : document.Within document'
  other : other.Within other'
  followsData : followsData = true → followsData' = true

variable (more : Outweighed w w' document document' other other' followsData followsData')
include more

theorem Outweighed.keeps (kept : keeps w document other followsData st = true) :
    keeps w' document' other' followsData' st = true := by
  unfold Cleaning.keeps at kept ⊢
  rcases Bool.or_eq_true_iff.mp kept with safe | used
  · exact Bool.or_eq_true_iff.mpr (.inl (more.whitelist.strategy st safe))
  · refine Bool.or_eq_true_iff.mpr (.inr ?_)
    split at used
    · rename_i component
      rw [if_pos component]
      exact more.document.uses used
    · rename_i component
      rw [if_neg component]
      exact Bool.or_eq_true_iff.mpr ((Bool.or_eq_true_iff.mp used).imp more.followsData more.other.uses)

theorem Outweighed.loses (gone : loses w' document' other' followsData' strategies r = true) :
    loses w document other followsData strategies r = true := by
  refine Bool.or_eq_true_iff.mpr ((Bool.or_eq_true_iff.mp gone).imp id fun decided => ?_)
  obtain ⟨st,inside,said⟩ := List.any_eq_true.mp decided
  obtain ⟨unkept,own⟩ := Bool.and_eq_true_iff.mp said
  refine List.any_eq_true.mpr ⟨st,inside,Bool.and_eq_true_iff.mpr ⟨?_,own⟩⟩
  rw [Bool.not_eq_true'] at unkept ⊢
  refine Bool.eq_false_iff.mpr fun kept => ?_
  rw [more.keeps kept] at unkept
  cases unkept

-- The rules that name an animation in the first run are left in the second.
theorem Outweighed.references {a : Text}
    (named : Sheet.referencesAnimation a (sheet.withoutRules (Cleaning.loses w document other followsData strategies)) = true) :
    Sheet.referencesAnimation a (sheet.withoutRules (Cleaning.loses w' document' other' followsData' strategies)) = true := by
  obtain ⟨r,left,names⟩ := List.any_eq_true.mp named
  refine List.any_eq_true.mpr ⟨r,?_,names⟩
  rw [Sheet.rules_withoutRules,List.mem_filter,Bool.not_eq_true'] at left ⊢
  refine ⟨left.1,Bool.eq_false_iff.mpr fun gone => ?_⟩
  rw [more.loses gone] at left
  cases left.2

theorem Outweighed.drops (gone : drops w' document' other' followsData' strategies sheet n = true) :
    drops w document other followsData strategies sheet n = true := by
  rcases Bool.or_eq_true_iff.mp gone with ruled | forgotten
  · refine Bool.or_eq_true_iff.mpr (.inl ?_)
    cases n with
    | rule r => exact more.loses ruled
    | statement | block | group => cases ruled
  · obtain ⟨shown,unnamed⟩ := Bool.and_eq_true_iff.mp forgotten
    have shown' : (!followsData) = true := by
      rw [Bool.not_eq_true'] at shown ⊢
      refine Bool.eq_false_iff.mpr fun hidden => ?_
      rw [more.followsData hidden] at shown
      cases shown
    refine Bool.or_eq_true_iff.mpr (.inr (Bool.and_eq_true_iff.mpr ⟨shown',?_⟩))
    obtain ⟨st,inside,said⟩ := List.any_eq_true.mp unnamed
    refine List.any_eq_true.mpr ⟨st,inside,?_⟩
    cases st with
    | animation a =>
      obtain ⟨free,own⟩ := Bool.and_eq_true_iff.mp said
      refine Bool.and_eq_true_iff.mpr ⟨?_,own⟩
      rw [Bool.not_eq_true'] at free ⊢
      refine Bool.eq_false_iff.mpr fun kept => ?_
      have kept' : (w'.protectsAnimation a || Sheet.referencesAnimation a
          (sheet.withoutRules (Cleaning.loses w' document' other' followsData' strategies))) = true :=
        Bool.or_eq_true_iff.mpr ((Bool.or_eq_true_iff.mp kept).imp (more.whitelist.strategy (.animation a)) more.references)
      rw [kept'] at free
      cases free
    | _ => cases said

theorem Outweighed.sublist (strategies : List Strategy) (grouped : sheet.Grouped) :
    ((sheet.without (Cleaning.drops w document other followsData strategies sheet)).pruned.weighed).Sublist
      (sheet.without (Cleaning.drops w' document' other' followsData' strategies sheet)).pruned.weighed := by
  rw [weighed_left grouped,weighed_left grouped]
  refine List.monotone_filter_right _ fun n kept => ?_
  rw [Bool.not_eq_true'] at kept ⊢
  refine Bool.eq_false_iff.mpr fun gone => ?_
  rw [more.drops gone] at kept
  cases kept

omit more

theorem byDocument_more (grouped : sheet.Grouped) (more : Outweighed w w' o o' o o' followsData followsData') :
    (byDocument w strategies followsData o sheet).sheet.weighed.Sublist
      (byDocument w' strategies followsData' o' sheet).sheet.weighed := by
  have sub := more.sublist strategies grouped
  rw [← drops_document grouped,← drops_document grouped] at sub
  exact sub

theorem byBrowser_more (grouped : sheet.Grouped) (more : Outweighed w w' document document' browser browser' false false) :
    (byBrowser w strategies document browser sheet).sheet.weighed.Sublist
      (byBrowser w' strategies document' browser' sheet).sheet.weighed := by
  have sub := more.sublist strategies grouped
  rw [← drops_browser grouped,← drops_browser grouped] at sub
  exact sub

-- With more whitelisted, more called used and more said to follow data, every rule and every animation
-- that is kept is kept again, in the same order. In particular nothing goes for want of an answer.
theorem more_evidence_keeps_more (css : Text) (listed : Whitelist.ofEntries entries = .ok w)
    (listed' : Whitelist.ofEntries entries' = .ok w') (included : entries ⊆ entries')
    (shown : document.Within document') (seen : browser.Within browser') (flagged : followsData = true → followsData' = true) :
    let sheet := sheetOf css
    ((byDocument w sheet.classify followsData document sheet).sheet.weighed.Sublist
        (byDocument w' sheet.classify followsData' document' sheet).sheet.weighed ∧
      (byBrowser w sheet.classify document browser sheet).sheet.weighed.Sublist
        (byBrowser w' sheet.classify document' browser' sheet).sheet.weighed) ∧
    ∀ mute silent, document.Falters mute → browser.Falters silent →
      (byDocument w sheet.classify followsData document sheet).sheet.weighed.Sublist
        (byDocument w sheet.classify followsData mute sheet).sheet.weighed ∧
      (byBrowser w sheet.classify document browser sheet).sheet.weighed.Sublist
        (byBrowser w sheet.classify mute silent sheet).sheet.weighed := by
  have grouped := sheetOf_grouped css
  have within : w.Within w' := fun selector => Whitelist.protects_more listed listed' included
  refine ⟨⟨byDocument_more grouped ⟨within,shown,shown,flagged⟩,byBrowser_more grouped ⟨within,shown,seen,nofun⟩⟩,?_⟩
  intro mute silent faltering failing
  exact ⟨byDocument_more grouped ⟨fun _ => id,faltering.within,faltering.within,id⟩,
    byBrowser_more grouped ⟨fun _ => id,faltering.within,failing.within,nofun⟩⟩

-- A whitelisted branch saves the list that names the animation, and with it the animation.
theorem more_evidence_keeps_list :
    let o : Oracle := ⟨.document,fun selector => some (if selector = (".a" : Text) then 1 else 0),fun _ => some []⟩
    let sheet := sheetOf ".a{b:c}.d,.e{animation:spin}@media print{@keyframes spin{}}"
    Whitelist.ofEntries [] = .ok ⟨[],[]⟩ ∧ Whitelist.ofEntries [" .e "] = .ok ⟨[".e"],[]⟩ ∧
      (byDocument ⟨[],[]⟩ sheet.classify false o sheet).sheet.weighed.length = 1 ∧
      (byDocument ⟨[".e"],[]⟩ sheet.classify false o sheet).sheet.weighed.length = 3 ∧
      (byDocument ⟨[],[]⟩ sheet.classify false o sheet).sheet.weighed.Sublist
        (byDocument ⟨[".e"],[]⟩ sheet.classify false o sheet).sheet.weighed := by
  intro o sheet
  have same : o.Within o := ⟨fun _ => id,fun _ => id⟩
  have unflagged : false = true → false = true := id
  have none : Whitelist.ofEntries [] = .ok ⟨[],[]⟩ := rfl
  have one : Whitelist.ofEntries [" .e "] = .ok ⟨[".e"],[]⟩ := rfl
  have written : sheet = sheetOf _ := congrArg sheetOf (chars_of_literal rfl)
  exact ⟨none,one,by rw [written]; decide +kernel,by rw [written]; decide +kernel,
    (more_evidence_keeps_more ".a{b:c}.d,.e{animation:spin}@media print{@keyframes spin{}}" none one
      (List.nil_subset _) same same unflagged).1.1⟩

end Cleaning
end StyleTrim
