import StyleTrim.Proofs.ClassTokens
import StyleTrim.Proofs.Evidence
namespace StyleTrim
open Text Css
variable {o document browser : Oracle} {w : Whitelist} {s sheet out : Sheet} {n : Node} {st : Strategy}
  {all strategies : List Strategy} {a b value : Text} {seen : List Text}

-- Animations stay for the sake of the declarations that are left, as far as these are understood: a name
-- counts only where it stands between blanks and commas and holds none.

namespace Text
variable {p : Char → Bool} {t u v : Text}

theorem pieces_append (ends : p c = true) (u v : Text) : pieces p (u ++ c :: v) = pieces p u ++ pieces p v := by
  simp only [pieces_eq,List.splitOnP_append_cons u v ends]

-- A piece is a stretch without separators that has none but separators for neighbours.
theorem mem_pieces_iff {s : Text} : t ∈ pieces p s ↔ (∀ c ∈ t, p c = false) ∧
    ∃ u v, s = u ++ t ++ v ∧ (∀ c ∈ u.getLast?, p c = true) ∧ ∀ c ∈ v.head?, p c = true := by
  constructor
  · intro piece
    refine ⟨pieces_solid piece,?_⟩
    induction size : s.length using Nat.strongRecOn generalizing s with
    | ind n ih =>
      rcases split_or_solid p s with ⟨u,c,v,rfl,ends⟩ | solid
      · rw [List.length_append,List.length_cons] at size
        rcases List.mem_append.mp (pieces_append ends u v ▸ piece) with first | later
        · obtain ⟨u₁,v₁,rfl,before,behind⟩ := ih u.length (by omega) first rfl
          refine ⟨u₁,v₁ ++ c :: v,by simp,before,fun d head => ?_⟩
          cases v₁ with
          | nil => exact Option.some.inj head ▸ ends
          | cons => exact behind d head
        · obtain ⟨u₁,v₁,rfl,before,behind⟩ := ih v.length (by omega) later rfl
          refine ⟨u ++ c :: u₁,v₁,by simp,fun d last => ?_,behind⟩
          rw [List.getLast?_append_of_ne_nil _ (List.cons_ne_nil _ _)] at last
          cases found : u₁.getLast? with
          | none => rw [List.getLast?_cons,found] at last; exact Option.some.inj last ▸ ends
          | some e => rw [List.getLast?_cons,found] at last; exact before d (found.trans last)
      · rw [pieces_eq,List.splitOnP_eq_singleton solid,List.mem_singleton] at piece
        exact ⟨[],[],by simp [piece],nofun,nofun⟩
  · rintro ⟨solid,u,v,rfl,before,behind⟩
    have front : t ∈ pieces p (u ++ t) := by
      have own : pieces p t = [t] := by rw [pieces_eq,List.splitOnP_eq_singleton solid]
      rcases List.eq_nil_or_concat u with rfl | ⟨u,c,rfl⟩
      · exact own ▸ List.mem_singleton_self t
      · have ends := before c (by simp)
        rw [List.concat_eq_append,List.append_assoc,List.singleton_append,pieces_append ends,own]
        exact List.mem_append_right _ (List.mem_singleton_self t)
    cases v with
    | nil => rwa [List.append_nil]
    | cons c v =>
      rw [pieces_append (behind c rfl)]
      exact List.mem_append_left _ front

end Text

namespace Css

def separatesNames (c : Char) : Bool := isBlank c || c = ','

-- The name stands in the value between blanks and commas, alone or in quotes.
def Names (a value : Text) : Prop := ∃ before word behind, value = before ++ word ++ behind ∧ trimBy isQuoteMark word = a ∧
  (∀ c ∈ word, separatesNames c = false) ∧ (∀ c ∈ before.getLast?, separatesNames c = true) ∧
    ∀ c ∈ behind.head?, separatesNames c = true

-- Some rule has such a declaration of its own.
def Sheet.Calls (s : Sheet) (a : Text) : Prop :=
  ∃ r ∈ s.rules, ∃ d ∈ r.declarations, Text.contains d.name "animation" = true ∧ Names a d.value

theorem Sheet.mentions_iff : Sheet.mentions a value = true ↔ Names a value := by
  have kind : (fun c => isBlank c || decide (c = ',')) = separatesNames := rfl
  rw [Sheet.mentions,kind,List.any_eq_true]
  constructor
  · rintro ⟨word,piece,own⟩
    obtain ⟨solid,before,behind,whole,left,right⟩ := mem_pieces_iff.mp piece
    exact ⟨before,word,behind,whole,eq_of_beq own,solid,left,right⟩
  · rintro ⟨before,word,behind,whole,own,solid,left,right⟩
    exact ⟨word,mem_pieces_iff.mpr ⟨solid,before,behind,whole,left,right⟩,beq_iff_eq.mpr own⟩

-- A name that holds a blank or a comma cannot be called.
theorem Sheet.Calls.solid (called : s.Calls a) : ∀ c ∈ a, separatesNames c = false := by
  obtain ⟨r,_,d,_,_,before,word,behind,_,rfl,solid,_⟩ := called
  intro c inside
  exact solid c ((List.dropWhile_sublist _).mem (List.mem_reverse.mp ((List.dropWhile_sublist _).mem (List.mem_reverse.mp inside))))

theorem Sheet.references_iff : s.referencesAnimation a = true ↔ s.Calls a := by
  simp only [Sheet.referencesAnimation,Sheet.Calls,List.any_eq_true,Bool.and_eq_true,Sheet.mentions_iff]

-- The animation that a keyframes at-rule declares.
def Node.animation? (n : Node) : Option Text :=
  n.atRule?.bind fun head => if isKeyframesName head.1 then some (animationName head.2) else none

-- The animations that a sheet declares, in source order.
def Sheet.animations (s : Sheet) : List Text := s.nodes.filterMap Node.animation?

theorem Node.declaresAnimation_iff : n.declaresAnimation a = true ↔ n.animation? = some a := by
  unfold Node.declaresAnimation Node.animation?
  cases n.atRule? with
  | none => simp
  | some head =>
    obtain ⟨name,params⟩ := head
    cases isKeyframesName name <;> simp

theorem Sheet.mem_animations : a ∈ s.animations ↔ ∃ n ∈ s.nodes, n.declaresAnimation a = true := by
  simp only [Sheet.animations,List.mem_filterMap,Node.declaresAnimation_iff]

theorem Sheet.group_animation {name params : Text} {children : Sheet} (grouped : s.Grouped)
    (inside : .group name params children ∈ s.nodes) : (Node.group name params children).animation? = none := by
  simp [Node.animation?,Node.atRule?,group_no_keyframes (Sheet.grouped_nodes grouped inside)]

-- What declares an animation is among the nodes that are decided on.
theorem Sheet.animations_weighed (grouped : s.Grouped) : s.animations = s.weighed.filterMap Node.animation? := by
  rw [Sheet.animations,Sheet.weighed,List.filterMap_filter]
  refine List.filterMap_congr fun n inside => ?_
  cases n with
  | rule r => rfl
  | statement name params | block name params body =>
    cases kind : isKeyframesName name <;> simp [Node.animation?,Node.atRule?,Node.isWeighed,kind]
  | group name params children => exact Sheet.group_animation grouped inside

theorem Node.animation_unique (one : n.declaresAnimation a = true) (other : n.declaresAnimation b = true) : a = b :=
  Option.some.inj ((Node.declaresAnimation_iff.mp one).symm.trans (Node.declaresAnimation_iff.mp other))

-- A rule whose selector reads like the at-rule stands in front of all that declare the animation.
def Sheet.Masks (s : Sheet) (a : Text) : Prop := ∃ before r behind, s.nodes = before ++ .rule r :: behind ∧
  r.selector = (Strategy.animation a).text ∧ ∀ n ∈ before, n.declaresAnimation a = false

theorem Sheet.mem_firstSeen_iff : st ∈ Sheet.firstSeen seen all ↔ st.text ∉ seen ∧
    ∃ before behind, all = before ++ st :: behind ∧ ∀ other ∈ before, other.text ≠ st.text := by
  induction all generalizing seen with
  | nil => simp [Sheet.firstSeen]
  | cons head more ih =>
    have apart : (∃ before behind, head :: more = before ++ st :: behind ∧ ∀ other ∈ before, other.text ≠ st.text) ↔
        st = head ∨ head.text ≠ st.text ∧
          ∃ before behind, more = before ++ st :: behind ∧ ∀ other ∈ before, other.text ≠ st.text := by
      constructor
      · rintro ⟨before,behind,whole,other⟩
        cases before with
        | nil => exact .inl (List.cons.inj whole).1.symm
        | cons first before =>
          obtain ⟨rfl,rest⟩ := List.cons.inj whole
          exact .inr ⟨other _ List.mem_cons_self,before,behind,rest,fun u inside => other u (List.mem_cons_of_mem _ inside)⟩
      · rintro (rfl | ⟨unlike,before,behind,rest,other⟩)
        · exact ⟨[],more,rfl,fun _ inside => absurd inside List.not_mem_nil⟩
        · exact ⟨head :: before,behind,congrArg _ rest,List.forall_mem_cons.mpr ⟨unlike,other⟩⟩
    rw [Sheet.firstSeen,apart]
    split
    · rename_i old
      rw [ih]
      have known : head.text ∈ seen := List.contains_iff_mem.mp old
      constructor
      · rintro ⟨fresh,rest⟩
        exact ⟨fresh,.inr ⟨fun same => fresh (same ▸ known),rest⟩⟩
      · rintro ⟨fresh,rfl | ⟨_,rest⟩⟩
        · exact absurd known fresh
        · exact ⟨fresh,rest⟩
    · rename_i new
      rw [List.mem_cons,ih,List.mem_cons,not_or]
      have fresh : head.text ∉ seen := fun known => new (List.contains_iff_mem.mpr known)
      constructor
      · rintro (rfl | ⟨⟨unlike,unseen⟩,rest⟩)
        · exact ⟨fresh,.inl rfl⟩
        · exact ⟨unseen,.inr ⟨fun same => unlike same.symm,rest⟩⟩
      · rintro ⟨unseen,rfl | ⟨unlike,rest⟩⟩
        · exact .inl rfl
        · exact .inr ⟨⟨fun same => unlike same.symm,unseen⟩,rest⟩

theorem Sheet.strategy_animation (grouped : s.Grouped) (inside : n ∈ s.nodes) :
    n.strategy? = some (.animation a) ↔ n.declaresAnimation a = true := by
  cases n with
  | rule r =>
    simp [Node.strategy?,Node.declaresAnimation,Node.atRule?,Strategy.ofSelector_not_animation]
  | statement name params | block name params body =>
    cases kind : isKeyframesName name <;> simp [Node.strategy?,Node.declaresAnimation,Node.atRule?,kind]
  | group name params children =>
    simp [Node.strategy?,Node.declaresAnimation,Node.atRule?,group_no_keyframes (Sheet.grouped_nodes grouped inside)]

-- The text of an animation is that of a rule or of what declares the animation.
theorem Sheet.strategy_text (grouped : s.Grouped) (inside : n ∈ s.nodes) (found : n.strategy? = some st)
    (own : st.text = (Strategy.animation a).text) :
    (∃ r, n = .rule r ∧ r.selector = (Strategy.animation a).text) ∨ n.declaresAnimation a = true := by
  rw [← Sheet.strategy_animation grouped inside]
  cases n with
  | rule r =>
    cases found
    exact .inl ⟨r,rfl,(Strategy.text_ofSelector r.selector).symm.trans own⟩
  | statement name params | block name params body =>
    rw [Node.strategy?] at found ⊢
    split at found
    · cases found
      rename_i kind
      rw [if_pos kind,List.append_cancel_left own]
      exact .inr rfl
    · cases found
  | group => cases found

-- Among the nodes that give the text of an animation one is the first.
theorem Sheet.first_named (grouped : s.Grouped) (inside : n ∈ s.nodes) (declared : n.declaresAnimation a = true) :
    ∃ before first behind st, s.nodes = before ++ first :: behind ∧ first.strategy? = some st ∧
      st.text = (Strategy.animation a).text ∧
      ∀ m ∈ before, ∀ other, m.strategy? = some other → other.text ≠ (Strategy.animation a).text := by
  let named (n : Node) : Bool := n.strategy?.any fun st => st.text == (Strategy.animation a).text
  have own : named n = true := by
    simp only [named,(Sheet.strategy_animation grouped inside).mpr declared,Option.any_some,beq_self_eq_true]
  obtain ⟨first,found⟩ := Option.isSome_iff_exists.mp (List.find?_isSome.mpr ⟨n,inside,own⟩)
  obtain ⟨bears,before,behind,nodes,others⟩ := List.find?_eq_some_iff_append.mp found
  obtain ⟨st,known,text⟩ := (Option.any_eq_true _ _).mp bears
  refine ⟨before,first,behind,st,nodes,known,eq_of_beq text,fun m early other known same => ?_⟩
  have silent := others m early
  simp [named,known,same] at silent

-- An animation that is declared is decided on, unless its name was seen as a selector before.
theorem Sheet.classify_animation (grouped : s.Grouped) :
    .animation a ∈ s.classify ↔ (∃ n ∈ s.nodes, n.declaresAnimation a = true) ∧ ¬ s.Masks a := by
  rw [Sheet.classify,Sheet.mem_firstSeen_iff,Sheet.strategies_eq grouped]
  constructor
  · rintro ⟨_,before,behind,whole,other⟩
    obtain ⟨front,rest,nodes,rfl,rest_eq⟩ := List.filterMap_eq_append_iff.mp whole
    obtain ⟨skipped,n,behind₁,rfl,silent,own,rfl⟩ := List.filterMap_eq_cons_iff.mp rest_eq
    have inside : n ∈ s.nodes := by simp [nodes]
    refine ⟨⟨n,inside,(Sheet.strategy_animation grouped inside).mp own⟩,?_⟩
    rintro ⟨front₁,r,behind₂,nodes₁,masked,undeclared⟩
    -- The rule comes first or what declares the animation does.
    rw [nodes,← List.append_assoc] at nodes₁
    rcases List.append_eq_append_iff.mp nodes₁ with ⟨between,rfl,tail⟩ | ⟨between,early,tail⟩
    · cases between with
      | nil =>
        cases (List.cons.inj tail).1
        rw [Node.strategy?] at own
        exact Strategy.ofSelector_not_animation _ _ (Option.some.inj own)
      | cons m between =>
        cases (List.cons.inj tail).1
        have declared := (Sheet.strategy_animation grouped inside).mp own
        rw [undeclared n (by simp)] at declared
        cases declared
    · have among : Node.rule r ∈ front ++ skipped ∨ n = .rule r := by
        cases between with
        | nil => exact .inr (List.cons.inj tail).1.symm
        | cons m between =>
          cases (List.cons.inj tail).1
          exact .inl (by simp [early])
      rcases among with among | rfl
      · rcases List.mem_append.mp among with seen | skips
        · refine other (.ofSelector r.selector) (List.mem_filterMap.mpr ⟨_,seen,rfl⟩) ?_
          rw [Strategy.text_ofSelector,masked]
        · cases silent _ skips
      · exact Strategy.ofSelector_not_animation _ _ (Option.some.inj own)
  · rintro ⟨⟨n,inside,declared⟩,unmasked⟩
    obtain ⟨before,first,behind,st,nodes,known,text,others⟩ := Sheet.first_named grouped inside declared
    have among : first ∈ s.nodes := by simp [nodes]
    rcases Sheet.strategy_text grouped among known text with ⟨r,rfl,masked⟩ | declares
    · refine absurd ⟨before,r,behind,nodes,masked,fun m early => Bool.eq_false_iff.mpr fun declares => ?_⟩ unmasked
      exact others m early _ ((Sheet.strategy_animation grouped (by simp [nodes,early])).mpr declares) rfl
    · have whole : s.nodes.filterMap Node.strategy? =
          before.filterMap Node.strategy? ++ .animation a :: behind.filterMap Node.strategy? := by
        rw [nodes,List.filterMap_append,List.filterMap_cons_some ((Sheet.strategy_animation grouped among).mpr declares)]
      refine ⟨List.not_mem_nil,_,_,whole,fun other early same => ?_⟩
      obtain ⟨m,inside,known⟩ := List.mem_filterMap.mp early
      exact others m inside other known same

end Css

namespace Cleaning

-- What saves an animation: the whitelist, a call that is left, or a selector that hides it.
def Saved (w : Whitelist) (sheet out : Sheet) (a : Text) : Prop :=
  w.protectsAnimation a = true ∨ out.Calls a ∨ sheet.Masks a

theorem rules_left (w : Whitelist) (strategies : List Strategy) (document browser : Oracle) (grouped : sheet.Grouped) :
    (byBrowser w strategies document browser sheet).sheet.rules =
      Sheet.rules (sheet.withoutRules (loses w document browser false strategies)) := by
  have single := loses_singles w document browser strategies sheet
  dsimp only at single
  unfold byBrowser browserPasses selectors groups
  dsimp only
  rw [Sheet.rules_pruned,animations_rules (by rw [single]; exact Sheet.grouped_without _ grouped),single]

theorem declared_weighed (grouped : s.Grouped) :
    s.weighed.filter (Node.declaresAnimation a) = s.nodes.filter (Node.declaresAnimation a) := by
  rw [Sheet.weighed,List.filter_filter]
  refine List.filter_congr fun n inside => ?_
  cases n with
  | rule r => rfl
  | statement name params | block name params body =>
    cases kind : isKeyframesName name <;> simp [Node.declaresAnimation,Node.atRule?,Node.isWeighed,kind]
  | group name params children =>
    simp [Node.declaresAnimation,Node.atRule?,group_no_keyframes (Sheet.grouped_nodes grouped inside)]

-- What declares an animation goes for one reason.
theorem drops_declared (declared : n.declaresAnimation a = true) :
    drops w document browser false strategies sheet n = (strategies.contains (.animation a) &&
      !(w.protectsAnimation a || Sheet.referencesAnimation a (sheet.withoutRules (loses w document browser false strategies)))) := by
  have other : Sheet.onRule (loses w document browser false strategies) n = false := by
    cases n with
    | rule r => cases declared
    | _ => rfl
  rw [drops,other,Bool.false_or,Bool.not_false,Bool.true_and,Bool.eq_iff_iff,List.any_eq_true,Bool.and_eq_true,
    List.contains_iff_mem]
  constructor
  · rintro ⟨st,inside,gone⟩
    cases st with
    | animation b =>
      obtain ⟨free,own⟩ := Bool.and_eq_true_iff.mp gone
      have same : a = b := Node.animation_unique declared own
      exact same ▸ ⟨inside,free⟩
    | _ => cases gone
  · rintro ⟨inside,free⟩
    exact ⟨.animation a,inside,Bool.and_eq_true_iff.mpr ⟨free,declared⟩⟩

theorem declared_left (w : Whitelist) (document browser : Oracle) (grouped : sheet.Grouped) (a : Text) :
    let out := (byBrowser w sheet.classify document browser sheet).sheet
    out.nodes.filter (Node.declaresAnimation a) = if sheet.classify.contains (.animation a) &&
      !(w.protectsAnimation a || out.referencesAnimation a) then [] else sheet.nodes.filter (Node.declaresAnimation a) := by
  intro out
  have left : out = (sheet.without (drops w document browser false sheet.classify sheet)).pruned :=
    congrArg Sheet.pruned (drops_browser grouped)
  have shaped : out.Grouped := left ▸ Sheet.grouped_pruned (Sheet.grouped_without _ grouped)
  have calls : Sheet.referencesAnimation a (sheet.withoutRules (loses w document browser false sheet.classify)) =
      out.referencesAnimation a := by
    rw [Sheet.referencesAnimation,← rules_left w sheet.classify document browser grouped]
    rfl
  rw [← declared_weighed shaped,← declared_weighed grouped,left,weighed_left grouped,List.filter_filter,← left]
  split
  · rename_i gone
    refine List.filter_eq_nil_iff.mpr fun n _ stays => ?_
    obtain ⟨declared,kept⟩ := Bool.and_eq_true_iff.mp stays
    rw [drops_declared declared,calls,gone] at kept
    cases kept
  · rename_i kept
    refine List.filter_congr fun n _ => ?_
    cases declared : n.declaresAnimation a with
    | false => rfl
    | true =>
      rw [drops_declared declared,calls,Bool.eq_false_iff.mpr kept]
      rfl

theorem declared_saved (w : Whitelist) (document browser : Oracle) (grouped : sheet.Grouped) (a : Text) :
    let out := (byBrowser w sheet.classify document browser sheet).sheet
    (Saved w sheet out a → out.nodes.filter (Node.declaresAnimation a) = sheet.nodes.filter (Node.declaresAnimation a)) ∧
      (¬ Saved w sheet out a → out.nodes.filter (Node.declaresAnimation a) = []) := by
  intro out
  have left := declared_left w document browser grouped a
  dsimp only at left
  have goes_iff : (sheet.classify.contains (.animation a) && !(w.protectsAnimation a || out.referencesAnimation a)) = true ↔
      a ∈ sheet.animations ∧ ¬ Saved w sheet out a := by
    rw [Saved,← Sheet.references_iff,Bool.and_eq_true,List.contains_iff_mem,Sheet.classify_animation grouped,
      Sheet.mem_animations,Bool.not_eq_true',Bool.or_eq_false_iff,Bool.eq_false_iff,Bool.eq_false_iff]
    tauto
  constructor
  · intro saved
    refine left.trans (if_neg fun goes => ?_)
    exact (goes_iff.mp goes).2 saved
  · intro lost
    by_cases declared : a ∈ sheet.animations
    · exact left.trans (if_pos (goes_iff.mpr ⟨declared,lost⟩))
    · refine left.trans ((if_neg fun goes => declared (goes_iff.mp goes).1).trans ?_)
      refine List.filter_eq_nil_iff.mpr fun n inside declares => declared ?_
      exact Sheet.mem_animations.mpr ⟨n,inside,declares⟩

-- An animation stays, with all that declares it, exactly if it is protected, is called in a declaration
-- that is left, or was mistaken for a selector.
theorem called_animation_stays (w : Whitelist) (document browser : Oracle) (css a : Text) :
    let sheet := sheetOf css
    let alone := (byDocument w sheet.classify false document sheet).sheet
    let helped := (byBrowser w sheet.classify document browser sheet).sheet
    ((Saved w sheet alone a →
        alone.nodes.filter (Node.declaresAnimation a) = sheet.nodes.filter (Node.declaresAnimation a)) ∧
      (¬ Saved w sheet alone a → alone.nodes.filter (Node.declaresAnimation a) = [])) ∧
    (Saved w sheet helped a →
      helped.nodes.filter (Node.declaresAnimation a) = sheet.nodes.filter (Node.declaresAnimation a)) ∧
    (¬ Saved w sheet helped a → helped.nodes.filter (Node.declaresAnimation a) = []) :=
  ⟨declared_saved w document document (sheetOf_grouped css) a,declared_saved w document browser (sheetOf_grouped css) a⟩

-- The rule that is left calls both, but a blank parts the first name.
example :
    let css : Text := "@keyframes 'my spin'\x7b\x7d@keyframes 'spin'\x7b\x7d.a\x7banimation:'my spin' 1s,'spin' 2s\x7d"
    let o : Oracle := ⟨.document,fun _ => some 1,fun _ => some []⟩
    let out := (byDocument .empty (sheetOf css).classify false o (sheetOf css)).sheet
    (sheetOf css).animations = Text.ofStrings ["my spin","spin"] ∧ out.rules = (sheetOf css).rules ∧
      out.animations = Text.ofStrings ["spin"] := by
  intro css
  have written : css = _ := chars_of_literal rfl
  clear_value css
  subst written
  decide +kernel

end Cleaning
end StyleTrim
