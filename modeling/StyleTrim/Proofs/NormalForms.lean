import StyleTrim.Proofs.Outlines
import StyleTrim.Proofs.Phrases
namespace StyleTrim.Css
open Text Component
variable {n m : Node} {s t : Sheet} {finish : Place} {cs rest : List Component} {first : Component}

-- What holds of each node of a sheet as it is read, and of what is left of such a sheet after any removals.

namespace Collapsing
variable {state : Collapsing}

-- The state in which what is written for a pending blank is read again.
def settled (state : Collapsing) : Collapsing := {state with pending := false}

theorem settled_idle (idle : state.pending = false) : state.settled = state := by
  obtain ⟨quote,escaped,pending⟩ := state
  cases idle
  rfl

theorem Sane.pending (sane : state.Sane) (waits : state.pending = true) : state = behind := by
  obtain ⟨outside,unescaped⟩ := sane waits
  obtain ⟨quote,escaped,pending⟩ := state
  cases waits
  cases outside
  cases unescaped
  rfl

-- Blanks are held back only outside of strings and escapes.
theorem settled_waits (waits : (state.step c).1 = []) : state.settled = start := by
  obtain ⟨quote,escaped,pending⟩ := state
  cases quote with
  | some mark => cases waits
  | none =>
    cases escaped with
    | true => cases waits
    | false => rfl

-- The same characters come out again: a blank that is written once is one blank when it is read.
theorem run_run (sane : state.Sane) (s : Text) : state.settled.run (state.run s) = state.run s := by
  induction s generalizing state with
  | nil => rfl
  | cons c s ih =>
    rcases step_cases sane c with ⟨waits,_⟩ | ⟨added,idle⟩
    · have again := ih (sane.step c)
      rw [run,settled_waits (congrArg Prod.fst waits)]
      rw [waits] at again ⊢
      exact again
    · have again := ih (sane.step c)
      rw [settled_idle idle] at again
      cases waits : state.pending with
      | false =>
        rw [waits,if_neg Bool.false_ne_true] at added
        rw [settled_idle waits,run,added,List.singleton_append,run,added,again,List.singleton_append]
      | true =>
        cases sane.pending waits
        rw [waits,if_pos rfl] at added
        have blank : behind.settled.run (' ' :: c :: (behind.step c).2.run s) = behind.run (c :: (behind.step c).2.run s) := rfl
        rw [run,added]
        refine blank.trans ?_
        rw [run,added,again]

end Collapsing

theorem trimStart_dark (s : Text) : Dark (trimStart isBlank s) := by
  intro c first
  have stops := List.head?_dropWhile_not isBlank s
  rw [trimStart] at first
  rw [first] at stops
  exact stops

theorem collapse_collapse (s : Text) : collapse (collapse s) = collapse s := by
  have dark : Dark (collapse s) := run_dark (trimStart_dark s)
  rw [collapse,trimStart,dark_skip dark]
  exact Collapsing.run_run Collapsing.sane_start _

def IsLow (name : Text) : Prop := ∀ c ∈ name, isAsciiUpper c = false

-- Only the characters of the name are tried.
instance : DecidablePred IsLow := fun name => List.decidableBAll _ name

theorem lowered : ∀ k < 26, isAsciiUpper (lowerChar (Char.ofNat (65 + k))) = false := by decide

theorem lower_low (name : Text) : IsLow (lower name) := by
  intro c inside
  obtain ⟨d,_,rfl⟩ := List.mem_map.mp inside
  cases upper : isAsciiUpper d with
  | false => rwa [lowerChar,upper]
  | true =>
    simp only [isAsciiUpper,Bool.and_eq_true,decide_eq_true_eq] at upper
    have low : 65 ≤ d.toNat := upper.1
    have high : d.toNat ≤ 90 := upper.2
    have read := lowered (d.toNat - 65) (by omega)
    rwa [Nat.add_sub_cancel' low,Char.ofNat_toNat] at read

def Entry.Normal : Entry → Prop
  | .declaration d => Read.isCustom d.name = true ∨ IsLow d.name
  | .verbatim text => text ≠ []

def AtNormal (name params : Text) : Prop := IsLow name ∧ collapse params = params

def Head.Normal : Head → Prop
  | .rule r => (r.selector ≠ [] ∧ collapse r.selector = r.selector) ∧ ∀ e ∈ r.entries, e.Normal
  | .statement name params => AtNormal name params
  | .block name params _ => AtNormal name params ∧ isGroupName name = false
  | .group name params => AtNormal name params ∧ isGroupName name = true

def Sheet.Normal (s : Sheet) : Prop := ∀ n ∈ s.nodes, n.head.Normal

instance : DecidablePred Entry.Normal
  | .declaration d => inferInstanceAs (Decidable (Read.isCustom d.name = true ∨ IsLow d.name))
  | .verbatim text => inferInstanceAs (Decidable (text ≠ []))

instance (name params : Text) : Decidable (AtNormal name params) :=
  inferInstanceAs (Decidable (IsLow name ∧ collapse params = params))

instance : DecidablePred Head.Normal
  | .rule r => inferInstanceAs (Decidable ((r.selector ≠ [] ∧ collapse r.selector = r.selector) ∧ ∀ e ∈ r.entries, e.Normal))
  | .statement name params => inferInstanceAs (Decidable (AtNormal name params))
  | .block name params _ => inferInstanceAs (Decidable (AtNormal name params ∧ isGroupName name = false))
  | .group name params => inferInstanceAs (Decidable (AtNormal name params ∧ isGroupName name = true))

instance : DecidablePred Sheet.Normal := fun s => inferInstanceAs (Decidable (∀ n ∈ s.nodes, n.head.Normal))

theorem Sheet.Normal.cons (normal : n.head.Normal) (later : s.Normal) (inside : n.nodes = [n]) : Sheet.Normal (n :: s) := by
  intro m found
  rw [Sheet.nodes,inside] at found
  rcases List.mem_cons.mp found with rfl | found
  · exact normal
  · exact later m found

theorem Sheet.Normal.group {name params : Text} {children : Sheet} (normal : (Head.group name params).Normal)
    (inner : children.Normal) (later : s.Normal) : Sheet.Normal (.group name params children :: s) := by
  intro m found
  rcases List.mem_append.mp found with here | found
  · rcases List.mem_cons.mp here with rfl | deeper
    · exact normal
    · exact inner m deeper
  · exact later m found

namespace Read

def Attempt.Normal : Attempt → Prop
  | .entry e => e.Normal
  | .failed .. => True

theorem verbatimBlock_normal (head : Text) (inside : List Component) : (verbatimBlock head inside).Normal := by
  simp [verbatimBlock,Entry.Normal]

theorem nestedRule_normal (finish : Place) (cs : List Component) : (nestedRule finish cs).1.Normal := by
  unfold nestedRule
  split
  · exact verbatimBlock_normal _ _
  · trivial
  · trivial

theorem headText_some (name params : Text) : headText name params ≠ [] := by
  unfold headText
  split <;> exact List.cons_ne_nil _ _

theorem nestedAtRule_normal (name : Text) (cs : List Component) : (nestedAtRule name cs).1.Normal := by
  unfold nestedAtRule
  dsimp only
  split
  · exact verbatimBlock_normal _ _
  · exact headText_some _ _
  · exact headText_some _ _

theorem declarationOf_normal (name : Text) (value : List Component) : (Entry.declaration (declarationOf name value)).Normal := by
  cases custom : isCustom name with
  | true => exact .inl (by simp [declarationOf,custom])
  | false => exact .inr (by simpa [declarationOf,custom] using lower_low name)

theorem blame_normal (finish : Place) (first : Component) (rest : List Component) (place : Place) :
    (named.blame finish first rest place).1.Normal := by
  have nested := nestedRule_normal finish (first :: rest)
  unfold named.blame
  split
  · rename_i same; rwa [same] at nested
  · trivial

theorem attempt_normal (finish : Place) (first : Component) (rest : List Component) : (attempt finish first rest).1.Normal := by
  unfold attempt
  split
  · exact nestedRule_normal ..
  · split
    · exact nestedAtRule_normal ..
    · unfold named
      split
      · exact blame_normal ..
      · split
        · exact declarationOf_normal ..
        · split <;> exact blame_normal ..
    · exact nestedRule_normal ..

theorem entries_normal (selector : Text) (finish : Place) (cs : List Component) :
    ∀ e ∈ (entries selector finish cs).1, e.Normal := by
  fun_induction entries selector finish cs with
  | case1 => nofun
  | case2 => assumption
  | case3 first rest shown more e read later =>
    have normal := attempt_normal finish first rest
    rw [read] at normal
    exact List.forall_mem_cons.mpr ⟨normal,later⟩
  | case4 => assumption
  | case5 first rest shown more place source read text some later =>
    refine List.forall_mem_cons.mpr ⟨?_,later⟩
    rintro none
    exact some (List.isEmpty_iff.mpr none)

def Shape.Normal : Shape → Prop
  | .statement name params | .atBlock name params _ _ => AtNormal name params
  | .styled selector _ _ => selector ≠ [] ∧ collapse selector = selector
  | .invalid .. => True

theorem atShape_normal (finish : Place) (name : Text) (cs : List Component) : (atShape finish name cs).1.Normal := by
  have normal : AtNormal (lower name) (collapse (texts (front endsHead cs))) := ⟨lower_low name,collapse_collapse _⟩
  unfold atShape
  dsimp only
  split <;> exact normal

theorem styledShape_normal (finish : Place) (cs : List Component) : (styledShape finish cs).1.Normal := by
  unfold styledShape
  dsimp only
  split
  · split
    · trivial
    · rename_i some
      exact ⟨fun none => some (List.isEmpty_iff.mpr none),collapse_collapse _⟩
  · trivial

theorem shape_normal (finish : Place) (first : Component) (rest : List Component) : (shape finish first rest).1.Normal := by
  unfold shape
  split
  · trivial
  · split
    · exact atShape_normal ..
    · exact styledShape_normal ..

theorem rules_normal (finish : Place) (veryFirst : Bool) (cs : List Component) : (rules finish veryFirst cs).sheet.Normal := by
  fun_induction rules finish veryFirst cs with
  | case1 => nofun
  | case2 => assumption
  | case3 finish veryFirst cs first rest visible other more name params form later =>
    have normal := shape_normal finish first rest
    rw [form] at normal
    exact .cons normal later rfl
  | case4 finish veryFirst cs first rest visible other more name params inside stop form group read later inner =>
    have normal := shape_normal finish first rest
    rw [form] at normal
    exact .group ⟨normal,group⟩ inner later
  | case5 finish veryFirst cs first rest visible other more name params inside stop form block later =>
    have normal := shape_normal finish first rest
    rw [form] at normal
    exact .cons (n := .block name params _) ⟨normal,Bool.eq_false_iff.mpr block⟩ later rfl
  | case6 finish veryFirst cs first rest visible other more selector inside stop form read later =>
    have normal := shape_normal finish first rest
    rw [form] at normal
    exact .cons (n := .rule ⟨selector,_⟩) ⟨normal,entries_normal selector stop inside⟩ later rfl
  | case7 => assumption

theorem leadingCharset?_normal {params : Text} (found : leadingCharset? cs = some (params,rest)) : collapse params = params := by
  unfold leadingCharset? at found
  split at found
  · split at found
    · cases found
      exact collapse_collapse _
    · cases found
  · cases found

end Read

theorem sheetOf_normal (css : Text) : (sheetOf css).Normal := by
  unfold sheetOf read
  dsimp only
  split
  · rename_i found
    exact .cons (n := .statement "charset" _) ⟨by decide,Read.leadingCharset?_normal found⟩ (Read.rules_normal _ _ _) rfl
  · exact Read.rules_normal _ _ _

-- One removal from a sheet.
inductive Removal where
  | selector (text : Text)
  | rules (p : Rule → Bool)
  | emptyRules
  | animation (name : Text)
  | emptyGroups

def Removal.left (s : Sheet) : Removal → Sheet
  | .selector text => s.withoutSelector text
  | .rules p => s.withoutRules p
  | .emptyRules => s.withoutEmptyRules
  | .animation name => s.withoutAnimation name
  | .emptyGroups => s.pruned

-- The nodes of one sheet are those of another, but for what the groups among them hold.
def Sheet.Within (s t : Sheet) : Prop := ∀ n ∈ s.nodes, ∃ m ∈ t.nodes, m.head = n.head

theorem Sheet.Within.normal (within : Sheet.Within s t) (normal : t.Normal) : s.Normal := by
  intro n inside
  obtain ⟨m,found,same⟩ := within n inside
  exact same ▸ normal m found

mutual
theorem Node.within_without (drop : Node → Bool) : ∀ n : Node, Sheet.Within (n.without drop) [n]
  | .rule _ | .statement .. | .block .. => by
    rw [Node.without]
    · split
      · nofun
      · exact fun m inside => ⟨m,inside,rfl⟩
    · nofun
  | .group name params children => by
    rw [Node.without]
    split
    · nofun
    · intro m inside
      rcases List.mem_append.mp inside with here | none
      · rcases List.mem_cons.mp here with rfl | deeper
        · exact ⟨_,List.mem_append_left _ List.mem_cons_self,rfl⟩
        · obtain ⟨k,found,same⟩ := Sheet.within_without drop children m deeper
          exact ⟨k,List.mem_append_left _ (List.mem_cons_of_mem _ found),same⟩
      · cases none
theorem Sheet.within_without (drop : Node → Bool) : ∀ s : Sheet, Sheet.Within (Sheet.without drop s) s
  | [] => nofun
  | n :: more => by
    intro m inside
    rw [Sheet.without,Sheet.nodes_append] at inside
    rcases List.mem_append.mp inside with here | later
    · obtain ⟨k,found,same⟩ := Node.within_without drop n m here
      rw [Sheet.nodes,Sheet.nodes,List.append_nil] at found
      exact ⟨k,List.mem_append_left _ found,same⟩
    · obtain ⟨k,found,same⟩ := Sheet.within_without drop more m later
      exact ⟨k,List.mem_append_right _ found,same⟩
end

theorem Sheet.within_pruned (s : Sheet) : Sheet.Within s.pruned s := by
  intro n inside
  rw [← Sheet.nested_nodes 0] at inside
  obtain ⟨⟨depth,n⟩,placed,rfl⟩ := List.mem_map.mp inside
  have listed : (depth,n.head) ∈ outlined (s.pruned.nested 0) := List.mem_map_of_mem placed
  rw [Sheet.nested_pruned] at listed
  obtain ⟨⟨deep,m⟩,kept,same⟩ := List.mem_map.mp listed
  refine ⟨m,?_,congrArg Prod.snd same⟩
  rw [← Sheet.nested_nodes 0]
  exact List.mem_map_of_mem (List.mem_filter.mp kept).1

theorem Removal.within (s : Sheet) (removal : Removal) : Sheet.Within (removal.left s) s := by
  cases removal with
  | selector | rules | emptyRules | animation => exact Sheet.within_without _ s
  | emptyGroups => exact Sheet.within_pruned s

theorem removals_normal (normal : s.Normal) (removals : List Removal) : (removals.foldl Removal.left s).Normal := by
  induction removals generalizing s with
  | nil => exact normal
  | cons removal more ih => exact ih ((removal.within s).normal normal)

theorem sheets_stay_normal :
    (∀ css, (sheetOf css).Normal) ∧ ∀ s : Sheet, s.Normal → ∀ removals : List Removal, (removals.foldl Removal.left s).Normal :=
  ⟨sheetOf_normal,fun _ normal => removals_normal normal⟩

theorem printed_sheet_stays_normal :
    Sheet.Normal [.group "media" "print" [.rule ⟨"a b",[.verbatim "@x"]⟩,.rule ⟨"p",[]⟩]] ∧
      Sheet.Normal ([Removal.emptyRules,.selector "a b",.emptyGroups].foldl Removal.left
        [.group "media" "print" [.rule ⟨"a b",[.verbatim "@x"]⟩,.rule ⟨"p",[]⟩]]) := by
  have normal : Sheet.Normal [.group "media" "print" [.rule ⟨"a b",[.verbatim "@x"]⟩,.rule ⟨"p",[]⟩]] := by decide +kernel
  exact ⟨normal,sheets_stay_normal.2 _ normal _⟩

end StyleTrim.Css
