import StyleTrim.Proofs.Classes
import StyleTrim.Proofs.UsedRules
namespace StyleTrim
open Text Css
variable {o : Oracle} {w : Whitelist} {sheet : Sheet} {r : Rule} {s t u v branch selector : Text} {c : Char}

-- A list of selectors is cut into branches that are no lists, so that each can be decided on as a selector that
-- stands alone, and the list as all of them together.

namespace Css.Selector.Scan
variable {scan : Scan}

-- No comma of the text stands at the top.
def Whole (scan : Scan) (t : Text) : Prop := scan.cut t = [t]

-- A comma is at the top where the scan stands as it began.
theorem isTop_start (top : scan.isTop ',' = true) : scan = start := by
  obtain ⟨depth,quote,escaped⟩ := scan
  simp only [isTop,Bool.and_eq_true,Bool.not_eq_true',Option.isNone_iff_eq_none,beq_iff_eq] at top
  obtain ⟨⟨⟨rfl,rfl⟩,rfl⟩,_⟩ := top
  rfl

theorem top_start (top : scan.isTop ',' = true) : scan.after ',' = start := by
  rw [isTop_start top]
  rfl

theorem cut_filled (scan : Scan) (t : Text) : ∃ first more, scan.cut t = first :: more := by
  induction t generalizing scan with
  | nil => exact ⟨[],[],rfl⟩
  | cons c t ih =>
    obtain ⟨first,more,rest⟩ := ih (scan.after c)
    unfold cut
    split
    · exact ⟨[],_,rfl⟩
    · simp [rest]

theorem whole_cons : scan.Whole (c :: t) ↔ (c = ',' && scan.isTop c) = false ∧ (scan.after c).Whole t := by
  obtain ⟨first,more,rest⟩ := cut_filled (scan.after c) t
  rw [Whole,Whole,cut.eq_2,rest]
  cases comma : (c = ',' && scan.isTop c : Bool) <;> simp

-- Each piece is scanned from the state in which it was cut: the first from where the scan stood, all others from the start.
theorem cut_whole (scan : Scan) (t : Text) :
    ∃ first more, scan.cut t = first :: more ∧ scan.Whole first ∧ ∀ piece ∈ more, start.Whole piece := by
  induction t generalizing scan with
  | nil => exact ⟨[],[],rfl,rfl,by simp⟩
  | cons c t ih =>
    obtain ⟨first,more,rest,whole,others⟩ := ih (scan.after c)
    cases comma : (c = ',' && scan.isTop c : Bool) with
    | true =>
      refine ⟨[],first :: more,by simp [cut,comma,rest],rfl,?_⟩
      simp only [Bool.and_eq_true,decide_eq_true_eq] at comma
      obtain ⟨rfl,top⟩ := comma
      rw [top_start top] at whole
      exact List.forall_mem_cons.mpr ⟨whole,others⟩
    | false => exact ⟨c :: first,more,by simp [cut,comma,rest],whole_cons.mpr ⟨comma,whole⟩,others⟩

theorem Whole.front (whole : scan.Whole (u ++ v)) : scan.Whole u := by
  induction u generalizing scan with
  | nil => rfl
  | cons c u ih =>
    have parts := whole_cons.mp whole
    exact whole_cons.mpr ⟨parts.1,ih parts.2⟩

theorem blank_start (blank : isBlank c = true) : start.after c = start := by
  have other : ∀ mark : Char, isBlank mark = false → c ≠ mark := by
    intro mark dark same
    simp [same,dark] at blank
  simp [after,start,other '\\' (by decide),other '"' (by decide),other '\'' (by decide),other '(' (by decide),
    other '[' (by decide),other ')' (by decide),other ']' (by decide)]

theorem Whole.trimStart (whole : start.Whole t) : start.Whole (trimStart isBlank t) := by
  induction t with
  | nil => exact whole
  | cons c t ih =>
    cases blank : isBlank c with
    | true =>
      have parts := whole_cons.mp whole
      rw [blank_start blank] at parts
      simpa [Text.trimStart,blank] using ih parts.2
    | false => simpa [Text.trimStart,blank] using whole

theorem Whole.trim (whole : start.Whole t) : start.Whole (trim t) := by
  obtain ⟨tail,same,_⟩ := trimEnd_append isBlank (Text.trimStart isBlank t)
  have front := whole.trimStart
  rw [same] at front
  exact front.front

end Css.Selector.Scan

namespace Css.Selector

theorem branch_whole (inside : branch ∈ branches selector) : Scan.start.Whole branch ∧ trim branch = branch ∧ branch ≠ [] := by
  obtain ⟨first,more,cuts,whole,others⟩ := Scan.cut_whole .start selector
  simp only [branches,List.mem_filter,List.mem_map,cuts,Bool.not_eq_true',List.isEmpty_eq_false_iff] at inside
  obtain ⟨⟨piece,among,rfl⟩,filled⟩ := inside
  have intact : Scan.start.Whole piece := by
    cases among with
    | head => exact whole
    | tail _ later => exact others piece later
  exact ⟨intact.trim,trim_trim piece,filled⟩

-- What a list was cut into cannot be cut again.
theorem branches_branch (inside : branch ∈ branches selector) : branches branch = [branch] := by
  obtain ⟨whole,trimmed,filled⟩ := branch_whole inside
  rw [Scan.Whole] at whole
  simp [branches,whole,trimmed,filled]

end Css.Selector

namespace Css

theorem Strategy.ofSelector_list (list : 1 < (Selector.branches selector).length) :
    Strategy.ofSelector selector = .anyOf selector (Selector.branches selector) := by
  simp [ofSelector,list]

theorem Strategy.ofSelector_anyOf {branches : List Text} (same : Strategy.ofSelector s = .anyOf selector branches) :
    1 < (Selector.branches s).length := by
  by_contra single
  unfold ofSelector at same
  dsimp only at same
  rw [if_neg single] at same
  repeat' split at same
  all_goals cases same

end Css

namespace Cleaning

-- What protects a branch is what protects it as a selector, and it is asked for as one.
theorem branch_keeps (inside : branch ∈ Selector.branches selector) :
    keeps w o o false (.ofSelector branch) = (w.protects branch || o.usesAlone (.ofSelector branch)) := by
  have text := Strategy.text_ofSelector branch
  cases known : Strategy.ofSelector branch with
  | anyOf s branches =>
    have list := Strategy.ofSelector_anyOf known
    simp [Selector.branches_branch inside] at list
  | animation a => exact absurd known (Strategy.ofSelector_not_animation branch a)
  | _ => simp [keeps,Whitelist.protectsStrategy,Oracle.uses,← known,text]

-- A sheet of one rule.
def lone (selector : Text) (entries : List Css.Entry) : Sheet := [.rule ⟨selector,entries⟩]

theorem lone_classify (selector : Text) (entries : List Css.Entry) : (lone selector entries).classify = [.ofSelector selector] := by
  simp [lone,Sheet.classify,Sheet.strategies,Node.strategies,Sheet.firstSeen]

-- Whether a rule that is alone in its sheet stays.
def StaysAlone (w : Whitelist) (o : Oracle) (selector : Text) (entries : List Css.Entry) : Prop :=
  ⟨selector,entries⟩ ∈ (byDocument w (lone selector entries).classify false o (lone selector entries)).sheet.rules

theorem staysAlone_iff {entries : List Css.Entry} (filled : entries ≠ []) :
    StaysAlone w o selector entries ↔ keeps w o o false (.ofSelector selector) = true := by
  have own : (lone selector entries).Unmasked selector := by
    intro a found
    rw [lone_classify,List.mem_singleton] at found
    exact absurd found.symm (Strategy.ofSelector_not_animation selector a)
  have alone : StaysAlone w o selector entries ↔ keepsRule w o o false ⟨selector,entries⟩ = true :=
    byDocument_rule ⟨trivial,trivial⟩ (by simp [lone,Sheet.rules,Node.rules]) own
  simpa [keepsRule,Rule.isEmpty,filled] using alone

theorem unmasked_list_iff {entries : List Css.Entry} (grouped : sheet.Grouped) (inside : r ∈ sheet.rules)
    (own : sheet.Unmasked r.selector) (full : r.entries ≠ []) (list : 2 ≤ (Selector.branches r.selector).length)
    (filled : entries ≠ []) :
    r ∈ (byDocument w sheet.classify false o sheet).sheet.rules ↔
      w.protects r.selector = true ∨ ∃ branch ∈ Selector.branches r.selector, StaysAlone w o branch entries := by
  have branches : ∀ branch ∈ Selector.branches r.selector,
      (StaysAlone w o branch entries ↔ w.protects branch = true ∨ o.usesAlone (.ofSelector branch) = true) := by
    intro branch among
    simp [staysAlone_iff filled,branch_keeps among]
  have together : r ∈ (byDocument w sheet.classify false o sheet).sheet.rules ↔ w.protects r.selector = true ∨
      ∃ branch ∈ Selector.branches r.selector, w.protects branch = true ∨ o.usesAlone (.ofSelector branch) = true := by
    rw [byDocument_rule grouped inside own]
    simp only [keepsRule,keeps,Rule.isEmpty,Strategy.ofSelector_list list,Whitelist.protectsStrategy,
      Whitelist.protectsList,Oracle.uses]
    simp [full,or_assoc,and_or_left,exists_or]
  rw [together]
  apply or_congr_right
  apply exists_congr
  intro branch
  exact and_congr_right fun among => (branches branch among).symm

-- A list stays exactly if it is protected as a whole or one of its branches would stay as a rule of its own, or if it
-- reads like an animation that is recorded.
theorem list_stays_iff (w : Whitelist) (o : Oracle) (sheet : Sheet) (r : Rule) (entries : List Css.Entry)
    (grouped : sheet.Grouped) (inside : r ∈ sheet.rules) (full : r.entries ≠ [])
    (list : 2 ≤ (Selector.branches r.selector).length) (filled : entries ≠ []) :
    r ∈ (byDocument w sheet.classify false o sheet).sheet.rules ↔ ¬ sheet.Unmasked r.selector ∨
      w.protects r.selector = true ∨ ∃ branch ∈ Selector.branches r.selector, StaysAlone w o branch entries := by
  by_cases own : sheet.Unmasked r.selector
  · simp [unmasked_list_iff grouped inside own full list filled,own]
  · simp [byDocument_masked grouped inside own,own,Rule.isEmpty,full]

-- A state of an element that is there, a class with an escape that nobody has, and a list in a group. Then a list behind
-- a blank that no tokenizer knows.
theorem list_stays_masked :
    let o : Oracle := ⟨.document,fun selector => some (if selector = (".c" : Text) then 1 else 0),fun _ => some []⟩
    (let r : Rule := ⟨".a\\:b, .c:hover",[.verbatim "d"]⟩
     let sheet : Sheet := [.rule ⟨".c:hover",[]⟩,.group "media" "print" [.rule r]]
     r ∈ (byDocument .empty sheet.classify false o sheet).sheet.rules ∧
      ¬ StaysAlone .empty o ".a\\:b" [.verbatim "d"] ∧ StaysAlone .empty o ".c:hover" [.verbatim "d"]) ∧
    (let css : Text := "@keyframes \"a,b\"{from{x:y}}\u00a0@keyframes a,b{c:d}"
     let r : Rule := ⟨"@keyframes a,b",[.declaration ⟨"c","d",false⟩]⟩
     r ∈ (byDocument .empty (sheetOf css).classify false o (sheetOf css)).sheet.rules ∧ Whitelist.empty.protects r.selector = false ∧
      Selector.branches r.selector = Text.ofStrings ["@keyframes a","b"] ∧
      ¬ StaysAlone .empty o "@keyframes a" [.verbatim "d"] ∧ ¬ StaysAlone .empty o "b" [.verbatim "d"]) := by
  intro o
  constructor
  · intro r sheet
    have grouped : sheet.Grouped := ⟨trivial,⟨by decide,trivial,trivial⟩,trivial⟩
    have stays := list_stays_iff .empty o sheet r [.verbatim "d"] grouped (by decide) (by decide) (by decide +kernel) (by decide)
    have second : StaysAlone .empty o ".c:hover" [.verbatim "d"] := by unfold StaysAlone; decide +kernel
    exact ⟨stays.mpr (.inr (.inr ⟨".c:hover",by decide +kernel,second⟩)),by unfold StaysAlone; decide +kernel,second⟩
  · intro css
    have written : css = _ := chars_of_literal rfl
    clear_value css
    intro r
    have stays := list_stays_iff .empty o (sheetOf css) r [.verbatim "d"] (sheetOf_grouped css) (by subst written; decide +kernel) (by decide)
      (by decide +kernel) (by decide)
    have masked : ¬ (sheetOf css).Unmasked r.selector := fun own => own "a,b" (by subst written; decide +kernel) rfl
    exact ⟨stays.mpr (.inl masked),by decide +kernel,by decide +kernel,by unfold StaysAlone; decide +kernel,
      by unfold StaysAlone; decide +kernel⟩

end Cleaning
end StyleTrim
