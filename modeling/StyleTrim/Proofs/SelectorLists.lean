import StyleTrim.Proofs.Branches
import StyleTrim.Proofs.Classes
namespace StyleTrim.Css.Selector
open Text
variable {scan : Scan} {a b s branch : Text} {c : Char}

-- A list is cut at the commas at which the scan stands as it began. That says all of the cutting: at any such comma
-- the text may be cut first and its halves after, and where there is none the whole text is the branch.

namespace Scan

-- Where the scan stands after some text.
def past (scan : Scan) : Text → Scan
  | [] => scan
  | c :: s => (scan.after c).past s

theorem cut_comma (back : scan.past a = start) (b : Text) : scan.cut (a ++ ',' :: b) = scan.cut a ++ start.cut b := by
  induction a generalizing scan with
  | nil =>
    rw [show scan = start from back]
    rfl
  | cons c a ih =>
    have rest := ih back
    obtain ⟨first,more,cuts⟩ := cut_filled (scan.after c) a
    rw [cuts,List.cons_append] at rest
    rw [List.cons_append,cut,cut,rest,cuts]
    split <;> rfl

-- The commas at which a text is cut are those up to which the scan comes back to where it began.
theorem whole_iff : scan.Whole s ↔ ∀ a b, s = a ++ ',' :: b → scan.past a ≠ start := by
  constructor
  · rintro whole a b rfl back
    obtain ⟨first,more,cuts⟩ := cut_filled scan a
    obtain ⟨second,others,later⟩ := cut_filled start b
    rw [Whole,cut_comma back,cuts,later] at whole
    simpa using congrArg List.length whole
  · intro open_
    induction s generalizing scan with
    | nil => rfl
    | cons c s ih =>
      refine whole_cons.mpr ⟨?_,ih fun a b same => open_ (c :: a) b (congrArg (c :: ·) same)⟩
      by_contra comma
      simp only [Bool.not_eq_false,Bool.and_eq_true,decide_eq_true_eq] at comma
      obtain ⟨rfl,top⟩ := comma
      exact open_ [] s rfl (isTop_start top)

end Scan

theorem branches_comma (back : Scan.start.past a = .start) (b : Text) : branches (a ++ ',' :: b) = branches a ++ branches b := by
  rw [branches,Scan.cut_comma back,List.map_append,List.filter_append]
  rfl

theorem branches_whole (whole : Scan.start.Whole s) : branches s = if trim s = [] then [] else [trim s] := by
  rw [branches,show Scan.start.cut s = [s] from whole]
  split <;> simp [*]

theorem branch_not_list (inside : branch ∈ branches s) (selector : Text) (parts : List Text) :
    Strategy.ofSelector branch ≠ .anyOf selector parts := by
  intro same
  have list := Strategy.ofSelector_anyOf same
  simp [branches_branch inside] at list

theorem lists_split_exactly :
    (∀ s, ∀ branch ∈ branches s, branch ≠ [] ∧ (∀ c ∈ branch.head?, isBlank c = false) ∧
      (∀ c ∈ branch.getLast?, isBlank c = false) ∧ branches branch = [branch] ∧
      ∀ selector parts, Strategy.ofSelector branch ≠ .anyOf selector parts) ∧
    (∀ a b, Scan.start.past a = .start → branches (a ++ ',' :: b) = branches a ++ branches b) ∧
    ∀ s, (∀ a b, s = a ++ ',' :: b → Scan.start.past a ≠ .start) → branches s = if trim s = [] then [] else [trim s] := by
  refine ⟨fun s branch inside => ?_,fun a b back => branches_comma back b,fun s open_ => branches_whole (Scan.whole_iff.mpr open_)⟩
  obtain ⟨_,trimmed,filled⟩ := branch_whole inside
  refine ⟨filled,?_,?_,branches_branch inside,branch_not_list inside⟩
  · rw [← trimmed]
    exact trimBy_first isBlank branch
  · rw [← trimmed]
    exact trimBy_last isBlank branch

-- Brackets closed by those of another kind and once too often, an escaped comma, and nothing behind the last comma.
theorem lists_split_exactly_unbalanced :
    let a : Text := ":is(b, c] )"
    let b : Text := " .d\\, e , "
    Scan.start.past a = .start ∧ branches (a ++ ',' :: b) = branches a ++ branches b ∧
      (∀ u v, a = u ++ ',' :: v → Scan.start.past u ≠ .start) ∧ branches a = [":is(b, c] )"] ∧
      (".d\\, e" : Text) ∈ branches b ∧ branches ".d\\, e" = [".d\\, e"] := by
  intro a b
  obtain ⟨indivisible,comma,alone⟩ := lists_split_exactly
  have back : Scan.start.past a = .start := by decide +kernel
  have open_ := Scan.whole_iff.mp (show Scan.start.Whole a by unfold Scan.Whole; decide +kernel)
  have inside : (".d\\, e" : Text) ∈ branches b := by decide +kernel
  exact ⟨back,comma a b back,open_,(alone a open_).trans (by decide +kernel),inside,(indivisible b _ inside).2.2.2.1⟩

end StyleTrim.Css.Selector
