import StyleTrim.Cleaning
import StyleTrim.Proofs.Classification
namespace StyleTrim
open Text Css
variable {o : Oracle} {w : Whitelist} {c : Cleaning} {st : Strategy}

namespace Oracle

def isFound (o : Oracle) (selector : Text) : Bool := 0 < o.countOrUsed selector

def isBaseFound (o : Oracle) (base : Text) : Bool :=
  (Selector.queryable base).isEmpty || o.isFound (Selector.queryable base)

-- Without a literal, or while nobody knows the elements, there is nothing to miss.
def isLiteralFound (o : Oracle) (selector : Text) : Bool :=
  match Selector.literal? selector, o.elements "*" with
  | some literal, some elements => elements.any (Cleaning.carries literal)
  | _, _ => true

def usesAlone (o : Oracle) : Strategy → Bool
  | .plain s | .component s => o.isFound s
  | .stateful base _ => o.isBaseFound base
  | .escaped s => o.isLiteralFound s
  | .vendor _ | .anyOf .. | .animation _ => true

def uses (o : Oracle) : Strategy → Bool
  | .anyOf _ branches => branches.any fun branch => o.usesAlone (.ofSelector branch)
  | st => o.usesAlone st

end Oracle

def Whitelist.protectsStrategy (w : Whitelist) : Strategy → Bool
  | .anyOf s branches => w.protectsList s branches
  | .animation name => w.protectsAnimation name
  | st => w.protects st.text

namespace Cleaning

-- What is remembered about all elements is what the oracle says of them.
def Informed (o : Oracle) (c : Cleaning) : Prop := ∀ answer, c.crowd = some answer → answer = o.elements "*"

-- An answer, with nothing changed but the record of questions.
structure Answers (o : Oracle) (used : Bool) (c : Cleaning) (v : Verdict) : Prop where
  verdict : v.1 = used
  sheet : v.2.sheet = c.sheet
  removals : v.2.removals = c.removals
  informed : Informed o v.2

theorem matched_answers (informed : Informed o c) : Answers o (o.isFound s) c (isMatched o s c) :=
  ⟨rfl,rfl,rfl,informed⟩

theorem base_answers (informed : Informed o c) : Answers o (o.isBaseFound base) c (isBaseUsed o base c) := by
  unfold isBaseUsed Oracle.isBaseFound
  dsimp only
  split
  · rename_i nothing
    exact ⟨by simp [nothing],rfl,rfl,informed⟩
  · rename_i something
    exact ⟨by simp [something,isMatched,Oracle.isFound],rfl,rfl,informed⟩

theorem literal_answers (informed : Informed o c) : Answers o (o.isLiteralFound s) c (isLiteralUsed o s c) := by
  unfold isLiteralUsed Oracle.isLiteralFound everyone
  cases found : Selector.literal? s with
  | none => exact ⟨rfl,rfl,rfl,informed⟩
  | some literal =>
    cases crowd : c.crowd with
    | some answer =>
      cases informed answer crowd
      cases known : o.elements "*" with
      | none => exact ⟨rfl,rfl,rfl,informed⟩
      | some elements => exact ⟨rfl,rfl,rfl,informed⟩
    | none =>
      cases known : o.elements "*" with
      | none => exact ⟨rfl,rfl,rfl,fun answer same => known ▸ (Option.some.inj same).symm⟩
      | some elements => exact ⟨rfl,rfl,rfl,fun answer same => known ▸ (Option.some.inj same).symm⟩

theorem branch_answers (informed : Informed o c) :
    Answers o (o.usesAlone (.ofSelector branch)) c (isBranchUsed o branch c) := by
  unfold isBranchUsed
  cases Strategy.ofSelector branch with
  | plain | component => exact matched_answers informed
  | stateful => exact base_answers informed
  | escaped => exact literal_answers informed
  | vendor | anyOf | animation => exact ⟨rfl,rfl,rfl,informed⟩

theorem any_answers (informed : Informed o c) :
    Answers o (branches.any fun branch => o.usesAlone (.ofSelector branch)) c (isAnyUsed o branches c) := by
  induction branches generalizing c with
  | nil => exact ⟨rfl,rfl,rfl,informed⟩
  | cons branch more ih =>
    have first : Answers o (o.usesAlone (.ofSelector branch)) c (isBranchUsed o branch c) := branch_answers informed
    rw [isAnyUsed]
    split
    · rename_i after same
      rw [same] at first
      exact ⟨by simp [← first.verdict],first.sheet,first.removals,first.informed⟩
    · rename_i after same
      rw [same] at first
      have rest := ih first.informed
      exact ⟨by simp [rest.verdict,← first.verdict],rest.sheet.trans first.sheet,rest.removals.trans first.removals,
        rest.informed⟩

def goes (w : Whitelist) (o : Oracle) (category : Category) (st : Strategy) : Bool :=
  st.category == category && !w.protectsStrategy st && !o.uses st

-- Rules of the selector go or stay, all of them, and a removal is recorded if there were any.
structure Decides (o : Oracle) (gone : Bool) (st : Strategy) (c next : Cleaning) : Prop where
  sheet : next.sheet = if gone then c.sheet.withoutSelector st.text else c.sheet
  removals : next.removals =
    if gone && 0 < c.sheet.countSelector st.text then c.removals.add st.category st.text else c.removals
  informed : Informed o next

theorem Decides.stays (informed : Informed o c) : Decides o false st c c := ⟨rfl,rfl,informed⟩

theorem withoutSelector_absent {sheet : Sheet} (absent : sheet.countSelector s = 0) : sheet.withoutSelector s = sheet := by
  have none : ∀ r ∈ sheet.rules, (r.selector == s) = false := by
    have empty := List.length_eq_zero_iff.mp absent
    rw [Sheet.removedRules_eq,List.filter_eq_nil_iff] at empty
    simpa using empty
  exact Sheet.withoutRules_rests none

theorem removeUnless_decides (answers : Answers o used c v) :
    Decides o (!used) st c (removeUnless st.category st.text v) := by
  obtain ⟨verdict,after⟩ := v
  obtain ⟨rfl,sheet,removals,informed⟩ := answers
  cases verdict with
  | true => exact ⟨sheet,removals,informed⟩
  | false =>
    dsimp only at sheet removals
    rw [removeUnless,remove,sheet]
    split
    · rename_i present
      exact ⟨rfl,by simp [record,present,removals],informed⟩
    · rename_i absent
      exact ⟨by simp [sheet,withoutSelector_absent (Nat.eq_zero_of_not_pos absent)],by simp [removals,absent],informed⟩

theorem guarded_decides (st : Strategy) (safe : Bool) (informed : Informed o c) (answers : Answers o used c v) :
    Decides o (!safe && !used) st c (if safe then c else removeUnless st.category st.text v) := by
  cases safe with
  | true => exact .stays informed
  | false => exact removeUnless_decides answers

theorem forComponent_decides (informed : Informed o c) :
    Decides o (goes w o .component st) st c (forComponent w o c st) := by
  cases st with
  | component tag => exact guarded_decides (.component tag) (w.protects tag) informed (matched_answers informed)
  | _ => exact .stays informed

theorem forList_decides (informed : Informed o c) : Decides o (goes w o .anyOf st) st c (forList w o c st) := by
  cases st with
  | anyOf s branches =>
    exact guarded_decides (.anyOf s branches) (w.protectsList s branches) informed (any_answers informed)
  | _ => exact .stays informed

theorem forPlain_decides (informed : Informed o c) : Decides o (goes w o .plain st) st c (forPlain w o c st) := by
  cases st with
  | plain s => exact guarded_decides (.plain s) (w.protects s) informed (matched_answers informed)
  | _ => exact .stays informed

theorem forStateful_decides (informed : Informed o c) :
    Decides o (goes w o .stateful st) st c (forStateful w o c st) := by
  cases st with
  | stateful base modifier =>
    exact guarded_decides (.stateful base modifier) (w.protects (base ++ modifier)) informed (base_answers informed)
  | _ => exact .stays informed

theorem forEscaped_decides (informed : Informed o c) :
    Decides o (goes w o .escaped st) st c (forEscaped w o c st) := by
  cases st with
  | escaped s => exact guarded_decides (.escaped s) (w.protects s) informed (literal_answers informed)
  | _ => exact .stays informed

end Cleaning
end StyleTrim
