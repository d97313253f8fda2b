import StyleTrim.Proofs.Gathering
import StyleTrim.Proofs.SecondRun
namespace StyleTrim
open Text Css
variable {w : Whitelist} {o : Oracle} {page : Html.Page} {source : Source} {sheet : Sheet} {r : Rule} {st : Strategy}
  {selector s name text : Text} {more : List Lexeme} {n : Nat}

namespace Cleaning

-- Nothing speaks against a selector that cannot be read.
def Shows (page : Html.Page) (selector : Text) : Prop :=
  ∀ q, Query.read? selector = some q → ∃ f ∈ page.elements, q.finds f = true

def Carries (page : Html.Page) (selector : Text) : Prop :=
  ∀ literal, Selector.literal? selector = some literal → ∃ f ∈ page.elements, carries literal (Oracle.identityOf f) = true

-- What is looked for in place of a selector that stands alone.
def Traces (page : Html.Page) : Strategy → Prop
  | .plain s | .component s => Shows page s
  | .stateful base _ => Selector.queryable base = [] ∨ Shows page (Selector.queryable base)
  | .escaped s => Carries page s
  | .vendor _ | .anyOf .. | .animation _ => True

-- A list shows in any of the branches that it is cut into.
def Evidence (page : Html.Page) (selector : Text) : Prop :=
  match Strategy.ofSelector selector with
  | .anyOf _ branches => ∃ branch ∈ branches, Traces page (.ofSelector branch)
  | st => Traces page st

end Cleaning

namespace Css

def Query.isStar : Query → Bool
  | [.only [.any]] => true
  | _ => false

theorem Query.isStar_finds {q : Query} (star : q.isStar = true) (f : Html.Focus) : q.finds f = true := by
  unfold isStar at star
  split at star
  · simp [finds,anyEnds,Chain.ends,allHold,Test.holds]
  · cases star

-- No element is left out by a star.
theorem Query.read?_star : ∃ q, Query.read? "*" = some q ∧ ∀ f, q.finds f = true := by
  obtain ⟨l,lexed,token⟩ : ∃ l, lex "*" = [l] ∧ l.token = .delim '*' :=
    ⟨_,(lexFrom.eq_2 .start '*' []).trans (congrArg (List.cons _) (lexFrom.eq_1 _)),rfl⟩
  have ends : ∀ read, Query.simples ⟨true,true⟩ read [] = .ok ([],[]) := by
    intro read
    rw [Query.simples]
    simp [Query.simplePart]
  have read : Query.read? "*" = some [.only [.any]] := by
    rw [Query.read?,Component.ofText,lexed]
    simp only [Component.ofLexemes,Component.gather,token,Token.opens?,Component.closeAll]
    simp [Query.withoutComments,Component.isLeaf,token,Query.argument,Query.branches,Component.depths,Query.strictly,Query.chain,
      Query.chainFrom,Query.compound,Component.skipSpacing,Component.isSpacing,Query.typePart,Component.token,Query.isBar,ends,
      Except.map,Query.relation?,Query.mark?,Query.whole?]
    rfl
  exact ⟨_,read,Query.isStar_finds rfl⟩

theorem Query.branches_cons {c : Component} (other : c.isLeaf .comma = false) (cs : List Component) :
    ∃ branch more, Query.branches (c :: cs) = (c :: branch) :: more := by
  rw [Query.branches,other]
  cases Query.branches cs with
  | nil => exact ⟨[],[],rfl⟩
  | cons branch more => exact ⟨branch,more,rfl⟩

theorem Component.ofText_leaf {l : Lexeme} (lexed : lex s = l :: more) (plain : l.token.opens? = none) :
    ∃ rest, ofText s = .leaf l :: rest := by
  obtain ⟨fits,spread⟩ := gather_fits [] [] (lex s) trivial trivial
  change AllFit none (ofText s) at fits
  change spreads (ofText s) = lex s at spread
  cases whole : ofText s with
  | nil => rw [whole,lexed] at spread; cases spread
  | cons c rest =>
    rw [whole,lexed,spreads] at spread
    cases c with
    | leaf l' => exact ⟨rest,by rw [(List.cons.inj spread).1]⟩
    | block b opening inside closing =>
      have first : opening = l := (List.cons.inj spread).1
      have opens : opening.token.opens? = some b := by
        have head : Fits none (.block b opening inside closing) := by
          rw [whole,AllFit] at fits
          split at fits
          · exact fits
          · exact fits.1.fits
        cases closing with
        | none => exact head.1
        | some closing => exact head.1
      rw [first,plain] at opens
      cases opens

theorem Query.read?_keyword {l : Lexeme} (lexed : lex s = l :: more) (keyword : l.token = .atKeyword name) :
    Query.read? s = none := by
  obtain ⟨rest,whole⟩ := Component.ofText_leaf lexed (by rw [keyword]; rfl)
  have shown : Query.withoutComments (Component.ofText s) = .leaf l :: Query.withoutComments rest := by
    rw [whole,Query.withoutComments,List.filter_cons_of_pos (by simp [Component.isLeaf,keyword])]
    rfl
  obtain ⟨branch,others,parted⟩ := Query.branches_cons (c := .leaf l) (by simp [Component.isLeaf,keyword])
    (Query.withoutComments rest)
  have ink : Component.skipSpacing (.leaf l :: branch) = .leaf l :: branch :=
    List.dropWhile_cons_of_neg (by simp [Component.isSpacing,keyword])
  have unread : ∀ limits read, Query.compound limits read (.leaf l :: branch) = .error (.leaf l :: branch) := by
    intro limits read
    have none : Query.typePart (.leaf l :: branch) = .missing := by simp [Query.typePart,Component.token,keyword]
    have alone : Query.simplePart limits read (.leaf l :: branch) = .missing := by
      simp [Query.simplePart,Component.token,keyword]
    have stays : Query.simples limits read (.leaf l :: branch) = .ok ([],.leaf l :: branch) := by
      rw [Query.simples]
      split
      · rfl
      · rename_i wrong; rw [alone] at wrong; cases wrong
      · rename_i wrong; rw [alone] at wrong; cases wrong
    simp only [Query.compound,ink,none,stays]
  simp only [Query.read?,shown,Query.argument,parted,Query.strictly,Query.chain,Query.chainFrom,unread,Query.whole?,
    List.mapM_cons,Except.toOption]
  rfl

-- Nothing can be read that begins with an at-keyword.
theorem Query.read?_at (text : Text) (begins : Scan.startsName text = true) : Query.read? ('@' :: text) = none := by
  have token : Scan.token '@' text = (.atKeyword (Scan.name text).1,(Scan.name text).2) := by
    change (if Scan.startsName text then _ else _) = _
    rw [if_pos begins]
  have lexed := lexFrom.eq_2 .start '@' text
  rw [token] at lexed
  exact Query.read?_keyword lexed rfl

end Css

namespace Cleaning

theorem used_unmistaken (used : (Oracle.ofPage source page).count selector = some n) : sheet.Unmasked selector := by
  apply Sheet.unmasked_of_own
  rintro ⟨rest,whole⟩
  have read : Query.read? selector = none := by
    rw [← whole]
    exact Query.read?_at (("keyframes " : Text) ++ rest) rfl
  change (Query.read? selector).map _ = _ at used
  rw [read] at used
  cases used

theorem found_iff : (Oracle.ofPage source page).isFound selector = true ↔ Shows page selector := by
  unfold Oracle.isFound Oracle.countOrUsed Shows
  cases read : Query.read? selector with
  | none => simp [Oracle.ofPage,read]
  | some q => simp [Oracle.ofPage,read,Query.on,List.length_pos_iff_exists_mem]

theorem literal_iff : (Oracle.ofPage source page).isLiteralFound selector = true ↔ Carries page selector := by
  obtain ⟨q,read,all⟩ := Query.read?_star
  have everyone : (Oracle.ofPage source page).elements "*" = some (page.elements.map Oracle.identityOf) := by
    change (Query.read? "*").map _ = _
    rw [read]
    rw [Option.map_some,Query.on,List.filter_eq_self.mpr fun f _ => all f]
  unfold Oracle.isLiteralFound Carries
  rw [everyone]
  cases Selector.literal? selector with
  | none => simp
  | some literal => simp

theorem alone_iff (st : Strategy) : (Oracle.ofPage source page).usesAlone st = true ↔ Traces page st := by
  cases st with
  | plain s | component s => exact found_iff
  | stateful base modifier =>
    simp only [Oracle.usesAlone,Oracle.isBaseFound,Traces,Bool.or_eq_true,List.isEmpty_iff,found_iff]
  | escaped s => exact literal_iff
  | vendor | anyOf | animation => exact ⟨fun _ => trivial,fun _ => rfl⟩

theorem evidence_iff : (Oracle.ofPage source page).uses (.ofSelector selector) = true ↔ Evidence page selector := by
  unfold Evidence Oracle.uses
  cases Strategy.ofSelector selector with
  | anyOf s branches => simp only [List.any_eq_true,alone_iff]
  | _ => exact alone_iff _

theorem animations_rules {c : Cleaning} {strategies : List Strategy} (grouped : c.sheet.Grouped) :
    (animations w strategies c).sheet.rules = c.sheet.rules := by
  rw [animations_sheet grouped,Sheet.rules_without (SparesRules.any (forgets_spares w c.sheet) strategies) grouped]

-- Whether a rule stays depends on the entry of its selector only, whatever the others are called.
theorem byDocument_entry (grouped : sheet.Grouped) (inside : r ∈ sheet.rules) (among : st ∈ sheet.classify)
    (same : st.text = r.selector) :
    r ∈ (byDocument w sheet.classify false o sheet).sheet.rules ↔ (!r.isEmpty && keeps w o o false st) = true := by
  have single := singles_sheet (w := w) (o := o) (components w sheet.classify o (of sheet).emptyRules) sheet.classify
  dsimp only at single
  unfold byDocument documentPasses selectors groups
  dsimp only
  rw [if_neg Bool.false_ne_true,Sheet.rules_pruned,animations_rules,single,components_any,Sheet.withoutRules_twice,
    Sheet.rules_withoutRules,List.mem_filter]
  · have late := keeps_late (w := w) o o st
    simp only [Sheet.classified_any among same,inside,true_and,Bool.or_assoc,Bool.not_or]
    rw [← Bool.not_or,← late,Bool.not_not]
  · rw [single,components_any]
    exact Sheet.grouped_without _ (Sheet.grouped_without _ grouped)

theorem byDocument_rule (grouped : sheet.Grouped) (inside : r ∈ sheet.rules) (own : sheet.Unmasked r.selector) :
    r ∈ (byDocument w sheet.classify false o sheet).sheet.rules ↔ keepsRule w o o false r = true :=
  byDocument_entry grouped inside (Sheet.classified_rule grouped own inside) (Strategy.text_ofSelector r.selector)

-- A rule whose selector reads like an animation that is recorded is not decided on.
theorem byDocument_masked (grouped : sheet.Grouped) (inside : r ∈ sheet.rules) (masked : ¬ sheet.Unmasked r.selector) :
    r ∈ (byDocument w sheet.classify false o sheet).sheet.rules ↔ r.isEmpty = false := by
  simp only [Sheet.Unmasked,not_forall,not_not] at masked
  obtain ⟨a,among,same⟩ := masked
  simp [byDocument_entry grouped inside among same,keeps,Strategy.category,Oracle.uses,Oracle.usesAlone]

-- A rule that is used stays exactly if it is protected or what is looked for in its place is there.
theorem used_rule_stays_iff (page : Html.Page) (css : Text) (w : Whitelist) (r : Rule) (inside : r ∈ (sheetOf css).rules)
    (filled : r.entries ≠ []) (used : ∃ n, (Oracle.ofPage .document page).count r.selector = some (n + 1)) :
    r ∈ (byDocument w (sheetOf css).classify false (Oracle.ofPage .document page) (sheetOf css)).sheet.rules ↔
      w.protectsStrategy (.ofSelector r.selector) = true ∨ Evidence page r.selector := by
  obtain ⟨n,used⟩ := used
  rw [byDocument_rule (sheetOf_grouped css) inside (used_unmistaken used)]
  have some : r.isEmpty = false := by cases found : r.entries with
    | nil => exact absurd found filled
    | cons => rw [Rule.isEmpty,found]; rfl
  rw [keepsRule,some,Bool.not_false,Bool.true_and,keeps,Bool.false_or,ite_self,Bool.or_eq_true,evidence_iff]

-- The apostrophe in the comment hides the comma: all that is looked for is the name in front.
theorem used_rule_cut_off :
    let page : Html.Page := ⟨Html.Focus.allIn (.top true) [] [.element 1 ⟨.html,"p"⟩ [⟨.plain,"class","b"⟩] [] []]⟩
    let css : Text := ".md\\:flex /* it's */, .b\x7bcolor:red\x7d"
    let r : Rule := ⟨".md\\:flex /* it's */, .b",[.declaration ⟨"color","red",false⟩]⟩
    (Oracle.ofPage .document page).count r.selector = some 1 ∧
      (r ∈ (byDocument .empty (sheetOf css).classify false (Oracle.ofPage .document page) (sheetOf css)).sheet.rules ↔
        Whitelist.empty.protectsStrategy (.ofSelector r.selector) = true ∨ Evidence page r.selector) ∧
      r ∉ (byDocument .empty (sheetOf css).classify false (Oracle.ofPage .document page) (sheetOf css)).sheet.rules := by
  intro page css
  have written : css = _ := chars_of_literal rfl
  clear_value css
  intro r
  have inside : r ∈ (sheetOf css).rules := by subst written; decide +kernel
  have used : (Oracle.ofPage .document page).count r.selector = some 1 := by decide +kernel
  exact ⟨used,used_rule_stays_iff page css .empty r inside (by decide) ⟨0,used⟩,by subst written; decide +kernel⟩

end Cleaning
end StyleTrim
