import StyleTrim.Proofs.Legibility
import StyleTrim.Proofs.Levels
namespace StyleTrim
open Text
variable {i : Input} {luck : Luck} {page : Dom} {s : Scene} {left : Scene × Document} {w : Workshop} {raw : Text} {first : NodeId}
  {extra : List NodeId}

-- What a reader finds in the output of a document that no browser was needed for.

namespace Document

-- The style sheet that is left of a page when nothing but its drawing is asked.
def keptSheet (w : Workshop) (page : Dom) : Css.Sheet :=
  let p := Prepared.of w.level page
  (Cleaning.byDocument w.whitelist p.sheet.classify p.learned.followsData p.oracle p.sheet).sheet

-- The page as it came in, with that style sheet.
def reissue (w : Workshop) (raw : Text) (page : Dom) : Dom := ((Dom.read raw).replaceStyles (Css.Sheet.text (keptSheet w page))).1

-- However a page is opened, its document keeps the tier that was chosen for it.
theorem arrive_tier (w : Workshop) (s : Scene) (v : Visit) (i : Input) :
    ((of i).follow (arrive w s v).2).tier = some v.prepared.learned.tier := by
  unfold arrive
  dsimp only
  split <;> rfl

-- A text that no browser is needed for comes to its end, and is written as that page.
theorem output_reissue (text : i.text = .ok raw) (drawn : Amp.drawPageTo w.room (Dom.read raw) = some page)
    (ran : (of i).advance w luck s = some left) (tier : left.2.tier = some .document) :
    left.2.status = .complete ∧ left.2.output = some (reissue w raw page).markup := by
  rw [advance_first] at ran
  cases level : (Prepared.of w.level page).learned.tier with
  | document =>
    rw [stages_plain text drawn level] at ran
    cases ran
    exact ⟨rfl,rfl⟩
  | browser =>
    have other : left.2.tier = some .browser := by
      rw [stages_needed text drawn level] at ran
      cases ran
      dsimp only
      split
      · exact congrArg some level
      · exact (arrive_tier ..).trans (congrArg some level)
    cases other.symm.trans tier

theorem reissue_proper (w : Workshop) (raw : Text) (page : Dom) : (reissue w raw page).Proper := by
  rw [reissue]
  cases listed : (Dom.read raw).customStyles with
  | nil =>
    rw [Dom.replaceStyles,listed]
    exact Dom.read_proper raw
  | cons first extra =>
    obtain ⟨text,r⟩ := Dom.replaceStyles_replacing (Dom.read_forest raw) (Dom.read_free raw) (Dom.read_root raw) listed
      (Css.Sheet.text (keptSheet w page))
    exact r.proper (Dom.read_proper raw)

-- The tree of the output is that of the page.
theorem output_keeps_page (text : i.text = .ok raw) (drawn : Amp.drawPageTo w.room (Dom.read raw) = some page)
    (ran : (of i).advance w luck s = some left) (tier : left.2.tier = some .document)
    (legible : Figure.Legible (Figure.seen (reissue w raw page).figures)) : left.2.status = .complete ∧
      ∃ html, left.2.output = some html ∧ (Dom.read html).figures = Figure.seen (reissue w raw page).figures := by
  obtain ⟨complete,written⟩ := output_reissue text drawn ran tier
  exact ⟨complete,_,written,(Dom.markup_read legible).1⟩

-- A page with a selector that nothing matches, and a drawing.
def posterPage : Text := "<style>.a{top:0}.b{}</style><p class=a>1<svg><path/></svg>"

def poster : Input := .ofMemory "poster.html" (encode posterPage)

-- What is written of it.
def posterLayout : Html.Layout where
  before := []
  doctype := none
  behind := []
  attributes := []
  preface := []
  headAttributes := []
  head := [.element "style" [] [.text ".a{top:0}"]]
  between := []
  bodyAttributes := []
  body := [.element "p" [⟨"class","a"⟩] [.text "1",.element "svg" [] [.element "path" [] []]]]
  postscript := []
  after := []

theorem poster_text : poster.text = .ok posterPage := by
  have filled : (trim posterPage).isEmpty = false := by
    rw [show posterPage = _ from chars_of_literal rfl]
    rfl
  have decoded : decode poster.contents = .ok posterPage := decode_iff.mpr rfl
  rw [Input.text,decoded]
  simp only [filled,Bool.false_eq_true,if_false]

-- Its drawing is the page itself: there are no components on it.
theorem poster_drawn : Amp.drawPageTo 1 (Dom.read posterPage) = some (Dom.read posterPage) := by
  rw [show posterPage = _ from chars_of_literal rfl]
  decide +kernel

-- The document as its stages leave it.
def posterEnd : Document :=
  (of poster).follow (plainCourse (unlaunched .document "/tmp") posterPage (.of .document (Dom.read posterPage)))

theorem poster_ran : (of poster).advance (unlaunched .document "/tmp") written atRest = some (atRest,posterEnd) := by
  have plain := (Prepared.plain (Dom.read posterPage) .document).1
  rw [advance_first,stages_plain (w := unlaunched .document "/tmp") poster_text poster_drawn plain]
  rfl

theorem poster_tier : posterEnd.tier = some .document := congrArg some (Prepared.plain (Dom.read posterPage) .document).1

-- What is asked is asked of the page in the order of its elements.
theorem poster_sheet : Css.Sheet.text (keptSheet (unlaunched .document "/tmp") (Dom.read posterPage)) = ".a{top:0}" := by
  have literal : posterPage = _ := chars_of_literal rfl
  have sorted : (Html.Focus.allIn (.top true) [] (Html.build .page (Dom.read posterPage).markup).trees ++
      (Html.build .page (Dom.read posterPage).markup).loose.flatMap Html.Page.ofLoose).Pairwise fun f g => f.serial ≤ g.serial := by
    rw [literal]
    decide +kernel
  have asked : (Prepared.of .document (Dom.read posterPage)).oracle = Oracle.ofPage .document
      ⟨Html.Focus.allIn (.top true) [] (Html.build .page (Dom.read posterPage).markup).trees ++
        (Html.build .page (Dom.read posterPage).markup).loose.flatMap Html.Page.ofLoose⟩ := by
    refine congrArg (fun elements => Oracle.ofPage .document ⟨elements⟩) ?_
    exact List.mergeSort_of_pairwise (sorted.imp decide_eq_true)
  rw [keptSheet,show (unlaunched .document "/tmp").level = .document from rfl,asked,literal]
  decide +kernel

def posterReissue : Dom := reissue (unlaunched .document "/tmp") posterPage (Dom.read posterPage)

theorem poster_figures : Figure.seen posterReissue.figures = posterLayout.figures := by
  rw [posterReissue,reissue,poster_sheet,show posterPage = _ from chars_of_literal rfl]
  decide +kernel

theorem poster_legible : Figure.Legible (Figure.seen posterReissue.figures) :=
  ⟨posterLayout,by decide +kernel,poster_figures.symm⟩

theorem output_keeps_page_poster : poster.text = .ok posterPage ∧ Amp.drawPageTo 1 (Dom.read posterPage) = some (Dom.read posterPage) ∧
    (of poster).advance (unlaunched .document "/tmp") written atRest = some (atRest,posterEnd) ∧ posterEnd.tier = some .document ∧
    Figure.Legible (Figure.seen posterReissue.figures) ∧
    ∃ html, posterEnd.output = some html ∧ (Dom.read html).figures = posterLayout.figures := by
  obtain ⟨_,html,output,same⟩ := output_keeps_page (w := unlaunched .document "/tmp") poster_text poster_drawn poster_ran poster_tier poster_legible
  exact ⟨poster_text,poster_drawn,poster_ran,poster_tier,poster_legible,html,output,same.trans poster_figures⟩

-- The style sheet of the output is the one that was left, in a single element.
theorem output_keeps_sheet (text : i.text = .ok raw) (drawn : Amp.drawPageTo w.room (Dom.read raw) = some page)
    (styled : (Dom.read raw).customStyles = first :: extra) (ran : (of i).advance w luck s = some left)
    (tier : left.2.tier = some .document) (legible : Figure.Legible (Figure.seen (reissue w raw page).figures)) :
    left.2.status = .complete ∧ ∃ html, left.2.output = some html ∧ (Dom.read html).customStyles.length = 1 ∧
      (Dom.read html).customStyleText =
        if ((Dom.read raw).children first).head?.any (· ∈ extra) then [] else Css.Sheet.text (keptSheet w page) := by
  obtain ⟨complete,output⟩ := output_reissue text drawn ran tier
  have same := Dom.markup_styles (reissue_proper w raw page) legible
  obtain ⟨_,restyled⟩ := Dom.replaceStyles_restyled (Dom.read_forest raw) (Dom.read_free raw) (Dom.read_root raw) styled
    (Css.Sheet.text (keptSheet w page))
  refine ⟨complete,_,output,?_,?_⟩
  · have count := congrArg List.length same
    rw [List.length_map,List.length_map,show (reissue w raw page).customStyles = [first] from restyled.styles] at count
    exact count
  · rw [Dom.customStyleText,same]
    exact restyled.text

theorem output_keeps_sheet_poster : poster.text = .ok posterPage ∧ Amp.drawPageTo 1 (Dom.read posterPage) = some (Dom.read posterPage) ∧
    (Dom.read posterPage).customStyles = [⟨3,0⟩] ∧
    (of poster).advance (unlaunched .document "/tmp") written atRest = some (atRest,posterEnd) ∧ posterEnd.tier = some .document ∧
    Figure.Legible (Figure.seen posterReissue.figures) ∧
    ∃ html, posterEnd.output = some html ∧ (Dom.read html).customStyles.length = 1 ∧ (Dom.read html).customStyleText = ".a{top:0}" := by
  have styled : (Dom.read posterPage).customStyles = [⟨3,0⟩] := by
    rw [show posterPage = _ from chars_of_literal rfl]
    decide +kernel
  obtain ⟨_,html,output,single,sheet⟩ := output_keeps_sheet (w := unlaunched .document "/tmp") poster_text poster_drawn styled poster_ran poster_tier poster_legible
  rw [poster_sheet] at sheet
  exact ⟨poster_text,poster_drawn,styled,poster_ran,poster_tier,poster_legible,html,output,single,sheet.trans (by simp)⟩

end Document
end StyleTrim
