import StyleTrim.Proofs.Boundaries
namespace StyleTrim.Css
open Text Component
variable {b : Bracket} {top : Option Bracket} {c : Component} {l : Lexeme} {cs ds inner : List Component} {outer : List Open}
  {ls more : List Lexeme}

-- Brackets pair up: components and the lexemes they are made of determine each other.

namespace Component

mutual
-- The lexemes of a component, in order.
def spread : Component → List Lexeme
  | .leaf l => [l]
  | .block _ opening inside closing => opening :: (spreads inside ++ closing.toList)
def spreads : List Component → List Lexeme
  | [] => []
  | c :: more => spread c ++ spreads more
end

mutual
-- A component as it comes about inside the bracket `top`, or outside of all, with nothing left open.
def Closed (top : Option Bracket) : Component → Prop
  | .leaf l => l.token.opens? = none ∧ (top = none ∨ l.token.closes? ≠ top)
  | .block b opening inside (some closing) =>
    opening.token.opens? = some b ∧ AllClosed (some b) inside ∧ closing.token.closes? = some b
  | .block _ _ _ none => False
def AllClosed (top : Option Bracket) : List Component → Prop
  | [] => True
  | c :: more => Closed top c ∧ AllClosed top more
end

mutual
-- The same with blocks at the very end that may still be open.
def Fits (top : Option Bracket) : Component → Prop
  | .block b opening inside none => opening.token.opens? = some b ∧ AllFit (some b) inside
  | c => Closed top c
def AllFit (top : Option Bracket) : List Component → Prop
  | [] => True
  | c :: more => if more = [] then Fits top c else Closed top c ∧ AllFit top more
end

theorem spreads_append (cs ds : List Component) : spreads (cs ++ ds) = spreads cs ++ spreads ds := by
  induction cs with
  | nil => rw [List.nil_append,spreads,List.nil_append]
  | cons c more ih => rw [List.cons_append,spreads,spreads,ih,List.append_assoc]

theorem allClosed_append : AllClosed top (cs ++ ds) ↔ AllClosed top cs ∧ AllClosed top ds := by
  induction cs with
  | nil => simp [AllClosed]
  | cons c more ih => simp [AllClosed,ih,and_assoc]

theorem allClosed_reverse : AllClosed top cs.reverse ↔ AllClosed top cs := by
  induction cs with
  | nil => simp
  | cons c more ih => rw [List.reverse_cons,allClosed_append,ih]; simp [AllClosed,and_comm]

theorem closes_opens {t : Token} (closes : t.closes? = some b) : t.opens? = none := by
  cases t <;> first | rfl | cases closes

mutual
theorem spread_texts : ∀ c : Component, ((spread c).map (·.text)).flatten = c.text
  | .leaf l => by simp [spread,text]
  | .block _ opening inside closing => by
    rw [spread,List.map_cons,List.flatten_cons,List.map_append,List.flatten_append,spreads_texts inside,Component.text.eq_def]
    cases closing <;> simp
theorem spreads_texts : ∀ cs : List Component, ((spreads cs).map (·.text)).flatten = texts cs
  | [] => by simp [spreads,texts]
  | c :: more => by rw [spreads,List.map_append,List.flatten_append,spread_texts c,spreads_texts more,texts]
end

theorem texts_append (cs ds : List Component) : texts (cs ++ ds) = texts cs ++ texts ds := by
  rw [← spreads_texts,← spreads_texts,← spreads_texts,spreads_append,List.map_append,List.flatten_append]

-- The innermost open bracket.
def topOf (outer : List Open) : Option Bracket := outer.head?.map (·.bracket)

mutual
theorem gather_spread : ∀ (c : Component) (inner : List Component) (outer : List Open) (more : List Lexeme),
    Closed (topOf outer) c → gather inner outer (spread c ++ more) = gather (c :: inner) outer more
  | .leaf l, inner, outer, more, closed => by
    rw [Closed] at closed
    rw [spread]
    refine gather_leaf closed.1 fun o rest same fits => ?_
    subst same
    rcases closed.2 with outside | other
    · cases outside
    · exact other fits
  | .block b opening inside (some closing), inner, outer, more, closed => by
    rw [Closed] at closed
    obtain ⟨opens,within,closes⟩ := closed
    rw [spread,List.cons_append,gather_opening opens,List.append_assoc,
      gather_spreads inside [] (⟨b,opening,inner⟩ :: outer) _ within,List.append_nil]
    refine (gather_closing (closes_opens closes) closes).trans ?_
    rw [List.reverse_reverse]
    rfl
  | .block _ _ _ none, _, _, _, closed => by rw [Closed] at closed; cases closed
theorem gather_spreads : ∀ (cs : List Component) (inner : List Component) (outer : List Open) (more : List Lexeme),
    AllClosed (topOf outer) cs → gather inner outer (spreads cs ++ more) = gather (cs.reverse ++ inner) outer more
  | [], _, _, _, _ => by rw [spreads]; rfl
  | c :: cs, inner, outer, more, closed => by
    rw [AllClosed] at closed
    rw [spreads,List.append_assoc,gather_spread c inner outer _ closed.1,gather_spreads cs _ _ _ closed.2,
      List.reverse_cons,List.append_assoc]
    rfl
end

-- What is held of the open blocks while lexemes are gathered.
def Frames : List Open → Prop
  | [] => True
  | o :: outer => o.opening.token.opens? = some o.bracket ∧ AllClosed (topOf outer) o.before ∧ Frames outer

-- The lexemes that are held.
def held : List Component → List Open → List Lexeme
  | inner, [] => spreads inner.reverse
  | inner, o :: outer => held o.before outer ++ o.opening :: spreads inner.reverse

theorem allFit_last (closed : AllClosed top cs) (fits : Fits top c) : AllFit top (cs ++ [c]) := by
  induction cs with
  | nil => rw [List.nil_append,AllFit,if_pos rfl]; exact fits
  | cons d more ih =>
    rw [AllClosed] at closed
    rw [List.cons_append,AllFit,if_neg (by simp)]
    exact ⟨closed.1,ih closed.2⟩

theorem Closed.fits (closed : Closed top c) : Fits top c := by
  cases c with
  | leaf => rw [Fits]; exact closed; exact fun _ _ _ => Component.noConfusion
  | block b opening inside closing =>
    cases closing with
    | none => rw [Closed] at closed; cases closed
    | some => rw [Fits]; exact closed; exact fun _ _ _ same => by cases same

theorem AllClosed.fit (closed : AllClosed top cs) : AllFit top cs := by
  induction cs with
  | nil => trivial
  | cons c more ih =>
    rw [AllClosed] at closed
    rw [AllFit]
    split
    · exact closed.1.fits
    · exact ⟨closed.1,ih closed.2⟩

-- Only the end of a list may be open.
theorem allFit_append (fits : AllFit top (cs ++ ds)) : (ds ≠ [] → AllClosed top cs) ∧ AllFit top ds := by
  induction cs with
  | nil => exact ⟨fun _ => trivial,fits⟩
  | cons c more ih =>
    rw [List.cons_append,AllFit] at fits
    split at fits
    · rename_i none
      obtain ⟨rfl,rfl⟩ := List.append_eq_nil_iff.mp none
      exact ⟨fun some => absurd rfl some,trivial⟩
    · exact ⟨fun some => ⟨fits.1,(ih fits.2).1 some⟩,(ih fits.2).2⟩

theorem closeAll_fits (inner : List Component) (outer : List Open) (frames : Frames outer)
    (fits : AllFit (topOf outer) inner.reverse) :
    AllFit none (closeAll inner outer) ∧ spreads (closeAll inner outer) = held inner outer := by
  induction outer generalizing inner with
  | nil => exact ⟨fits,rfl⟩
  | cons o outer ih =>
    obtain ⟨opens,before,frames⟩ := frames
    have block : Fits (topOf outer) (.block o.bracket o.opening inner.reverse none) := by
      rw [Fits]
      exact ⟨opens,fits⟩
    obtain ⟨whole,same⟩ := ih (.block o.bracket o.opening inner.reverse none :: o.before) frames (by
      rw [List.reverse_cons]
      exact allFit_last (allClosed_reverse.mpr before) block)
    rw [closeAll]
    refine ⟨whole,same.trans ?_⟩
    have last : spreads [.block o.bracket o.opening inner.reverse none] = o.opening :: spreads inner.reverse := by
      simp [spreads,spread]
    cases outer with
    | nil => rw [held,held,held,List.reverse_cons,spreads_append,last]
    | cons p outer => rw [held,held,held,List.reverse_cons,spreads_append,last,List.append_assoc]; rfl

theorem gather_fits (inner : List Component) (outer : List Open) (ls : List Lexeme) (frames : Frames outer)
    (closed : AllClosed (topOf outer) inner) :
    AllFit none (gather inner outer ls) ∧ spreads (gather inner outer ls) = held inner outer ++ ls := by
  induction ls generalizing inner outer with
  | nil =>
    rw [gather,List.append_nil]
    exact closeAll_fits _ _ frames (allClosed_reverse.mpr closed).fit
  | cons l more ih =>
    have push : ∀ (c : Component) (inner : List Component) (outer : List Open),
        held (c :: inner) outer = held inner outer ++ spread c := by
      intro c inner outer
      have last : spreads [c] = spread c := by simp [spreads]
      cases outer with
      | nil => rw [held,held,List.reverse_cons,spreads_append,last]
      | cons o outer => rw [held,held,List.reverse_cons,spreads_append,last,List.append_assoc]; rfl
    cases opens : l.token.opens? with
    | some b =>
      rw [gather_opening opens]
      obtain ⟨fits,same⟩ := ih [] (⟨b,l,inner⟩ :: outer) ⟨opens,closed,frames⟩ trivial
      refine ⟨fits,same.trans ?_⟩
      rw [held,List.reverse_nil,spreads,List.append_assoc]
      rfl
    | none =>
      by_cases closes : ∃ o rest, outer = o :: rest ∧ l.token.closes? = some o.bracket
      · obtain ⟨o,rest,rfl,closes⟩ := closes
        obtain ⟨opening,before,frames⟩ := frames
        rw [gather_closing opens closes]
        have block : Closed (topOf rest) (.block o.bracket o.opening inner.reverse (some l)) := by
          rw [Closed]
          exact ⟨opening,allClosed_reverse.mpr closed,closes⟩
        obtain ⟨fits,same⟩ := ih (.block o.bracket o.opening inner.reverse (some l) :: o.before) rest frames ⟨block,before⟩
        refine ⟨fits,same.trans ?_⟩
        rw [push,held,spread]
        simp
      · rw [gather_leaf opens fun o rest same fits => closes ⟨o,rest,same,fits⟩]
        have leaf : Closed (topOf outer) (.leaf l) := by
          rw [Closed]
          refine ⟨opens,?_⟩
          cases outer with
          | nil => exact .inl rfl
          | cons o rest => exact .inr fun fits => closes ⟨o,rest,rfl,fits⟩
        obtain ⟨fits,same⟩ := ih (.leaf l :: inner) outer frames ⟨leaf,closed⟩
        refine ⟨fits,same.trans ?_⟩
        rw [push,spread,List.append_assoc]
        rfl

end Component

-- Only a block at the very end of a text can be left open, and no lexeme is lost.
theorem components_fit (s : Text) : AllFit none (components s) ∧ spreads (components s) = lexemes s := by
  obtain ⟨fits,same⟩ := gather_fits [] [] (lexemes s) trivial trivial
  exact ⟨fits,same⟩

theorem components_texts (s : Text) : texts (components s) = s := by
  rw [← spreads_texts,(components_fit s).2,lexemes_text]

end StyleTrim.Css
