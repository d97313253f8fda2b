import StyleTrim.Proofs.Cuts
import StyleTrim.Proofs.Ink
namespace StyleTrim.Css
open Text Component Read
variable {top : Option Bracket} {c d : Component} {cs ds head spaces inside : List Component} {l opening : Lexeme}
  {closing : Option Lexeme} {n h b : Text} {stop : Component → Bool}

-- What is printed for components holds nothing that was not in their text.

-- Components as a text has them inside the bracket `top`.
structure Sound (top : Option Bracket) (cs : List Component) : Prop where
  fits : AllFit top cs
  genuine : ∀ l ∈ spreads cs, Genuine l

namespace Sound

theorem left (sound : Sound top (cs ++ ds)) : Sound top cs where
  fits := by
    cases ds with
    | nil => have fits := sound.fits; rwa [List.append_nil] at fits
    | cons => exact ((allFit_append sound.fits).1 (by simp)).fit
  genuine l inside := sound.genuine l (by rw [spreads_append]; exact List.mem_append_left _ inside)

theorem right (sound : Sound top (cs ++ ds)) : Sound top ds :=
  ⟨(allFit_append sound.fits).2,fun l inside => sound.genuine l (by rw [spreads_append]; exact List.mem_append_right _ inside)⟩

theorem rest (sound : Sound top (c :: cs)) : Sound top cs := right (show Sound top ([c] ++ cs) from sound)

theorem leaf (sound : Sound top (.leaf l :: cs)) : Genuine l := sound.genuine l (by simp [spreads,spread])

end Sound

theorem Sound.first (sound : Sound top (c :: cs)) : Fits top c := by
  have fits := sound.fits
  rw [AllFit] at fits
  split at fits
  · exact fits
  · exact fits.1.fits

theorem Component.Fits.leaf (fits : Fits top (.leaf l)) : l.token.opens? = none ∧ (top = none ∨ l.token.closes? ≠ top) := by
  rw [Fits,Closed] at fits
  · exact fits
  · exact fun _ _ _ => Component.noConfusion

theorem Component.Fits.block {b : Bracket} (fits : Fits top (.block b opening inside closing)) : opening.token.opens? = some b := by
  cases closing with
  | none => rw [Fits] at fits; exact fits.1
  | some =>
    rw [Fits,Closed] at fits
    · exact fits.1
    · exact fun _ _ _ same => by cases same

-- The lexeme that a component begins with.
theorem Sound.begins (sound : Sound top (c :: cs)) : ∃ l t, Genuine l ∧ c.token = l.token ∧ c.text = l.text ++ t := by
  cases c with
  | leaf l => exact ⟨l,[],sound.leaf,rfl,by rw [Component.text,List.append_nil]⟩
  | block b opening inside closing =>
    have genuine : Genuine opening := sound.genuine opening (by simp [spreads,spread])
    cases closing with
    | none => exact ⟨opening,texts inside,genuine,rfl,by simp [Component.text]⟩
    | some last => exact ⟨opening,texts inside ++ last.text,genuine,rfl,by simp [Component.text]⟩

-- Inside a bracket only blanks and semicolons begin with a character that counts nothing.
theorem Sound.first_counts (sound : Sound (some .curly) (c :: cs)) (shown : (c.isSpacing || isSemicolon c) = false) :
    ∃ d s, c.text = d :: s ∧ tally d ≠ 0 := by
  obtain ⟨l,t,genuine,token,text⟩ := sound.begins
  obtain ⟨d,f,first⟩ := genuine.first
  refine ⟨d,f ++ t,by rw [text,first]; rfl,?_⟩
  have fits := sound.first
  obtain ⟨spacing,semi⟩ := Bool.or_eq_false_iff.mp shown
  cases c with
  | leaf k =>
    simp only [Component.token] at token
    simp only [isSpacing,Bool.or_eq_false_iff,beq_eq_false_iff_ne] at spacing
    simp only [isSemicolon,isLeaf,beq_eq_false_iff_ne] at semi
    refine genuine.first_counts (token ▸ spacing.1) (token ▸ semi) (fun closes => ?_) first
    rcases fits.leaf.2 with outside | other
    · cases outside
    · rw [token,closes] at other; exact other rfl
  | block b opening inside closing =>
    have opens := fits.block
    simp only [Component.token] at token
    rw [token] at opens
    refine genuine.first_counts ?_ ?_ ?_ first <;> intro same <;> rw [same] at opens <;> cases opens

-- The brace that the printer adds to a block that the end of the text closes.
def missing : Option Lexeme → Text
  | some _ => []
  | none => "\x7d"

theorem opens_curly (opens : l.token.opens? = some .curly) : l.token = .openCurly := by
  obtain ⟨token,text,place⟩ := l
  cases token <;> first | rfl | cases opens

theorem closes_curly (closes : l.token.closes? = some .curly) : l.token = .closeCurly := by
  obtain ⟨token,text,place⟩ := l
  cases token <;> first | rfl | cases closes

theorem Sound.curly (sound : Sound top [.block .curly opening inside closing]) :
    Sound (some .curly) inside ∧ opening.text = "\x7b" ∧ ∀ l ∈ closing, l.text = "\x7d" := by
  have opened : Genuine opening := sound.genuine opening (by simp [spreads,spread])
  have within : ∀ l ∈ spreads inside, Genuine l := fun l among => sound.genuine l (by simp [spreads,spread,among])
  have fits := sound.fits
  rw [AllFit,if_pos rfl] at fits
  cases closing with
  | none =>
    rw [Fits] at fits
    exact ⟨⟨fits.2,within⟩,opened.mark (by rw [opens_curly fits.1]; rfl),fun _ same => by cases same⟩
  | some last =>
    rw [Fits,Closed] at fits
    · refine ⟨⟨fits.2.1.fit,within⟩,opened.mark (by rw [opens_curly fits.1]; rfl),fun l same => ?_⟩
      cases same
      have closed : Genuine last := sound.genuine last (by simp [spreads,spread])
      exact closed.mark (by rw [closes_curly fits.2.2]; rfl)
    · exact fun _ _ _ same => by cases same

theorem texts_curly (sound : Sound top [.block .curly opening inside closing]) :
    texts [.block .curly opening inside closing] ++ missing closing = "\x7b" ++ texts inside ++ "\x7d" := by
  obtain ⟨_,opened,closed⟩ := sound.curly
  cases closing with
  | none => simp [texts,Component.text,opened,missing]
  | some last => simp [texts,Component.text,opened,closed last rfl,missing]

theorem keeps_spacing (sound : Sound top spaces) (spacing : ∀ c ∈ spaces, isSpacing c = true) : Keeps [] (texts spaces) := by
  induction spaces with
  | nil => exact .refl []
  | cons c spaces ih =>
    have rest := ih sound.rest fun d inside => spacing d (List.mem_cons_of_mem _ inside)
    have first := spacing c List.mem_cons_self
    cases c with
    | block => cases first
    | leaf l => exact (sound.leaf.spacing_keeps first).append rest

theorem keeps_head (genuine : Genuine l) (token : l.token = .atKeyword n) (head : List Component) :
    Keeps (headText (lower n) (collapse (texts head))) (l.text ++ texts head) := by
  have keyword : Keeps ('@' :: lower n) l.text := ((Keeps.refl ['@']).append (.lower n)).trans (genuine.keyword_keeps token)
  have params : Keeps (if (collapse (texts head)).isEmpty then [] else ' ' :: collapse (texts head)) (texts head) := by
    have kept := collapse_ink (texts head)
    split
    · rename_i empty
      rw [List.isEmpty_iff.mp empty] at kept
      exact .of_ink kept.1 kept.2
    · exact .of_ink kept.1 (by rw [gauge]; exact Nat.le_trans (Nat.le_of_eq (Nat.zero_add _)) kept.2)
  exact keyword.append params

-- A head and a block, as printed for what is read of them.
theorem keeps_braced (sound : Sound top [.block .curly opening inside closing]) (first : Keeps h (texts head))
    (second : Keeps b (texts inside)) : Keeps (h ++ "\x7b" ++ b ++ "\x7d")
      (texts (head ++ [.block .curly opening inside closing]) ++ missing closing) := by
  have kept := first.append ((Keeps.refl "\x7b").append (second.append (.refl "\x7d")))
  rw [texts_append,List.append_assoc (texts head),texts_curly sound]
  simpa only [List.append_assoc] using kept

theorem gauge_braced (head : List Component) (sound : Sound top [.block .curly opening inside closing]) (h b : Text) :
    gauge (h ++ "\x7b" ++ b ++ "\x7d") = gauge h + 1 + gauge b ∧
      gauge (texts (head ++ [.block .curly opening inside closing])) = gauge (texts head) + 1 + gauge (texts inside) := by
  have open' : gauge ("\x7b" : Text) = 1 := by decide
  have close : gauge ("\x7d" : Text) = 0 := by decide
  have filled : gauge (missing closing) = 0 := by cases closing <;> rfl
  have whole := congrArg gauge (texts_curly sound)
  rw [gauge_append,gauge_append,gauge_append,filled,open',close] at whole
  rw [gauge_append,gauge_append,gauge_append,open',close,texts_append,gauge_append]
  omega

theorem braced_bound (sound : Sound top [.block .curly opening inside closing]) (first : gauge h ≤ gauge (texts head))
    (second : gauge b ≤ gauge (texts inside)) :
    gauge (h ++ "\x7b" ++ b ++ "\x7d") ≤ gauge (texts (head ++ [.block .curly opening inside closing])) := by
  obtain ⟨printed,written⟩ := gauge_braced head sound h b
  omega

-- Where a block and its head lose nothing, neither of them does.
theorem braced_parts (sound : Sound top [.block .curly opening inside closing]) (first : gauge h ≤ gauge (texts head))
    (second : gauge b ≤ gauge (texts inside))
    (full : gauge (h ++ "\x7b" ++ b ++ "\x7d") = gauge (texts (head ++ [.block .curly opening inside closing]))) :
    gauge h = gauge (texts head) ∧ gauge b = gauge (texts inside) := by
  obtain ⟨printed,written⟩ := gauge_braced head sound h b
  omega

theorem isLeaf_token {t : Token} (leaf : d.isLeaf t = true) : ∃ l, d = .leaf l ∧ l.token = t := by
  cases d with
  | block => cases leaf
  | leaf l => exact ⟨l,rfl,beq_iff_eq.mp leaf⟩

theorem not_closed (closed : AllClosed top (head ++ [.block .curly opening inside none])) : False := by
  have last := (allClosed_append.mp closed).2
  rw [AllClosed,Closed] at last
  exact last.1

theorem missing_cases (head : List Component) (opening : Lexeme) (inside : List Component) (closing : Option Lexeme) :
    missing closing = [] ∨ missing closing = "\x7d" ∧ ¬AllClosed top (head ++ [.block .curly opening inside closing]) := by
  cases closing with
  | none => exact .inr ⟨rfl,not_closed⟩
  | some => exact .inl rfl

end StyleTrim.Css
