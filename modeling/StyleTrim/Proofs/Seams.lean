import StyleTrim.Proofs.Cuts
import StyleTrim.Proofs.Tokens
namespace StyleTrim.Css
open Text Component
variable {top : Option Bracket} {c d : Component} {l : Lexeme} {ls : List Lexeme} {cs ds head after : List Component} {more : List Lexeme}
  {s t u v y z : Text}

-- Texts set one behind the other: what of the first one is settled, whatever comes behind it.

namespace Component

mutual
theorem gather_last : ∀ (c : Component) (inner : List Component) (outer : List Open),
    Fits (topOf outer) c → gather inner outer (spread c) = closeAll (c :: inner) outer
  | .leaf l, inner, outer, fits => by
    rw [Fits] at fits
    · exact (congrArg _ (List.append_nil _).symm).trans (gather_spread _ _ _ [] fits)
    · exact fun _ _ _ => Component.noConfusion
  | .block b opening inside (some closing), inner, outer, fits => by
    rw [Fits] at fits
    · exact (congrArg _ (List.append_nil _).symm).trans (gather_spread _ _ _ [] fits)
    · exact fun _ _ _ same => by cases same
  | .block b opening inside none, inner, outer, fits => by
    rw [Fits] at fits
    rw [spread,Option.toList,List.append_nil,gather_opening fits.1,
      gather_lasts inside [] (⟨b,opening,inner⟩ :: outer) fits.2,List.append_nil,closeAll,List.reverse_reverse]
theorem gather_lasts : ∀ (cs : List Component) (inner : List Component) (outer : List Open),
    AllFit (topOf outer) cs → gather inner outer (spreads cs) = closeAll (cs.reverse ++ inner) outer
  | [], _, _, _ => by rw [spreads,gather]; rfl
  | c :: cs, inner, outer, fits => by
    rw [AllFit] at fits
    split at fits
    · rename_i last
      rw [last,spreads,spreads,List.append_nil,gather_last c inner outer fits]
      rfl
    · rw [spreads,gather_spread c inner outer _ fits.1,gather_lasts cs _ _ fits.2,List.reverse_cons,List.append_assoc]
      rfl
end

-- Only one list of components is made of the same lexemes.
theorem ofLexemes_spreads (fits : AllFit none cs) : ofLexemes (spreads cs) = cs := by
  rw [ofLexemes,gather_lasts cs [] [] fits,closeAll,List.append_nil,List.reverse_reverse]

theorem AllClosed.fit_append (closed : AllClosed top cs) (fits : AllFit top ds) : AllFit top (cs ++ ds) := by
  induction cs with
  | nil => exact fits
  | cons c more ih =>
    rw [AllClosed] at closed
    rw [List.cons_append,AllFit]
    split
    · exact closed.1.fits
    · exact ⟨closed.1,ih closed.2⟩

end Component

theorem components_of_lexed (closed : AllClosed none cs) (lexed : lexemes s = spreads cs ++ lexemes z) :
    components s = cs ++ components z := by
  have fits := closed.fit_append (components_fit z).1
  rw [components,lexed,← (components_fit z).2,← spreads_append,ofLexemes_spreads fits]

theorem components_whole (whole : Whole none u cs) (z : Text) : components (u ++ z) = cs ++ components z :=
  components_of_lexed whole.closed (whole.lexed z)

theorem components_leaf (plain : l.token.opens? = none) (lexed : lexemes s = l :: lexemes z) :
    components s = .leaf l :: components z := by
  change components s = [.leaf l] ++ components z
  refine components_of_lexed ⟨?_,trivial⟩ (by rw [lexed,spreads,spreads,spread]; rfl)
  rw [Closed]
  exact ⟨plain,.inl rfl⟩

theorem components_nil : components [] = [] := by rw [components,lexemes_nil]; rfl

theorem Component.Fits.opens {b : Bracket} {opening : Lexeme} {inside : List Component} {closing : Option Lexeme}
    (fits : Fits top (.block b opening inside closing)) : opening.token.opens? = some b := by
  cases closing with
  | none => rw [Fits] at fits; exact fits.1
  | some closing =>
    rw [Fits] at fits
    · rw [Closed] at fits; exact fits.1
    · exact fun _ _ _ same => by cases same

theorem Component.AllFit.first (fits : AllFit top (c :: cs)) : Fits top c := by
  rw [AllFit] at fits
  split at fits
  · exact fits
  · exact fits.1.fits

-- A text begins with the component that its first lexeme is or opens.
theorem components_first (lexed : lexemes s = l :: ls) : ∃ c rest, components s = c :: rest ∧ c.token = l.token ∧
    (l.token.opens? = none → c = .leaf l) := by
  obtain ⟨fits,spread⟩ := components_fit s
  cases parts : components s with
  | nil => rw [parts,lexed,spreads] at spread; cases spread
  | cons c rest =>
    rw [parts] at fits spread
    rw [lexed,spreads] at spread
    refine ⟨c,rest,rfl,?_⟩
    cases c with
    | leaf m =>
      obtain rfl : m = l := (List.cons.inj spread).1
      exact ⟨rfl,fun _ => rfl⟩
    | block b opening inside closing =>
      obtain rfl : opening = l := (List.cons.inj spread).1
      refine ⟨rfl,fun plain => ?_⟩
      rw [fits.first.opens] at plain
      cases plain

-- What ends with a semicolon or a closing brace is read the same whatever is behind it.
theorem lexemes_end {m : Lexeme} (lexed : lexemes s = ls ++ m :: more) (ends : m.token = .semicolon ∨ m.token = .closeCurly)
    (y : Text) : lexemes (((ls ++ [m]).map (·.text)).flatten ++ y) = ls ++ m :: lexemes y := by
  have genuine : Genuine m := lexemes_genuine s m (by simp [lexed])
  obtain ⟨ch,stop,alone,text⟩ : ∃ ch, isStop ch = true ∧ (∀ s, Scan.token ch s = (m.token,s)) ∧ m.text = [ch] := by
    rcases ends with token | token
    · exact ⟨';',rfl,fun _ => by rw [token]; rfl,genuine.mark (by rw [token]; rfl)⟩
    · exact ⟨'\x7d',rfl,fun _ => by rw [token]; rfl,genuine.mark (by rw [token]; rfl)⟩
  have whole := lexemes_text s
  rw [lexed,List.map_append,List.flatten_append,List.map_cons,List.flatten_cons,text,List.singleton_append] at whole
  rw [← whole] at lexed
  have behind := lexemes_behind lexed rfl
  rw [lexemes_mark alone] at behind
  have same : markOf m.token ch = m := (List.cons.inj behind).1
  have bounded : Bounded (ch :: y) := .inr ⟨ch,y,rfl,stop⟩
  have again := lexemes_local ⟨ch,_,rfl,stop⟩ bounded lexed rfl
  rw [lexemes_mark alone,same] at again
  rw [← again,List.map_append,List.flatten_append,List.map_singleton,List.flatten_singleton,text,List.append_assoc,
    List.singleton_append]

-- The character that a rule ends with.
def EndsWith (d : Component) (ch : Char) : Prop := Read.isSemicolon d = true ∧ ch = ';' ∨ Read.isSemicolon d = false ∧ ch = '\x7d'

theorem spread_last (ends : Read.endsHead d = true) (closed : Closed top d) : ∃ ls m, spread d = ls ++ [m] ∧
    (m.token = .semicolon ∨ m.token = .closeCurly) ∧ ∀ ch, m.token.kind = .mark ch → EndsWith d ch := by
  cases semi : Read.isSemicolon d with
  | true =>
    obtain ⟨l,rfl,token⟩ := Read.leaf_of_semicolon semi
    refine ⟨[],l,by rw [spread]; rfl,.inl token,fun ch kind => .inl ⟨semi,?_⟩⟩
    rw [token] at kind
    exact (Kind.mark.inj kind).symm
  | false =>
    obtain ⟨opening,inside,closing,rfl⟩ := Read.endsHead_cases ends semi
    cases closing with
    | none => rw [Closed] at closed; cases closed
    | some closing =>
      rw [Closed] at closed
      have token : closing.token = .closeCurly := by
        have closes := closed.2.2
        cases token : closing.token <;> rw [token] at closes <;> first | rfl | cases closes
      refine ⟨opening :: spreads inside,closing,by rw [spread]; rfl,.inr token,fun ch kind => .inr ⟨semi,?_⟩⟩
      rw [token] at kind
      exact (Kind.mark.inj kind).symm

-- A rule that something stands behind is read the same whatever that is.
theorem whole_cut (parts : components s = head ++ d :: after) (ends : Read.endsHead d = true) (behind : after ≠ []) :
    Whole none (texts (head ++ [d])) (head ++ [d]) ∧ ∃ u ch, texts (head ++ [d]) = u ++ [ch] ∧ EndsWith d ch := by
  obtain ⟨fits,spread⟩ := components_fit s
  rw [parts,List.append_cons] at fits spread
  have closed := (allFit_append fits).1 behind
  obtain ⟨ls,m,last,token,mark⟩ := spread_last ends (allClosed_append.mp closed).2.1
  have all : spreads (head ++ [d]) = (spreads head ++ ls) ++ [m] := by
    rw [spreads_append,spreads,spreads,last,List.append_nil,List.append_assoc]
  rw [spreads_append,all,List.append_assoc,List.singleton_append] at spread
  refine ⟨⟨closed,fun y => ?_⟩,?_⟩
  · rw [← spreads_texts,all,lexemes_end spread.symm token,List.append_assoc (spreads head ++ ls) [m]]
    rfl
  · have genuine : Genuine m := lexemes_genuine s m (by simp [← spread])
    obtain ⟨ch,kind⟩ : ∃ ch, m.token.kind = .mark ch := by
      rcases token with token | token <;> rw [token] <;> exact ⟨_,rfl⟩
    refine ⟨((spreads head ++ ls).map (·.text)).flatten,ch,?_,mark ch kind⟩
    rw [← spreads_texts,all,List.map_append,List.flatten_append,List.map_singleton,List.flatten_singleton,genuine.mark kind]

-- Blanks, comments and the marks that may hide a sheet.
def Token.isGap : Token → Bool
  | .blank | .comment | .commentOpen | .commentClose => true
  | _ => false

theorem isBetween_leaf (l : Lexeme) : Read.isBetween (.leaf l) = l.token.isGap := by
  obtain ⟨token,text,place⟩ := l
  cases token <;> rfl

theorem Token.isGap_plain {t : Token} (gap : t.isGap = true) : t.opens? = none := by
  cases t <;> first | rfl | cases gap

namespace Scan

theorem identLike_shown (s : Text) : (identLike s).1.isGap = false := by
  rcases identLike_kind s with kind | kind <;> cases token : (identLike s).1 <;> rw [token] at kind <;>
    first | rfl | cases kind

theorem numeric_shown (s : Text) : (numeric s).1.isGap = false := by
  unfold numeric
  split
  · rfl
  · split <;> rfl

theorem string_shown (m : Char) (s : Text) : (string m s).1.isGap = false := by
  unfold string
  dsimp only
  split <;> rfl

theorem orMatch_shown (m : Token) (c : Char) (s : Text) (shown : m.isGap = false) : (orMatch m c s).1.isGap = false := by
  fun_cases orMatch m c s
  · exact shown
  · rfl

theorem hash_shown (s : Text) : (hash s).1.isGap = false := by
  unfold hash
  split
  · rfl
  · split
    · split <;> rfl
    · rfl

-- How a gap comes about.
inductive Gap : Char → Text → Step Token → Prop
  | blank {c : Char} (blank : isAsciiBlank c = true) (s : Text) : Gap c s (.blank,s.dropWhile isAsciiBlank)
  | comment (s : Text) : Gap '/' ('*' :: s) (.comment,afterComment s)
  | opened (s : Text) : Gap '<' ('!' :: '-' :: '-' :: s) (.commentOpen,s)
  | closed (s : Text) : Gap '-' ('-' :: '>' :: s) (.commentClose,s)
  | shown {c : Char} {s : Text} {r : Step Token} (shown : r.1.isGap = false) : Gap c s r

theorem token_gap (c : Char) (s : Text) : Gap c s (token c s) := by
  unfold token
  split
  · exact .blank ‹_› s
  split
  · exact .shown (numeric_shown _)
  split
  · exact .shown (identLike_shown _)
  split
  any_goals first | exact .shown rfl | exact .shown (string_shown _ _) | exact .shown (orMatch_shown _ _ _ rfl)
  · exact .shown (hash_shown _)
  · split
    · exact .shown (numeric_shown _)
    · exact .shown rfl
  · split
    · exact .shown (numeric_shown _)
    · exact .shown rfl
  · unfold minus
    split
    · exact .shown (numeric_shown _)
    · split
      · exact .closed _
      · split
        · exact .shown (identLike_shown _)
        · exact .shown rfl
  · fun_cases slash s
    · exact .comment _
    · exact .shown rfl
  · fun_cases less s
    · exact .opened _
    · exact .shown rfl
  · split <;> exact .shown rfl
  · split
    · exact .shown rfl
    · exact .shown (identLike_shown _)

-- A comment that ends, or one that runs on until it is ended.
theorem afterComment_append (s : Text) : (∀ y, afterComment (s ++ y) = afterComment s ++ y) ∨
    afterComment s = [] ∧ ∀ y, '/' ∉ y → afterComment (s ++ y) = [] := by
  have open' : ∀ y : Text, '/' ∉ y → afterComment y = [] := by
    intro y
    induction y using afterComment.induct with
    | case1 y => exact fun none => absurd (by simp) none
    | case2 c y other ih =>
      intro none
      rw [afterComment]
      · exact ih fun inside => none (List.mem_cons_of_mem _ inside)
      · exact other
    | case3 => exact fun _ => rfl
  induction s using afterComment.induct with
  | case1 s => exact .inl fun y => by simp [afterComment]
  | case3 => exact .inr ⟨rfl,open'⟩
  | case2 c s other ih =>
    have step : ∀ y, s ≠ [] ∨ '/' ∉ y → afterComment (c :: (s ++ y)) = afterComment (s ++ y) := by
      intro y apart
      rw [afterComment]
      intro t star same
      cases s with
      | cons d s =>
        obtain ⟨rfl,_⟩ := List.cons.inj same
        exact other s star rfl
      | nil =>
        rcases apart with some | none
        · exact some rfl
        · rw [List.nil_append] at same
          exact none (by rw [same]; exact List.mem_cons_self)
    have alone := step [] (.inr List.not_mem_nil)
    rw [List.append_nil] at alone
    rcases ih with ends | ⟨empty,runs⟩
    · cases s with
      | nil => exact .inr ⟨alone,fun y none => (step y (.inr none)).trans (open' y none)⟩
      | cons d s => exact .inl fun y => (step y (.inl (List.cons_ne_nil d s))).trans ((ends y).trans (by rw [alone]))
    · exact .inr ⟨alone.trans empty,fun y none => (step y (.inr none)).trans (runs y none)⟩

-- Characters that no comment and no mark goes on with.
def endsGap (ch : Char) : Bool := ch != '*' && ch != '!' && ch != '-' && ch != '>'

-- A token that is no gap does not become one by what is behind it.
theorem shown_append {c ch : Char} (other : endsGap ch = true) (shown : (token c s).1.isGap = false) (y : Text) :
    (token c (s ++ ch :: y)).1.isGap = false := by
  have apart : ∀ e, endsGap e = false → e ≠ ch := fun e same equal => by
    rw [equal,other] at same
    cases same
  refine Bool.eq_false_iff.mpr fun gap => ?_
  have origin := token_gap c (s ++ ch :: y)
  generalize behind : s ++ ch :: y = r at origin gap
  generalize token c r = step at origin gap
  cases origin with
  | blank ink =>
    have alone : token c s = (.blank,s.dropWhile isAsciiBlank) := by unfold token; rw [if_pos ink]
    rw [alone] at shown
    cases shown
  | comment r =>
    cases s with
    | nil => exact apart '*' rfl (List.cons.inj behind).1.symm
    | cons e s => cases (List.cons.inj behind).1; cases shown
  | opened r =>
    match s with
    | [] => exact apart '!' rfl (List.cons.inj behind).1.symm
    | [e] => exact apart '-' rfl (List.cons.inj (List.cons.inj behind).2).1.symm
    | [e,f] => exact apart '-' rfl (List.cons.inj (List.cons.inj (List.cons.inj behind).2).2).1.symm
    | e :: f :: g :: s =>
      obtain ⟨rfl,rfl,rfl,_⟩ : e = '!' ∧ f = '-' ∧ g = '-' ∧ s ++ ch :: y = r := by simpa using behind
      cases shown
  | closed r =>
    match s with
    | [] => exact apart '-' rfl (List.cons.inj behind).1.symm
    | [e] => exact apart '>' rfl (List.cons.inj (List.cons.inj behind).2).1.symm
    | e :: f :: s =>
      obtain ⟨rfl,rfl,_⟩ : e = '-' ∧ f = '>' ∧ s ++ ch :: y = r := by simpa using behind
      cases shown
  | shown none => rw [none] at gap; cases gap

theorem startsName_at (s y : Text) : startsName (s ++ '@' :: y) = startsName s := by
  match s with
  | [] => rfl
  | [c] =>
    by_cases minus : c = '-'
    · subst minus; rfl
    · by_cases escape : c = '\\'
      · subst escape; rfl
      · simp [startsName,minus]
  | c :: d :: s =>
    by_cases minus : c = '-'
    · subst minus; rfl
    · by_cases escape : c = '\\'
      · subst escape; rfl
      · simp [startsName,minus]

theorem token_keyword {c : Char} : (token c s).1.kind = .keyword ↔ c = '@' ∧ startsName s = true := by
  constructor
  · intro keyword
    have origin := token_origin c s
    generalize same : token c s = r at origin keyword
    cases origin with
    | mark kind => rw [kind] at keyword; cases keyword
    | word => rcases identLike_kind (c :: s) with kind | kind <;> rw [kind] at keyword <;> cases keyword
    | keyword at' =>
      subst at'
      refine ⟨rfl,?_⟩
      cases begins : startsName s with
      | true => rfl
      | false =>
        have alone : token '@' s = (.delim '@',s) := by
          change (if startsName s then _ else _) = _
          rw [if_neg (by rw [begins]; exact Bool.false_ne_true)]
        rw [alone] at same
        cases same
    | blank => cases keyword
    | other kind => rw [kind] at keyword; cases keyword
  · rintro ⟨rfl,begins⟩
    change (if startsName s then _ else _ : Step Token).1.kind = _
    rw [if_pos begins]
    rfl

end Scan
end StyleTrim.Css
