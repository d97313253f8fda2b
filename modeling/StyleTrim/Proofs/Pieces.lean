import StyleTrim.Proofs.Gathering
import StyleTrim.Proofs.Tokens
namespace StyleTrim.Css
open Text Component
variable {b : Bracket} {top : Option Bracket} {c : Component} {d : Char} {t : Token} {cs ds inside : List Component}
  {u v y z : Text} {ls more : List Lexeme}

-- A text whose components are `cs` inside the bracket `top`, and stay that when a delimiter or
-- the end of the text follows.
structure Piece (top : Option Bracket) (u : Text) (cs : List Component) : Prop where
  closed : AllClosed top cs
  lexed : ∀ z, Bounded z → lexemes (u ++ z) = spreads cs ++ lexemes z

-- The same whatever follows.
structure Whole (top : Option Bracket) (u : Text) (cs : List Component) : Prop where
  closed : AllClosed top cs
  lexed : ∀ z, lexemes (u ++ z) = spreads cs ++ lexemes z

-- The lexeme of a character that is a token by itself.
def markOf (t : Token) (d : Char) : Lexeme := ⟨t,[d],.start⟩

theorem lexemes_mark (alone : ∀ s, Scan.token d s = (t,s)) (z : Text) : lexemes (d :: z) = markOf t d :: lexemes z := by
  have step := lexemes_take d [] z (by rw [alone]; rfl)
  rw [List.nil_append,alone] at step
  exact step

theorem lexemes_semicolon (z : Text) : lexemes (';' :: z) = markOf .semicolon ';' :: lexemes z := lexemes_mark (fun _ => rfl) z
theorem lexemes_openCurly (z : Text) : lexemes ('\x7b' :: z) = markOf .openCurly '\x7b' :: lexemes z :=
  lexemes_mark (fun _ => rfl) z
theorem lexemes_closeCurly (z : Text) : lexemes ('\x7d' :: z) = markOf .closeCurly '\x7d' :: lexemes z :=
  lexemes_mark (fun _ => rfl) z

theorem Whole.nil : Whole top [] [] := ⟨trivial,fun _ => by rw [spreads]; rfl⟩

theorem Whole.append (first : Whole top u cs) (second : Whole top v ds) : Whole top (u ++ v) (cs ++ ds) where
  closed := allClosed_append.mpr ⟨first.closed,second.closed⟩
  lexed z := by rw [List.append_assoc,first.lexed,second.lexed,spreads_append,List.append_assoc]

theorem Piece.nil : Piece top [] [] := ⟨trivial,fun _ _ => by rw [spreads]; rfl⟩

-- A delimiter ends a piece.
theorem Piece.append (first : Piece top u cs) (second : Whole top v ds) (stopped : ∀ z, Stopped (v ++ z)) :
    Whole top (u ++ v) (cs ++ ds) where
  closed := allClosed_append.mpr ⟨first.closed,second.closed⟩
  lexed z := by
    rw [List.append_assoc,first.lexed _ (.inr (stopped z)),second.lexed,spreads_append,List.append_assoc]

def semicolon : Component := .leaf (markOf .semicolon ';')
def curly (inside : List Component) : Component :=
  .block .curly (markOf .openCurly '\x7b') inside (some (markOf .closeCurly '\x7d'))

theorem Whole.semicolon : Whole top ";" [semicolon] where
  closed := by
    refine ⟨?_,trivial⟩
    rw [Css.semicolon,Closed]
    refine ⟨rfl,?_⟩
    cases top with
    | none => exact .inl rfl
    | some => exact .inr fun same => by cases same
  lexed z := (lexemes_semicolon z).trans (by rw [Css.semicolon,spreads,spread,spreads]; rfl)

theorem Whole.curly (piece : Piece (some .curly) u inside) : Whole top ("\x7b" ++ u ++ "\x7d") [curly inside] where
  closed := by
    refine ⟨?_,trivial⟩
    rw [Css.curly,Closed]
    exact ⟨rfl,piece.closed,rfl⟩
  lexed z := by
    have behind : Bounded ('\x7d' :: z) := .inr ⟨_,_,rfl,rfl⟩
    have body := piece.lexed _ behind
    rw [lexemes_closeCurly] at body
    have all := (lexemes_openCurly (u ++ '\x7d' :: z)).trans (congrArg _ body)
    simpa [Css.curly,spreads,spread] using all

theorem allClosed_none (closed : AllClosed top cs) : AllClosed none cs := by
  induction cs with
  | nil => trivial
  | cons c more ih =>
    rw [AllClosed] at closed ⊢
    refine ⟨?_,ih closed.2⟩
    have first := closed.1
    cases c with
    | leaf l => rw [Closed] at first ⊢; exact ⟨first.1,.inl rfl⟩
    | block b opening inside closing =>
      cases closing with
      | none => rw [Closed] at first; exact first
      | some => rw [Closed] at first ⊢; exact first

theorem Whole.components (whole : Whole none u cs) : components u = cs := by
  have all := whole.lexed []
  rw [List.append_nil,lexemes_nil] at all
  rw [Css.components,ofLexemes,all,gather_spreads cs [] [] [] whole.closed,gather,closeAll]
  simp

-- Where components end in front of a delimiter, their text is a piece.
theorem Piece.of_lexed (closed : AllClosed top cs) (stopped : Stopped z) (lexed : lexemes (texts cs ++ z) = spreads cs ++ more) :
    Piece top (texts cs) cs :=
  ⟨closed,fun _ bounded => lexemes_local stopped bounded lexed (spreads_texts cs)⟩

theorem Piece.texts (piece : Piece top u cs) : texts cs = u := by
  have all := piece.lexed [] (.inl rfl)
  rw [List.append_nil,lexemes_nil,List.append_nil] at all
  rw [← spreads_texts,← all,lexemes_text]

end StyleTrim.Css
