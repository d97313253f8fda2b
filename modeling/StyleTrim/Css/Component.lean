import StyleTrim.Css.Token
namespace StyleTrim.Css

-- Lexemes with their brackets paired, so that a reader passes over a block in one step.

inductive Bracket where
  | paren
  | square
  | curly
deriving DecidableEq, Repr

def Token.opens? : Token → Option Bracket
  | .openParen | .function _ => some .paren
  | .openSquare => some .square
  | .openCurly => some .curly
  | _ => none

def Token.closes? : Token → Option Bracket
  | .closeParen => some .paren
  | .closeSquare => some .square
  | .closeCurly => some .curly
  | _ => none

inductive Component where
  | leaf (lexeme : Lexeme)
  | block (bracket : Bracket) (opening : Lexeme) (inside : List Component) (closing : Option Lexeme)

namespace Component

mutual
def text : Component → Text
  | .leaf l => l.text
  | .block _ opening inside closing =>
    opening.text ++ texts inside ++ (match closing with | some l => l.text | none => [])
def texts : List Component → Text
  | [] => []
  | c :: more => text c ++ texts more
end

def token : Component → Token
  | .leaf l => l.token
  | .block _ opening _ _ => opening.token

def place : Component → Place
  | .leaf l => l.place
  | .block _ opening _ _ => opening.place

def inside : Component → List Component
  | .leaf _ => []
  | .block _ _ inside _ => inside

def isLeaf (t : Token) : Component → Bool
  | .leaf l => l.token == t
  | .block .. => false

def isCurly : Component → Bool
  | .block .curly .. => true
  | _ => false

def isSpacing : Component → Bool
  | .leaf l => l.token == .blank || l.token == .comment
  | .block .. => false

-- A block still open: its opening lexeme and what stood before it, latest first.
structure Open where
  bracket : Bracket
  opening : Lexeme
  before : List Component

def closeAll (inner : List Component) : List Open → List Component
  | [] => inner.reverse
  | o :: outer => closeAll (.block o.bracket o.opening inner.reverse none :: o.before) outer

-- A closing lexeme ends the innermost block if it fits it and is an ordinary leaf otherwise.
def gather (inner : List Component) (outer : List Open) : List Lexeme → List Component
  | [] => closeAll inner outer
  | l :: more =>
    match l.token.opens? with
    | some bracket => gather [] (⟨bracket,l,inner⟩ :: outer) more
    | none =>
      match outer with
      | [] => gather (.leaf l :: inner) [] more
      | o :: rest =>
        if l.token.closes? = some o.bracket then
          gather (.block o.bracket o.opening inner.reverse (some l) :: o.before) rest more
        else gather (.leaf l :: inner) (o :: rest) more

def ofLexemes (lexemes : List Lexeme) : List Component := gather [] [] lexemes
def ofText (s : Text) : List Component := ofLexemes (lex s)

def placeOf (finish : Place) : List Component → Place
  | [] => finish
  | c :: _ => c.place

mutual
def depth : Component → Nat
  | .leaf _ => 0
  | .block _ _ inside _ => depths inside + 1
def depths : List Component → Nat
  | [] => 0
  | c :: more => max (depth c) (depths more)
end

mutual
def weight : Component → Nat
  | .leaf _ => 1
  | .block _ _ inside _ => 1 + weights inside
def weights : List Component → Nat
  | [] => 0
  | c :: more => weight c + weights more
end

theorem weight_pos (c : Component) : 0 < c.weight := by
  cases c <;> simp only [weight] <;> omega

theorem weights_append (a b : List Component) : weights (a ++ b) = weights a + weights b := by
  induction a with
  | nil => simp [weights]
  | cons c more ih => simp [weights,ih]; omega

theorem weights_suffix {a b : List Component} (tail : a <:+ b) : weights a ≤ weights b := by
  obtain ⟨front,rfl⟩ := tail
  simp [weights_append]

def skipSpacing (components : List Component) : List Component := components.dropWhile isSpacing

theorem skipSpacing_suffix (components : List Component) : skipSpacing components <:+ components :=
  List.dropWhile_suffix isSpacing

end Component
end StyleTrim.Css
