import StyleTrim.Proofs.Boundaries
namespace StyleTrim.Css
open Text
variable {c d : Char} {s t n : Text} {l : Lexeme}

-- What a token tells of the text that it was read from.

-- Marks are one character, words and keywords begin with a name; all other tokens are alike here.
inductive Kind where
  | mark (c : Char)
  | word
  | address
  | keyword
  | blank
  | other
deriving DecidableEq

def Token.kind : Token → Kind
  | .ident _ | .function _ => .word
  | .address _ | .badAddress _ => .address
  | .atKeyword _ => .keyword
  | .blank => .blank
  | .colon => .mark ':'
  | .semicolon => .mark ';'
  | .comma => .mark ','
  | .openParen => .mark '('
  | .openSquare => .mark '['
  | .openCurly => .mark '\x7b'
  | .closeParen => .mark ')'
  | .closeSquare => .mark ']'
  | .closeCurly => .mark '\x7d'
  | _ => .other

namespace Scan

theorem unquoted_kind (s : Text) : (unquoted s).1.kind = .address := by
  unfold unquoted
  split <;> rfl

theorem address?_kind {r : Step Token} (found : address? s = some r) : r.1.kind = .address := by
  unfold address? at found
  split at found
  · cases found; rfl
  · cases found; rfl
  · split at found
    · cases found
    · cases found; exact unquoted_kind _

theorem identLike_kind (s : Text) : (identLike s).1.kind = .word ∨ (identLike s).1.kind = .address := by
  unfold identLike
  split
  · split
    · rename_i rest _ _
      cases found : address? rest with
      | none => exact .inl rfl
      | some r => exact .inr (address?_kind found)
    · exact .inl rfl
  · exact .inl rfl

theorem numeric_other (s : Text) : (numeric s).1.kind = .other := by
  unfold numeric
  split
  · rfl
  · split <;> rfl

theorem string_other (m : Char) (s : Text) : (string m s).1.kind = .other := by
  unfold string
  dsimp only
  split <;> rfl

theorem orMatch_other (m : Token) (c : Char) (s : Text) (other : m.kind = .other) : (orMatch m c s).1.kind = .other := by
  fun_cases orMatch m c s
  · exact other
  · rfl

theorem hash_kind (s : Text) : (hash s).1.kind = .other := by
  unfold hash
  split
  · rfl
  · split
    · split <;> rfl
    · rfl

theorem slash_other (s : Text) : (slash s).1.kind = .other := by fun_cases slash s <;> rfl
theorem less_other (s : Text) : (less s).1.kind = .other := by fun_cases less s <;> rfl

-- How a token comes about, by its kind.
inductive Origin (c : Char) (s : Text) : Step Token → Prop
  | mark {t : Token} (kind : t.kind = .mark c) : Origin c s (t,s)
  | word (begins : startsName (c :: s) = true) : Origin c s (identLike (c :: s))
  | keyword (at' : c = '@') : Origin c s (.atKeyword (name s).1,(name s).2)
  | blank (ink : isAsciiBlank c = true) : Origin c s (.blank,s.dropWhile isAsciiBlank)
  | other {r : Step Token} (kind : r.1.kind = .other) : Origin c s r

theorem token_origin (c : Char) (s : Text) : Origin c s (token c s) := by
  unfold token
  split
  · exact .blank ‹_›
  split
  · exact .other (numeric_other _)
  split
  · exact .word (startsName_of_start ‹_› s)
  split
  · exact .other (string_other _ _)
  · exact .other (string_other _ _)
  · exact .other (hash_kind _)
  · exact .other (orMatch_other _ _ _ rfl)
  · exact .other (orMatch_other _ _ _ rfl)
  · exact .other (orMatch_other _ _ _ rfl)
  · exact .other (orMatch_other _ _ _ rfl)
  · exact .other (orMatch_other _ _ _ rfl)
  · exact .mark rfl
  · exact .mark rfl
  · exact .mark rfl
  · exact .mark rfl
  · exact .mark rfl
  · exact .mark rfl
  · exact .mark rfl
  · exact .mark rfl
  · exact .mark rfl
  · split
    · exact .other (numeric_other _)
    · exact .other rfl
  · split
    · exact .other (numeric_other _)
    · exact .other rfl
  · unfold minus
    split
    · exact .other (numeric_other _)
    · split
      · exact .other rfl
      · split
        · exact .word ‹_›
        · exact .other rfl
  · exact .other (slash_other _)
  · exact .other (less_other _)
  · split
    · exact .keyword rfl
    · exact .other rfl
  · split
    · exact .other rfl
    · rename_i apart
      exact .word (by simp [startsName,apart])
  · exact .other rfl

end Scan

-- A lexeme that was read from some text.
def Genuine (l : Lexeme) : Prop := ∃ c f t, l.text = c :: f ∧ Scan.token c (f ++ t) = (l.token,t)

theorem lexemes_genuine (s : Text) : ∀ l ∈ lexemes s, Genuine l := by
  induction size : s.length using Nat.strongRecOn generalizing s with
  | ind n ih =>
    intro l inside
    cases read : lexemes s with
    | nil => rw [read] at inside; cases inside
    | cons first more =>
      obtain ⟨c,f,t,rfl,scanned,rfl,later⟩ := lexemes_first read
      rw [read] at inside
      rcases List.mem_cons.mp inside with rfl | among
      · exact ⟨c,f,t,rfl,Prod.ext rfl scanned⟩
      · exact ih t.length (by rw [← size,List.length_cons,List.length_append]; omega) t rfl l (later ▸ among)

namespace Genuine

theorem mark (genuine : Genuine l) (kind : l.token.kind = .mark d) : l.text = [d] := by
  obtain ⟨c,f,t,text,scanned⟩ := genuine
  have origin := Scan.token_origin c (f ++ t)
  rw [scanned] at origin
  generalize same : (l.token,t) = read at origin
  cases origin with
  | mark alike =>
    obtain ⟨rfl,behind⟩ := Prod.mk.inj same
    have empty : f = [] := List.append_cancel_right (show f ++ t = [] ++ t from behind.symm)
    rw [kind] at alike
    cases alike
    rw [text,empty]
  | word =>
    have alike := Scan.identLike_kind (c :: (f ++ t))
    rw [← same,kind] at alike
    rcases alike with alike | alike <;> cases alike
  | keyword | blank => obtain ⟨head,_⟩ := Prod.mk.inj same; rw [head] at kind; cases kind
  | other alike => rw [← same,kind] at alike; cases alike

-- The name of an identifier is read from its text, escapes included.
theorem ident (genuine : Genuine l) (token : l.token = .ident n) : ∃ t, Scan.name (l.text ++ t) = (n,t) := by
  obtain ⟨c,f,t,text,scanned⟩ := genuine
  have origin := Scan.token_origin c (f ++ t)
  rw [scanned,token] at origin
  generalize same : (Token.ident n,t) = read at origin
  cases origin with
  | word =>
    refine ⟨t,?_⟩
    rw [text,List.cons_append]
    unfold Scan.identLike at same
    split at same
    · rename_i inner named
      split at same
      · cases found : Scan.address? inner with
        | none => rw [found] at same; cases same
        | some r =>
          have kind := Scan.address?_kind found
          rw [found] at same
          rw [show r = (Token.ident n,t) from same.symm] at kind
          cases kind
      · cases same
    · rename_i named
      cases same
      exact named
  | mark kind => obtain ⟨rfl,_⟩ := Prod.mk.inj same; cases kind
  | keyword | blank => cases same
  | other kind => rw [← same] at kind; cases kind

theorem keyword (genuine : Genuine l) (token : l.token = .atKeyword n) :
    ∃ f t, l.text = '@' :: f ∧ Scan.name (f ++ t) = (n,t) := by
  obtain ⟨c,f,t,text,scanned⟩ := genuine
  have origin := Scan.token_origin c (f ++ t)
  rw [scanned,token] at origin
  generalize same : (Token.atKeyword n,t) = read at origin
  cases origin with
  | keyword at' =>
    obtain ⟨value,behind⟩ := Prod.mk.inj same
    cases value
    exact ⟨f,t,by rw [text,at'],Prod.ext rfl behind.symm⟩
  | mark kind => obtain ⟨rfl,_⟩ := Prod.mk.inj same; cases kind
  | word =>
    have kind := Scan.identLike_kind (c :: (f ++ t))
    rw [← same] at kind
    rcases kind with kind | kind <;> cases kind
  | blank => cases same
  | other kind => rw [← same] at kind; cases kind

theorem blank (genuine : Genuine l) (first : l.text = c :: s) (ink : isAsciiBlank c = true) :
    l.token = .blank ∧ ∀ d ∈ l.text, isAsciiBlank d = true := by
  obtain ⟨e,f,t,text,scanned⟩ := genuine
  obtain ⟨rfl,rfl⟩ := List.cons.inj (first.symm.trans text)
  unfold Scan.token at scanned
  rw [if_pos ink] at scanned
  obtain ⟨token,behind⟩ := Prod.mk.inj scanned
  refine ⟨token.symm,fun d inside => ?_⟩
  rw [first] at inside
  rcases List.mem_cons.mp inside with rfl | inside
  · exact ink
  · have whole := List.takeWhile_append_dropWhile (p := isAsciiBlank) (l := s ++ t)
    rw [behind] at whole
    rw [← List.append_cancel_right whole] at inside
    exact List.all_eq_true.mp List.all_takeWhile d inside

-- A lexeme that begins with a mark is that mark.
theorem of_mark (genuine : Genuine l) {m : Token} (alone : ∀ s, Scan.token c s = (m,s)) (first : l.text = c :: s) :
    l.token = m := by
  obtain ⟨e,f,t,text,scanned⟩ := genuine
  obtain ⟨rfl,rfl⟩ := List.cons.inj (first.symm.trans text)
  rw [alone] at scanned
  exact (Prod.mk.inj scanned).1.symm

end Genuine
end StyleTrim.Css
