import StyleTrim.Json
namespace StyleTrim
open Text

-- The pieces of a text between its blanks. A text may name characters that do not exist.
-- Whatever is no token ends the list.
inductive Json.Token where
  | mark (c : Char)
  | text (value : Option Text)
  | scalar (value : Json)
  | stray
deriving Repr

inductive Json.Written where
  | char (c : Char)
  | unit (n : Nat)
deriving Repr

namespace Json

def isBlank (c : Char) : Bool := c = ' ' || c = '\n' || c = '\t' || c = '\r'

def escaped? (c : Char) : Option Char :=
  if c = '"' || c = '\\' || c = '/' then some c
  else if c = 'b' then some '\x08'
  else if c = 'f' then some '\x0c'
  else if c = 'n' then some '\n'
  else if c = 'r' then some '\r'
  else if c = 't' then some '\t'
  else none

def written? : Text → Option (List Written × Text)
  | [] => none
  | '"' :: s => some ([],s)
  | '\\' :: 'u' :: a :: b :: c :: d :: s =>
    match [a,b,c,d].mapM hexValue? with
    | some values => (written? s).map fun r => (.unit (valueOf 16 values) :: r.1,r.2)
    | none => none
  | '\\' :: c :: s =>
    match escaped? c with
    | some e => (written? s).map fun r => (.char e :: r.1,r.2)
    | none => none
  | c :: s => if c = '\\' || c.val < 0x20 then none else (written? s).map fun r => (.char c :: r.1,r.2)

def pair? (high low : Nat) : Option Char :=
  if 0xd800 ≤ high && high < 0xdc00 && 0xdc00 ≤ low && low < 0xe000 then
    charOf? (0x10000 + (high - 0xd800) * 0x400 + (low - 0xdc00))
  else none

def meant? : List Written → Option Text
  | [] => some []
  | .char c :: more => (meant? more).map (c :: ·)
  | .unit n :: more =>
    match charOf? n with
    | some c => (meant? more).map (c :: ·)
    | none => match more with
      | .unit low :: more => (pair? n low).bind fun c => (meant? more).map (c :: ·)
      | _ => none

theorem written_length (s : Text) {w : List Written} {r : Text} (h : written? s = some (w,r)) :
    r.length < s.length := by
  fun_induction written? s generalizing w r with
  | case1 => simp at h
  | case2 s => simp at h; simp [← h.2]
  | case3 a b c d s _ _ ih | case5 c s _ _ _ ih | case8 c s _ _ _ _ ih =>
    simp only [Option.map_eq_some_iff,Prod.mk.injEq] at h
    obtain ⟨p,hp,_,rfl⟩ := h
    have := ih hp
    simp; omega
  | case4 | case6 | case7 => simp at h

def word? : Text → Option (Json × Text)
  | 't' :: 'r' :: 'u' :: 'e' :: s => some (.bool true,s)
  | 'f' :: 'a' :: 'l' :: 's' :: 'e' :: s => some (.bool false,s)
  | 'n' :: 'u' :: 'l' :: 'l' :: s => some (.null,s)
  | s => (numeral? s).map fun n => (((n.1.number?).map Json.number).getD .unreadable,n.2)

def token? : Text → Option (Token × Text)
  | [] => none
  | '"' :: s => (written? s).map fun r => (.text (meant? r.1),r.2)
  | c :: s =>
    if "[]\x7b\x7d,:".toList.any (· = c) then some (.mark c,s)
    else (word? (c :: s)).map fun r => (.scalar r.1,r.2)

theorem word_length {s : Text} {w : Json × Text} (h : word? s = some w) : w.2.length < s.length := by
  unfold word? at h
  split at h
  case h_4 =>
    simp only [Option.map_eq_some_iff] at h
    obtain ⟨n,hn,rfl⟩ := h
    exact numeral_length hn
  all_goals
    simp only [Option.some.injEq] at h
    simp only [← h,List.length_cons]; omega

theorem token_length {s : Text} {t : Token × Text} (h : token? s = some t) : t.2.length < s.length := by
  unfold token? at h
  split at h
  · simp at h
  · simp only [Option.map_eq_some_iff] at h
    obtain ⟨r,hr,rfl⟩ := h
    have := written_length _ hr
    simp only [List.length_cons]; omega
  · split at h
    · simp only [Option.some.injEq] at h; simp [← h]
    · simp only [Option.map_eq_some_iff] at h
      obtain ⟨r,hr,rfl⟩ := h
      exact word_length hr

def tokens (s : Text) : List Token :=
  let s' := s.dropWhile isBlank
  if s'.isEmpty then []
  else match _h : token? s' with
    | none => [.stray]
    | some t => t.1 :: tokens t.2
termination_by s.length
decreasing_by
  have := token_length _h
  have : s'.length ≤ s.length := (List.dropWhile_suffix _).length_le
  omega

end Json
end StyleTrim
