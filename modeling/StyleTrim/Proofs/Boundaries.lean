import StyleTrim.Proofs.Places
namespace StyleTrim.Css
open Text

-- A scanner that stops in front of a delimiter does not look behind it: with another delimiter
-- there, or the end of the text, it reads the same.

-- The delimiters of sheets and selectors that can be part of no name, number or blank.
def isStop (c : Char) : Bool := c = ';' || c = '\x7b' || c = '\x7d' || c = ',' || c = ':'

-- Text behind a piece that could have been read: a delimiter and more.
def Stopped (z : Text) : Prop := ∃ d v, z = d :: v ∧ isStop d = true
def Bounded (z : Text) : Prop := z = [] ∨ Stopped z

-- A scanner for which the above holds.
def Local (f : Text → α × Text) : Prop :=
  ∀ ⦃u z z' w : Text⦄, Stopped z → Bounded z' → (f (u ++ z)).2 = w ++ z → f (u ++ z') = ((f (u ++ z)).1,w ++ z')

variable {c d : Char} {s u v w z z' r rest n : Text} {α : Type}

theorem Stopped.bounded (stopped : Stopped z) : Bounded z := .inr stopped

theorem isStop_cases (stop : isStop d = true) : d = ';' ∨ d = '\x7b' ∨ d = '\x7d' ∨ d = ',' ∨ d = ':' := by
  simpa [isStop,or_assoc] using stop

theorem isStop_ne (stop : isStop d = true) (other : isStop c = false) : d ≠ c := by
  intro same
  rw [same,other] at stop
  cases stop

-- Everything that scanners ask of a character fails for a delimiter.
theorem isStop_plain (stop : isStop d = true) :
    hexValue? d = none ∧ isDigit d = false ∧ Scan.isNameStart d = false ∧ Scan.isNameChar d = false ∧
      isAsciiBlank d = false ∧ isNewline d = false := by
  rcases isStop_cases stop with rfl | rfl | rfl | rfl | rfl <;> decide

-- What is left of a text that ends with `z` is longer than `z` or the same.
theorem rest_cons (left : r <:+ v) : r ≠ w ++ d :: v := by
  intro same
  have := left.length_le
  simp [same] at this
  omega

theorem rest_append (left : w ++ z <:+ r) (whole : r <:+ u ++ z) : ∃ f t, u = f ++ t ∧ r = t ++ z := by
  obtain ⟨t,same⟩ := (List.suffix_append w z).trans left
  obtain ⟨f,all⟩ := whole
  refine ⟨f,t,?_,same.symm⟩
  rw [← same,← List.append_assoc] at all
  exact (List.append_cancel_right all).symm

theorem frontOf_front (f : Text) (z : Text) : frontOf z (f ++ z) = f :=
  List.append_cancel_right (frontOf_append (List.suffix_append f z))

theorem frontOf_behind (left : r <:+ u) (z : Text) : frontOf (r ++ z) (u ++ z) = frontOf r u := by
  obtain ⟨f,rfl⟩ := left
  rw [frontOf_front,List.append_assoc,frontOf_front]

namespace Scan

theorem bounded_dropWhile {p : Char → Bool} (plain : ∀ d, isStop d = true → p d = false) (bounded : Bounded z) (u : Text) :
    (u ++ z).dropWhile p = u.dropWhile p ++ z ∧ (u ++ z).takeWhile p = u.takeWhile p := by
  induction u with
  | nil =>
    rcases bounded with rfl | ⟨d,v,rfl,stop⟩
    · exact ⟨rfl,rfl⟩
    · simp [plain d stop]
  | cons c u ih =>
    cases holds : p c with
    | true => simp [holds,ih]
    | false => simp [holds]

theorem startsNewline_bounded (bounded : Bounded z) : startsNewline (u ++ z) = startsNewline u := by
  cases u with
  | cons => rfl
  | nil =>
    rcases bounded with rfl | ⟨d,v,rfl,stop⟩
    · rfl
    · exact (isStop_plain stop).2.2.2.2.2

theorem startsName_bounded (bounded : Bounded z) : startsName (u ++ z) = startsName u := by
  rcases bounded with rfl | ⟨d,v,rfl,stop⟩
  · rw [List.append_nil]
  · obtain ⟨_,_,start,_,_,newline⟩ := isStop_plain stop
    cases u with
    | nil => rcases isStop_cases stop with rfl | rfl | rfl | rfl | rfl <;> rfl
    | cons c u =>
      cases u with
      | cons e u =>
        by_cases minus : c = '-'
        · subst minus; rfl
        · by_cases escape : c = '\\'
          · subst escape; rfl
          · simp [startsName,minus]
      | nil =>
        by_cases minus : c = '-'
        · subst minus
          rcases isStop_cases stop with rfl | rfl | rfl | rfl | rfl <;> rfl
        · by_cases escape : c = '\\'
          · subst escape; simp [startsName,startsNewline,newline]
          · simp [startsName,minus]

theorem startsNumber_bounded (bounded : Bounded z) : startsNumber (u ++ z) = startsNumber u := by
  rcases bounded with rfl | ⟨d,v,rfl,stop⟩
  · rw [List.append_nil]
  · cases u with
    | nil => rcases isStop_cases stop with rfl | rfl | rfl | rfl | rfl <;> rfl
    | cons c u =>
      cases u with
      | cons e u => by_cases point : c = '.' <;> simp [startsNumber,point]
      | nil =>
        by_cases point : c = '.'
        · subst point
          rcases isStop_cases stop with rfl | rfl | rfl | rfl | rfl <;> rfl
        · simp [startsNumber,point]

-- Where an escape is over, whatever was read of it.
def Edge (z : Text) : Prop := ∀ c ∈ z.head?, hexValue? c = none ∧ isAsciiBlank c = false

theorem edge_cons (hex : hexValue? c = none) (ink : isAsciiBlank c = false) (s : Text) : Edge (c :: s) := by
  rintro _ ⟨⟩
  exact ⟨hex,ink⟩

end Scan

theorem Bounded.edge (bounded : Bounded z) : Scan.Edge z := by
  rcases bounded with rfl | ⟨d,v,rfl,stop⟩
  · nofun
  · obtain ⟨hex,_,_,_,ink,_⟩ := isStop_plain stop
    exact Scan.edge_cons hex ink v

namespace Scan

theorem oneBlank_edge (edge : Edge z) : oneBlank z = z := by
  cases z with
  | nil => rfl
  | cons d v =>
    obtain ⟨_,ink⟩ := edge d rfl
    have carriage : d ≠ '\r' := by rintro rfl; cases ink
    simp [oneBlank,carriage,ink]

theorem oneBlank_other (carriage : c ≠ '\r') (s : Text) : oneBlank (c :: s) = if isAsciiBlank c then s else c :: s := by
  simp [oneBlank,carriage]

theorem oneBlank_carriage (other : c ≠ '\n') (s : Text) : oneBlank ('\r' :: c :: s) = c :: s := by
  simp [oneBlank,other,isAsciiBlank]

theorem oneBlank_past (edge : Edge z) (u : Text) : oneBlank (u ++ z) = oneBlank u ++ z := by
  cases u with
  | nil => exact oneBlank_edge edge
  | cons c u =>
    by_cases carriage : c = '\r'
    · subst carriage
      cases u with
      | cons e u => by_cases feed : e = '\n' <;> simp [oneBlank,feed,isAsciiBlank]
      | nil =>
        cases z with
        | nil => rfl
        | cons d v =>
          have feed : d ≠ '\n' := by
            rintro rfl
            cases (edge _ rfl).2
          exact oneBlank_carriage feed v
    · rw [List.cons_append,oneBlank_other carriage,oneBlank_other carriage]
      split <;> rfl

theorem hexDigits_edge (n : Nat) (edge : Edge z) : hexDigits n z = ([],z) := by
  cases n with
  | zero => rw [hexDigits]
  | succ n =>
    cases z with
    | nil => rfl
    | cons d v => rw [hexDigits,(edge d rfl).1]

theorem hexDigits_past (edge : Edge z) (n : Nat) (u : Text) : hexDigits n (u ++ z) = ((hexDigits n u).1,(hexDigits n u).2 ++ z) := by
  induction n generalizing u with
  | zero => rw [hexDigits,hexDigits]
  | succ n ih =>
    cases u with
    | nil => exact hexDigits_edge _ edge
    | cons c u =>
      rw [List.cons_append,hexDigits,hexDigits]
      cases hexValue? c with
      | none => rfl
      | some v => dsimp only; rw [ih]

-- An escape takes any character, a delimiter too, but not the end of what is there.
theorem escape_past (edge : Edge z) (some : u ≠ []) : escape (u ++ z) = ((escape u).1,(escape u).2 ++ z) := by
  cases u with
  | nil => exact absurd rfl some
  | cons c u =>
    rw [List.cons_append,escape,escape]
    cases hexValue? c with
    | none => rfl
    | some v => dsimp only; rw [hexDigits_past edge,oneBlank_past edge]

theorem escape_stop (d : Char) (v : Text) (stop : isStop d = true) : (escape (d :: v)).2 = v := by
  rw [escape,(isStop_plain stop).1]

theorem name_stop (bounded : Bounded z) : name z = ([],z) := by
  rcases bounded with rfl | ⟨d,v,rfl,stop⟩
  · rw [name]
  · rw [name,if_neg (isStop_ne stop (by decide)),if_neg]
    simp [(isStop_plain stop).2.2.2.1]

theorem name_local : Local name := by
  intro u z z' w stopped bounded read
  induction size : u.length using Nat.strongRecOn generalizing u with
  | ind n ih =>
    cases u with
    | nil =>
      rw [List.nil_append,name_stop stopped.bounded] at read
      rw [List.nil_append,List.nil_append,name_stop stopped.bounded,name_stop bounded,
        ← List.append_cancel_right (show [] ++ z = w ++ z from read)]
      rfl
    | cons c u =>
      rw [List.cons_append,name] at read ⊢
      rw [List.cons_append,name]
      by_cases backslash : c = '\\'
      · rw [if_pos backslash,startsNewline_bounded stopped.bounded] at read ⊢
        rw [if_pos backslash,startsNewline_bounded bounded]
        cases newline : startsNewline u with
        | true =>
          simp only [newline,↓reduceIte] at read ⊢
          rw [← List.append_cancel_right (show (c :: u) ++ z = w ++ z from read)]
          rfl
        | false =>
          simp only [newline,Bool.false_eq_true,↓reduceIte,Step.push_rest] at read ⊢
          cases u with
          | nil =>
            obtain ⟨d,v,rfl,stop⟩ := stopped
            rw [List.nil_append,escape_stop d v stop] at read
            exact absurd read (rest_cons (name_suffix v))
          | cons e u =>
            rw [escape_past stopped.bounded.edge (by simp)] at read ⊢
            rw [escape_past bounded.edge (by simp)]
            have shorter := (escape_suffix (e :: u)).length_le
            rw [Step.push,ih _ (by simp_all; omega) read rfl]
            rfl
      · rw [if_neg backslash] at read ⊢
        rw [if_neg backslash]
        cases part : isNameChar c with
        | true =>
          simp only [part,↓reduceIte,Step.push_rest] at read ⊢
          rw [Step.push,ih _ (by simp [← size]) read rfl]
          rfl
        | false =>
          simp only [part,Bool.false_eq_true,↓reduceIte] at read ⊢
          rw [← List.append_cancel_right (show (c :: u) ++ z = w ++ z from read)]
          rfl

-- A delimiter is never part of what is looked for ahead.
theorem bounded_prefix (bounded : Bounded z) (ahead : Text) (other : ∀ c ∈ ahead, isStop c = false) (u : Text)
    (apart : ∀ s, u ≠ ahead ++ s) : ∀ s, u ++ z ≠ ahead ++ s := by
  induction ahead generalizing u with
  | nil => exact absurd rfl (apart u)
  | cons c ahead ih =>
    intro s same
    cases u with
    | cons e u =>
      obtain ⟨rfl,rest⟩ := List.cons.inj same
      exact ih (fun d inside => other d (List.mem_cons_of_mem _ inside)) u (fun t equal => apart t (by rw [equal]; rfl)) s rest
    | nil =>
      rcases bounded with rfl | ⟨d,v,rfl,stop⟩
      · cases same
      · exact isStop_ne stop (other c List.mem_cons_self) (List.cons.inj same).1

theorem bounded_head (bounded : Bounded z) (other : isStop c = false) (u : Text)
    (apart : ∀ s, u ≠ c :: s) : ∀ s, u ++ z ≠ c :: s :=
  bounded_prefix bounded [c] (by simpa using other) u apart

theorem afterComment_local (stopped : Stopped z) (bounded : Bounded z') (read : afterComment (u ++ z) = w ++ z) :
    afterComment (u ++ z') = w ++ z' := by
  induction u using afterComment.induct with
  | case1 u =>
    have same : u = w := List.append_cancel_right (show u ++ z = w ++ z by simpa [afterComment] using read)
    simp [afterComment,same]
  | case2 c u other ih =>
    have apart : c = '*' → ∀ s, u ≠ '/' :: s := fun star s same => other s star same
    have step : ∀ y, Bounded y → afterComment (c :: (u ++ y)) = afterComment (u ++ y) := by
      intro y bounded
      rw [afterComment]
      exact fun s star => bounded_head bounded (by decide) u (apart star) s
    rw [List.cons_append,step z stopped.bounded] at read
    rw [List.cons_append,step z' bounded]
    exact ih read
  | case3 =>
    obtain ⟨d,v,rfl,stop⟩ := stopped
    rw [List.nil_append,afterComment] at read
    · exact absurd read (rest_cons (afterComment_suffix v))
    · exact fun s star => absurd star (isStop_ne stop (by decide))

theorem badAddress_past (stop : isStop d = true) : badAddress (d :: v) ≠ w ++ d :: v := by
  intro read
  rw [badAddress] at read
  · exact rest_cons (badAddress_suffix v) read
  · exact isStop_ne stop (by decide)
  · exact fun _ backslash => absurd backslash (isStop_ne stop (by decide))
  · exact fun _ backslash => absurd backslash (isStop_ne stop (by decide))

theorem badAddress_local (stopped : Stopped z) (bounded : Bounded z') (read : badAddress (u ++ z) = w ++ z) :
    badAddress (u ++ z') = w ++ z' := by
  induction u using badAddress.induct with
  | case1 =>
    obtain ⟨d,v,rfl,stop⟩ := stopped
    exact absurd read (badAddress_past stop)
  | case2 u =>
    have same : ')' :: u = w := List.append_cancel_right (show ')' :: u ++ z = w ++ z by simpa [badAddress] using read)
    simp [badAddress,← same]
  | case3 u ih | case4 u ih =>
    simp only [List.cons_append,badAddress] at read ⊢
    exact ih read
  | case5 c u open' paren double ih =>
    have step : ∀ y, Bounded y → badAddress (c :: (u ++ y)) = badAddress (u ++ y) := by
      intro y bounded
      rw [badAddress]
      · exact open'
      · exact fun s backslash => bounded_head bounded (by decide) u (fun t same => paren t backslash same) s
      · exact fun s backslash => bounded_head bounded (by decide) u (fun t same => double t backslash same) s
    rw [List.cons_append,step z stopped.bounded] at read
    rw [List.cons_append,step z' bounded]
    exact ih read

-- What is left of an address that cannot be read is its parenthesis, if anything.
theorem badAddress_left (s : Text) : badAddress s = [] ∨ ∃ t, badAddress s = ')' :: t := by
  fun_induction badAddress s with
  | case1 => exact .inl rfl
  | case2 s => exact .inr ⟨s,rfl⟩
  | case3 s ih | case4 s ih => exact ih
  | case5 c s _ _ _ ih => exact ih

theorem quoted_escape (mark : Char) (apart : c = '\r' → ∀ t, s ≠ '\n' :: t) : quoted mark ('\\' :: c :: s) =
    if isNewline c then quoted mark s
    else Quoted.push (escape (c :: s)).1 (quoted mark (escape (c :: s)).2) := by
  rw [quoted]
  exact fun t carriage => apart carriage t

theorem quoted_plain (mark : Char) (plain : c ≠ '\\') : quoted mark (c :: s) =
    if c = mark then (⟨[],true⟩,s) else if isNewline c then (⟨[],false⟩,c :: s)
    else Quoted.push (meant c) (quoted mark s) := by
  rw [quoted]
  · exact fun backslash _ => plain backslash
  · exact fun _ backslash => absurd backslash plain
  · exact fun _ _ backslash => absurd backslash plain

theorem unescaped (lone : c = '\\' → s = [] → False) (pair : ∀ d t, c = '\\' → s = d :: t → False) : c ≠ '\\' := by
  intro backslash
  cases s with
  | nil => exact lone backslash rfl
  | cons d t => exact pair d t backslash rfl

theorem quoted_local (mark : Char) (quote : isStop mark = false) : Local (quoted mark) := by
  intro u z z' w stopped bounded read
  induction u using quoted.induct mark with
  | case1 =>
    obtain ⟨d,v,rfl,stop⟩ := stopped
    rw [List.nil_append,quoted_plain mark (isStop_ne stop (by decide)),if_neg (isStop_ne stop quote)] at read
    simp only [(isStop_plain stop).2.2.2.2.2,Bool.false_eq_true,↓reduceIte,Quoted.push_rest] at read
    exact absurd read (rest_cons (quoted_suffix mark v))
  | case2 =>
    obtain ⟨d,v,rfl,stop⟩ := stopped
    have carriage : d ≠ '\r' := isStop_ne stop (by decide)
    rw [List.cons_append,List.nil_append,quoted_escape mark fun same => absurd same carriage] at read
    simp only [(isStop_plain stop).2.2.2.2.2,Bool.false_eq_true,↓reduceIte,Quoted.push_rest,escape_stop d v stop] at read
    exact absurd read (rest_cons (quoted_suffix mark v))
  | case3 u ih =>
    simp only [List.cons_append,quoted] at read ⊢
    exact ih read
  | case4 c u apart newline ih =>
    have step : ∀ y, Bounded y → quoted mark ('\\' :: c :: (u ++ y)) = quoted mark (u ++ y) := by
      intro y bounded
      rw [quoted_escape mark,if_pos newline]
      exact fun carriage => bounded_head bounded (by decide) u fun t => apart t carriage
    simp only [List.cons_append] at read ⊢
    rw [step z stopped.bounded] at read ⊢
    rw [step z' bounded]
    exact ih read
  | case5 c u apart newline ih =>
    have step : ∀ y, Bounded y → quoted mark ('\\' :: c :: (u ++ y)) =
        Quoted.push (escape (c :: u)).1 (quoted mark ((escape (c :: u)).2 ++ y)) := by
      intro y bounded
      have taken := escape_past bounded.edge (show c :: u ≠ [] by simp)
      rw [List.cons_append] at taken
      rw [quoted_escape mark,if_neg newline,taken]
      exact fun carriage => bounded_head bounded (by decide) u fun t => apart t carriage
    simp only [List.cons_append] at read ⊢
    rw [step z stopped.bounded] at read ⊢
    rw [step z' bounded,Quoted.push,ih read]
    rfl
  | case6 u lone _ pair =>
    have plain : mark ≠ '\\' := unescaped lone pair
    have step : ∀ y, quoted mark (mark :: (u ++ y)) = (⟨[],true⟩,u ++ y) := by
      intro y
      rw [quoted_plain mark plain,if_pos rfl]
    simp only [List.cons_append] at read ⊢
    rw [step z] at read ⊢
    rw [step z',← List.append_cancel_right read]
  | case7 c u lone _ pair other newline =>
    have step : ∀ y, quoted mark (c :: (u ++ y)) = (⟨[],false⟩,c :: (u ++ y)) := by
      intro y
      rw [quoted_plain mark (unescaped lone pair),if_neg other,if_pos newline]
    simp only [List.cons_append] at read ⊢
    rw [step z] at read ⊢
    rw [step z',← List.append_cancel_right (show (c :: u) ++ z = w ++ z from read)]
    rfl
  | case8 c u lone _ pair other newline ih =>
    have step : ∀ y, quoted mark (c :: (u ++ y)) = Quoted.push (meant c) (quoted mark (u ++ y)) := by
      intro y
      rw [quoted_plain mark (unescaped lone pair),if_neg other,if_neg newline]
    simp only [List.cons_append] at read ⊢
    rw [step z] at read ⊢
    rw [step z',Quoted.push,ih read]
    rfl

theorem addressEnd_plain (value : Text) (other : c ≠ ')') : addressEnd value (c :: s) =
    if isAsciiBlank c then addressEnd value s else (none,badAddress s) := by
  rw [addressEnd]
  exact other

theorem addressEnd_local (value : Text) : Local (addressEnd value) := by
  intro u z z' w stopped bounded read
  induction u with
  | nil =>
    obtain ⟨d,v,rfl,stop⟩ := stopped
    have inked : ¬isAsciiBlank d = true := by simp [(isStop_plain stop).2.2.2.2.1]
    rw [List.nil_append,addressEnd_plain value (isStop_ne stop (by decide)),if_neg inked] at read
    exact absurd read (rest_cons (badAddress_suffix v))
  | cons c u ih =>
    simp only [List.cons_append] at read ⊢
    by_cases paren : c = ')'
    · subst paren
      simp only [addressEnd] at read ⊢
      rw [List.append_cancel_right read]
    · rw [addressEnd_plain value paren] at read ⊢
      rw [addressEnd_plain value paren]
      by_cases blank : isAsciiBlank c = true
      · rw [if_pos blank] at read ⊢
        rw [if_pos blank]
        exact ih read
      · rw [if_neg blank] at read ⊢
        rw [if_neg blank]
        exact congrArg (none,·) (badAddress_local stopped bounded read)

-- What a character does to an address, whatever was read before and whatever follows.
inductive AddressLetter (c : Char) : Prop where
  | closes (step : ∀ b s, addressFrom b (c :: s) = (some b.reverse,s))
  | blank (step : ∀ b s, addressFrom b (c :: s) = addressEnd b.reverse (c :: s))
  | spoils (step : ∀ b s, addressFrom b (c :: s) = (none,badAddress s))
  | escapes (backslash : c = '\\') (step : ∀ b s, addressFrom b (c :: s) =
      if startsNewline s then (none,badAddress s) else addressFrom ((escape s).1 :: b) (escape s).2)
  | adds (step : ∀ b s, addressFrom b (c :: s) = addressFrom (meant c :: b) s)

theorem addressLetter (c : Char) : AddressLetter c := by
  by_cases paren : c = ')'
  · exact .closes fun b s => by rw [addressFrom,if_pos paren]
  by_cases blank : isAsciiBlank c = true
  · exact .blank fun b s => by rw [addressFrom,if_neg paren,if_pos blank]
  by_cases bad : (isUnprintable c || c = '"' || c = '\'' || c = '(') = true
  · exact .spoils fun b s => by rw [addressFrom,if_neg paren,if_neg blank,if_pos bad]
  by_cases backslash : c = '\\'
  · exact .escapes backslash fun b s => by rw [addressFrom,if_neg paren,if_neg blank,if_neg bad,if_pos backslash]
  · exact .adds fun b s => by rw [addressFrom,if_neg paren,if_neg blank,if_neg bad,if_neg backslash]

theorem addressFrom_stop (before : Text) (stop : isStop d = true) :
    addressFrom before (d :: v) = addressFrom (meant d :: before) v := by
  have inked : ¬isAsciiBlank d = true := by simp [(isStop_plain stop).2.2.2.2.1]
  have fits : ¬(isUnprintable d || d = '"' || d = '\'' || d = '(') = true := by
    rcases isStop_cases stop with rfl | rfl | rfl | rfl | rfl <;> decide
  rw [addressFrom,if_neg (isStop_ne stop (by decide)),if_neg inked,if_neg fits,if_neg (isStop_ne stop (by decide))]

theorem addressFrom_past (before : Text) (stop : isStop d = true) : (addressFrom before (d :: v)).2 ≠ w ++ d :: v :=
  rest_cons (addressFrom_stop before stop ▸ addressFrom_suffix _ v)

theorem addressFrom_local (before : Text) : Local (addressFrom before) := by
  intro u z z' w stopped bounded read
  induction size : u.length using Nat.strongRecOn generalizing u before with
  | ind n ih =>
    cases u with
    | nil =>
      obtain ⟨d,v,rfl,stop⟩ := stopped
      exact absurd read (addressFrom_past before stop)
    | cons c u =>
      simp only [List.cons_append] at read ⊢
      cases addressLetter c with
      | closes step =>
        rw [step] at read ⊢
        rw [step,← List.append_cancel_right read]
      | blank step =>
        rw [step] at read ⊢
        rw [step]
        exact addressEnd_local _ (u := c :: u) stopped bounded read
      | spoils step =>
        rw [step] at read ⊢
        rw [step]
        exact congrArg (none,·) (badAddress_local stopped bounded read)
      | adds step =>
        rw [step] at read ⊢
        rw [step]
        exact ih _ (by simp [← size]) _ read rfl
      | escapes _ step =>
        rw [step,startsNewline_bounded stopped.bounded] at read
        rw [step,step,startsNewline_bounded stopped.bounded,startsNewline_bounded bounded]
        by_cases newline : startsNewline u = true
        · rw [if_pos newline] at read ⊢
          rw [if_pos newline]
          exact congrArg (none,·) (badAddress_local stopped bounded read)
        · rw [if_neg newline] at read ⊢
          rw [if_neg newline]
          cases u with
          | nil =>
            obtain ⟨d,v,rfl,stop⟩ := stopped
            rw [List.nil_append,escape_stop d v stop] at read
            exact absurd read (rest_cons (addressFrom_suffix _ v))
          | cons e u =>
            rw [escape_past stopped.bounded.edge (by simp)] at read ⊢
            rw [escape_past bounded.edge (by simp)]
            have shorter := (escape_suffix (e :: u)).length_le
            exact ih _ (by simp [← size] at shorter ⊢; omega) _ read rfl

theorem addressEnd_left (value s : Text) (bad : (addressEnd value s).1 = none) :
    (addressEnd value s).2 = [] ∨ ∃ t, (addressEnd value s).2 = ')' :: t := by
  fun_induction addressEnd value s with
  | case1 | case2 => cases bad
  | case3 c s _ _ ih => exact ih bad
  | case4 c s => exact badAddress_left s

theorem addressFrom_left (before s : Text) (bad : (addressFrom before s).1 = none) :
    (addressFrom before s).2 = [] ∨ ∃ t, (addressFrom before s).2 = ')' :: t := by
  fun_induction addressFrom before s with
  | case1 | case2 => cases bad
  | case3 before c s => exact addressEnd_left _ _ bad
  | case4 before c s | case5 before s => exact badAddress_left s
  | case6 before s _ _ _ _ ih => exact ih bad
  | case7 before c s _ _ _ _ ih => exact ih bad

theorem unquoted_good {value : Text} (read : addressFrom [] s = (some value,rest)) : unquoted s = (.address value,rest) := by
  rw [unquoted,read]

theorem unquoted_bad (read : addressFrom [] s = (none,rest)) : unquoted s = (.badAddress (frontOf rest s),rest.drop 1) := by
  rw [unquoted,read]

theorem unquoted_past (stop : isStop d = true) : (unquoted (d :: v)).2 ≠ w ++ d :: v :=
  rest_cons ((unquoted_suffix _).trans (addressFrom_stop [] stop ▸ addressFrom_suffix _ v))

theorem unquoted_local : Local unquoted := by
  intro u z z' w stopped bounded read
  have left := addressFrom_suffix [] (u ++ z)
  have closes := addressFrom_left [] (u ++ z)
  have again (w : Text) := addressFrom_local [] (u := u) (w := w) stopped bounded
  cases found : addressFrom [] (u ++ z) with
  | mk value? rest =>
    rw [found] at left closes
    simp only [found] at again
    cases value? with
    | some value =>
      rw [unquoted_good found] at read ⊢
      rw [unquoted_good (again w read)]
    | none =>
      rw [unquoted_bad found] at read ⊢
      dsimp only at read left ⊢
      rcases closes rfl with nothing | ⟨t,closed⟩
      · obtain ⟨d,v,rfl,_⟩ := stopped
        rw [show rest = [] from nothing] at read
        exact absurd read (by simp)
      · obtain rfl : rest = ')' :: t := closed
        obtain rfl : t = w ++ z := read
        obtain ⟨f,_,split,same⟩ := rest_append (w := ')' :: w) (u := u) List.suffix_rfl left
        have inner : ')' :: w <:+ u := ⟨f,by rw [split,← List.append_cancel_right (show (')' :: w) ++ z = _ ++ z from same)]⟩
        rw [unquoted_bad (again (')' :: w) rfl),frontOf_behind inner,← List.cons_append,frontOf_behind inner]
        rfl

theorem ink_ends (stop : isStop d = true) : isAsciiBlank d = false := (isStop_plain stop).2.2.2.2.1

theorem address?_closed (inked : s.dropWhile isAsciiBlank = ')' :: rest) : address? s = some (.address [],rest) := by
  unfold address?
  rw [inked]
  rfl

theorem address?_open (inked : s.dropWhile isAsciiBlank = c :: rest) (other : c ≠ ')') :
    address? s = if c = '"' || c = '\'' then none else some (unquoted (c :: rest)) := by
  unfold address?
  rw [inked]
  split
  · rename_i same; cases same
  · rename_i same; exact absurd (List.cons.inj same).1 other
  · rename_i same; cases same; rfl

theorem address?_past (stop : isStop d = true) : address? (u ++ d :: v) = some step → u.dropWhile isAsciiBlank = [] →
    step.2 ≠ w ++ d :: v := by
  intro scanned blank
  have inked : (u ++ d :: v).dropWhile isAsciiBlank = d :: v := by
    rw [(bounded_dropWhile (fun _ => ink_ends) (.inr ⟨d,v,rfl,stop⟩) u).1,blank,List.nil_append]
  rw [address?_open inked (isStop_ne stop (by decide))] at scanned
  split at scanned
  · cases scanned
  · cases scanned
    exact unquoted_past stop

theorem address?_local (stopped : Stopped z) (bounded : Bounded z') (scanned : address? (u ++ z) = some step)
    (read : step.2 = w ++ z) : address? (u ++ z') = some (step.1,w ++ z') := by
  have before := (bounded_dropWhile (fun _ => ink_ends) stopped.bounded u).1
  have after := (bounded_dropWhile (fun _ => ink_ends) bounded u).1
  cases inked : u.dropWhile isAsciiBlank with
  | nil =>
    obtain ⟨d,v,rfl,stop⟩ := stopped
    exact absurd read (address?_past stop scanned inked)
  | cons c rest =>
    rw [inked,List.cons_append] at before after
    by_cases paren : c = ')'
    · subst paren
      rw [address?_closed before] at scanned
      rw [address?_closed after]
      cases scanned
      rw [List.append_cancel_right read]
    · rw [address?_open before paren] at scanned
      rw [address?_open after paren]
      split at scanned
      · cases scanned
      · rename_i unquoted
        rw [if_neg unquoted]
        cases scanned
        exact congrArg some (unquoted_local (u := c :: rest) stopped bounded read)

theorem address?_none (stopped : Stopped z) (bounded : Bounded z') (scanned : address? (u ++ z) = none) :
    address? (u ++ z') = none := by
  have before := (bounded_dropWhile (fun _ => ink_ends) stopped.bounded u).1
  have after := (bounded_dropWhile (fun _ => ink_ends) bounded u).1
  cases inked : u.dropWhile isAsciiBlank with
  | nil =>
    obtain ⟨d,v,rfl,stop⟩ := stopped
    have unquoted : ¬(d = '"' || d = '\'') = true := by
      rcases isStop_cases stop with rfl | rfl | rfl | rfl | rfl <;> decide
    rw [inked,List.nil_append] at before
    rw [address?_open before (isStop_ne stop (by decide)),if_neg unquoted] at scanned
    cases scanned
  | cons c rest =>
    rw [inked,List.cons_append] at before after
    by_cases paren : c = ')'
    · subst paren
      rw [address?_closed before] at scanned
      cases scanned
    · rw [address?_open before paren] at scanned
      rw [address?_open after paren]
      split at scanned
      · rename_i quoted; rw [if_pos quoted]
      · cases scanned

theorem identLike_call (named : name s = (n,'(' :: rest)) : identLike s =
    if sameIgnoringCase n "url" then (address? rest).getD (.function n,rest) else (.function n,rest) := by
  unfold identLike
  rw [named]
  rfl

theorem identLike_plain (named : name s = (n,rest)) (plain : ∀ t, rest ≠ '(' :: t) : identLike s = (.ident n,rest) := by
  unfold identLike
  rw [named]
  split
  · rename_i same; exact absurd (Prod.mk.inj same).2 (plain _)
  · rename_i same; cases same; rfl

theorem identLike_rest (s : Text) : (identLike s).2 <:+ (name s).2 := by
  unfold identLike
  split
  · rename_i n rest same
    rw [same]
    refine .trans ?_ (List.suffix_cons '(' rest)
    split
    · cases found : address? rest with
      | none => exact List.suffix_rfl
      | some step => exact address?_suffix found
    · exact List.suffix_rfl
  · rename_i same; exact same ▸ List.suffix_rfl

theorem identLike_local : Local identLike := by
  intro u z z' w stopped bounded read
  obtain ⟨f,t,split,behind⟩ := rest_append (read ▸ identLike_rest (u ++ z)) (name_suffix (u ++ z))
  have named : name (u ++ z) = ((name (u ++ z)).1,t ++ z) := Prod.ext rfl behind
  have again := name_local stopped bounded behind
  by_cases call : ∃ inner, t = '(' :: inner
  · obtain ⟨inner,rfl⟩ := call
    rw [List.cons_append] at named again
    rw [identLike_call named] at read ⊢
    rw [identLike_call again]
    cases url : sameIgnoringCase (name (u ++ z)).1 "url" with
    | false =>
      simp only [url,Bool.false_eq_true,↓reduceIte] at read ⊢
      rw [List.append_cancel_right (show inner ++ z = w ++ z from read)]
    | true =>
      simp only [url,↓reduceIte] at read ⊢
      cases found : address? (inner ++ z) with
      | none =>
        rw [found] at read
        rw [address?_none stopped bounded found,List.append_cancel_right (show inner ++ z = w ++ z from read)]
        rfl
      | some step =>
        rw [found] at read
        rw [address?_local stopped bounded found read]
        rfl
  · have plain : ∀ y, Bounded y → ∀ s, t ++ y ≠ '(' :: s := fun y bounded =>
      bounded_head bounded (by decide) t fun s same => call ⟨s,same⟩
    rw [identLike_plain named (plain z stopped.bounded)] at read ⊢
    rw [identLike_plain again (plain z' bounded),List.append_cancel_right (show t ++ z = w ++ z from read)]

-- A number takes no delimiter at all.
theorem afterDigits_bounded (bounded : Bounded z) (u : Text) : afterDigits (u ++ z) = afterDigits u ++ z :=
  (bounded_dropWhile (fun _ stop => (isStop_plain stop).2.1) bounded u).1

theorem exponent?_bounded (bounded : Bounded z) (u : Text) : exponent? (u ++ z) = (exponent? u).map (· ++ z) := by
  rcases bounded with rfl | ⟨d,v,rfl,stop⟩
  · simp
  · have digit := (isStop_plain stop).2.1
    have plus : d ≠ '+' := isStop_ne stop (by decide)
    have minus : d ≠ '-' := isStop_ne stop (by decide)
    have lower : d ≠ 'e' := isStop_ne stop (by decide)
    have upper : d ≠ 'E' := isStop_ne stop (by decide)
    have skip := afterDigits_bounded (.inr ⟨d,v,rfl,stop⟩)
    match u with
    | [] =>
      rw [List.nil_append]
      match v with
      | [] => rfl
      | [e] => simp [exponent?,lower,upper]
      | e :: f :: more => simp [exponent?,lower,upper]
    | [e] =>
      match v with
      | [] => simp [exponent?,digit]
      | f :: more => simp [exponent?,digit,plus,minus]
    | [e,c] =>
      have here := skip []
      rw [List.nil_append] at here
      simp only [List.cons_append,List.nil_append,exponent?,digit,Bool.and_false,Bool.false_eq_true,↓reduceIte,here]
      cases (e = 'e' || e = 'E' : Bool) <;> cases isDigit c <;> rfl
    | e :: c :: f :: more =>
      simp only [List.cons_append,exponent?]
      have here := skip (f :: more)
      rw [List.cons_append] at here
      rw [here,skip more]
      split
      · rfl
      · split
        · rfl
        · split <;> rfl

theorem fraction?_bounded (bounded : Bounded z) (u : Text) : fraction? (u ++ z) = (fraction? u).map (· ++ z) := by
  rcases bounded with rfl | ⟨d,v,rfl,stop⟩
  · simp
  · have digit := (isStop_plain stop).2.1
    have point : d ≠ '.' := isStop_ne stop (by decide)
    have skip := afterDigits_bounded (.inr ⟨d,v,rfl,stop⟩)
    match u with
    | [] => simp [fraction?,point]
    | [c] => by_cases dot : c = '.' <;> simp [fraction?,dot,digit]
    | c :: e :: more =>
      by_cases dot : c = '.'
      · subst dot
        simp only [List.cons_append,fraction?,skip more]
        split <;> rfl
      · simp [fraction?,dot]

theorem sign?_bounded (bounded : Bounded z) (u : Text) : sign? (u ++ z) = sign? u := by
  cases u with
  | cons c u => by_cases plus : c = '+' <;> by_cases minus : c = '-' <;> simp [sign?,plus,minus]
  | nil =>
    rcases bounded with rfl | ⟨d,v,rfl,stop⟩
    · rfl
    · rcases isStop_cases stop with rfl | rfl | rfl | rfl | rfl <;> rfl

theorem afterSign_bounded (bounded : Bounded z) (u : Text) : afterSign (u ++ z) = afterSign u ++ z := by
  rw [afterSign,afterSign,sign?_bounded bounded]
  cases u with
  | nil => rfl
  | cons c u => split <;> rfl

theorem afterWhole_bounded (bounded : Bounded z) (u : Text) : afterWhole (u ++ z) = afterWhole u ++ z := by
  rw [afterWhole,afterWhole,afterSign_bounded bounded,afterDigits_bounded bounded]

theorem afterFraction_bounded (bounded : Bounded z) (u : Text) : afterFraction (u ++ z) = afterFraction u ++ z := by
  rw [afterFraction,afterFraction,afterWhole_bounded bounded,fraction?_bounded bounded]
  cases fraction? (afterWhole u) <;> rfl

theorem afterNumber_bounded (bounded : Bounded z) (u : Text) : afterNumber (u ++ z) = afterNumber u ++ z := by
  rw [afterNumber,afterNumber,afterFraction_bounded bounded,exponent?_bounded bounded]
  cases exponent? (afterFraction u) <;> rfl

theorem numeral_bounded (bounded : Bounded z) (u : Text) : numeral (u ++ z) = numeral u := by
  have whole : wholePart (u ++ z) = wholePart u := by
    rw [wholePart,wholePart,afterSign_bounded bounded,
      (bounded_dropWhile (fun _ stop => (isStop_plain stop).2.1) bounded (afterSign u)).2]
  have written : frontOf (afterNumber (u ++ z)) (u ++ z) = frontOf (afterNumber u) u := by
    rw [afterNumber_bounded bounded,frontOf_behind (afterNumber_suffix u)]
  simp only [numeral,written,whole,sign?_bounded bounded,afterWhole_bounded bounded,afterFraction_bounded bounded,
    fraction?_bounded bounded,exponent?_bounded bounded,Option.isNone_map]

theorem numeric_plain (number : afterNumber s = rest) (plain : ∀ t, rest ≠ '%' :: t) : numeric s =
    if startsName rest then (.dimension (numeral s) (name rest).1,(name rest).2) else (.number (numeral s),rest) := by
  unfold numeric
  rw [number]
  split
  · exact absurd rfl (plain _)
  · rfl

theorem numeric_local : Local numeric := by
  intro u z z' w stopped bounded read
  have number : ∀ y, Bounded y → afterNumber (u ++ y) = afterNumber u ++ y := fun _ bounded => afterNumber_bounded bounded u
  by_cases percent : ∃ inner, afterNumber u = '%' :: inner
  · obtain ⟨inner,same⟩ := percent
    have step : ∀ y, Bounded y → numeric (u ++ y) = (.percentage (numeral u),inner ++ y) := by
      intro y bounded
      rw [numeric,number y bounded,numeral_bounded bounded,same]
      rfl
    rw [step z stopped.bounded] at read ⊢
    rw [step z' bounded,List.append_cancel_right read]
  · have step : ∀ y, Bounded y → numeric (u ++ y) =
        if startsName (afterNumber u) then
          (.dimension (numeral u) (name (afterNumber u ++ y)).1,(name (afterNumber u ++ y)).2)
        else (.number (numeral u),afterNumber u ++ y) := by
      intro y bounded
      rw [numeric_plain (number y bounded),startsName_bounded bounded,numeral_bounded bounded]
      exact bounded_head bounded (by decide) (afterNumber u) fun s same => percent ⟨s,same⟩
    rw [step z stopped.bounded] at read ⊢
    rw [step z' bounded]
    cases unit : startsName (afterNumber u) with
    | true =>
      simp only [unit,↓reduceIte] at read ⊢
      rw [name_local stopped bounded read]
    | false =>
      simp only [unit,Bool.false_eq_true,↓reduceIte] at read ⊢
      rw [List.append_cancel_right read]

theorem orMatch_local (t : Token) (c : Char) : Local (orMatch t c) := by
  intro u z z' w stopped bounded read
  by_cases equals : ∃ inner, u = '=' :: inner
  · obtain ⟨inner,rfl⟩ := equals
    simp only [List.cons_append,orMatch] at read ⊢
    rw [List.append_cancel_right read]
  · have step : ∀ y, Bounded y → orMatch t c (u ++ y) = (.delim c,u ++ y) := by
      intro y bounded
      have plain := bounded_head bounded (by decide) u fun s same => equals ⟨s,same⟩
      unfold orMatch
      split
      · rename_i same; exact absurd same (plain _)
      · rfl
    rw [step z stopped.bounded] at read ⊢
    rw [step z' bounded,List.append_cancel_right read]

theorem string_local (mark : Char) (quote : isStop mark = false) : Local (string mark) := by
  intro u z z' w stopped bounded read
  have same := quoted_local mark quote stopped bounded read
  rw [string,string,same]

-- What a hash may begin with, besides a name.
def startsHash (s : Text) : Bool := s.head?.any fun c => isDigit c || c = '-'

theorem startsHash_bounded (bounded : Bounded z) : startsHash (u ++ z) = startsHash u := by
  cases u with
  | cons => rfl
  | nil =>
    rcases bounded with rfl | ⟨d,v,rfl,stop⟩
    · rfl
    · rcases isStop_cases stop with rfl | rfl | rfl | rfl | rfl <;> rfl

theorem hash_other (unnamed : startsName s = false) : hash s =
    if startsHash s then (.hash (name s).1,(name s).2) else (.delim '#',s) := by
  unfold hash
  rw [unnamed]
  cases s <;> rfl

theorem hash_local : Local hash := by
  intro u z z' w stopped bounded read
  cases named : startsName u with
  | true =>
    have step : ∀ y, Bounded y → hash (u ++ y) = (.idHash (name (u ++ y)).1,(name (u ++ y)).2) := by
      intro y bounded
      unfold hash
      rw [startsName_bounded bounded,if_pos named]
    rw [step z stopped.bounded] at read ⊢
    rw [step z' bounded,name_local stopped bounded read]
  | false =>
    have step : ∀ y, Bounded y → hash (u ++ y) =
        if startsHash u then (.hash (name (u ++ y)).1,(name (u ++ y)).2) else (.delim '#',u ++ y) := by
      intro y bounded
      rw [hash_other (by rw [startsName_bounded bounded,named]),startsHash_bounded bounded]
    rw [step z stopped.bounded] at read ⊢
    rw [step z' bounded]
    cases part : startsHash u with
    | true =>
      simp only [part,↓reduceIte] at read ⊢
      rw [name_local stopped bounded read]
    | false =>
      simp only [part,Bool.false_eq_true,↓reduceIte] at read ⊢
      rw [List.append_cancel_right read]

theorem slash_local : Local slash := by
  intro u z z' w stopped bounded read
  by_cases comment : ∃ inner, u = '*' :: inner
  · obtain ⟨inner,rfl⟩ := comment
    simp only [List.cons_append,slash] at read ⊢
    rw [afterComment_local stopped bounded read]
  · have step : ∀ y, Bounded y → slash (u ++ y) = (.delim '/',u ++ y) := by
      intro y bounded
      have plain := bounded_head bounded (by decide) u fun s same => comment ⟨s,same⟩
      unfold slash
      split
      · rename_i same; exact absurd same (plain _)
      · rfl
    rw [step z stopped.bounded] at read ⊢
    rw [step z' bounded,List.append_cancel_right read]

theorem less_local : Local less := by
  intro u z z' w stopped bounded read
  by_cases hidden : ∃ inner, u = '!' :: '-' :: '-' :: inner
  · obtain ⟨inner,rfl⟩ := hidden
    simp only [List.cons_append,less] at read ⊢
    rw [List.append_cancel_right read]
  · have step : ∀ y, Bounded y → less (u ++ y) = (.delim '<',u ++ y) := by
      intro y bounded
      have plain := bounded_prefix bounded ['!','-','-'] (by simp [isStop]) u fun s same => hidden ⟨s,same⟩
      unfold less
      split
      · rename_i same; exact absurd same (plain _)
      · rfl
    rw [step z stopped.bounded] at read ⊢
    rw [step z' bounded,List.append_cancel_right read]

theorem minus_local : Local minus := by
  intro u z z' w stopped bounded read
  cases number : startsNumber u with
  | true =>
    have step : ∀ y, Bounded y → minus (u ++ y) = numeric ('-' :: u ++ y) := by
      intro y bounded
      unfold minus
      rw [startsNumber_bounded bounded,if_pos number]
      rfl
    rw [step z stopped.bounded] at read ⊢
    rw [step z' bounded]
    exact numeric_local stopped bounded read
  | false =>
    by_cases hidden : ∃ inner, u = '-' :: '>' :: inner
    · obtain ⟨inner,rfl⟩ := hidden
      have step : ∀ y, minus ('-' :: '>' :: (inner ++ y)) = (.commentClose,inner ++ y) := fun _ => rfl
      simp only [List.cons_append] at read ⊢
      rw [step z] at read ⊢
      rw [step z',List.append_cancel_right read]
    · have step : ∀ y, Bounded y → minus (u ++ y) =
          if startsName ('-' :: u) then identLike ('-' :: u ++ y) else (.delim '-',u ++ y) := by
        intro y bounded
        have plain := bounded_prefix bounded ['-','>'] (by simp [isStop]) u fun s same => hidden ⟨s,same⟩
        have named : startsName ('-' :: (u ++ y)) = startsName ('-' :: u) := startsName_bounded (u := '-' :: u) bounded
        unfold minus
        rw [startsNumber_bounded bounded,number,if_neg Bool.false_ne_true]
        split
        · rename_i same; exact absurd same (plain _)
        · rw [named]; rfl
      rw [step z stopped.bounded] at read ⊢
      rw [step z' bounded]
      cases named : startsName ('-' :: u) with
      | true =>
        simp only [named,↓reduceIte] at read ⊢
        exact identLike_local stopped bounded read
      | false =>
        simp only [named,Bool.false_eq_true,↓reduceIte] at read ⊢
        rw [List.append_cancel_right read]

-- What the cases of a token come to, where nothing or all of the rest is looked at.
theorem local_const (t : Token) : Local fun s => (t,s) := by
  intro u z z' w stopped bounded read
  rw [List.append_cancel_right read]

theorem local_cons (f : Text → Step Token) (c : Char) (whole : Local f) : Local fun s => f (c :: s) :=
  fun _ _ _ _ stopped bounded read => whole (u := c :: _) stopped bounded read

theorem local_ite {f g : Text → Step Token} (b : Text → Bool) (same : ∀ u z, Bounded z → b (u ++ z) = b u)
    (yes : Local f) (no : Local g) : Local fun s => if b s then f s else g s := by
  intro u z z' w stopped bounded read
  simp only [same u z stopped.bounded,same u z' bounded] at read ⊢
  cases holds : b u with
  | true =>
    simp only [holds,↓reduceIte] at read ⊢
    exact yes stopped bounded read
  | false =>
    simp only [holds,Bool.false_eq_true,↓reduceIte] at read ⊢
    exact no stopped bounded read

theorem blanks_local : Local fun s => (Token.blank,s.dropWhile isAsciiBlank) := by
  intro u z z' w stopped bounded read
  dsimp only at read ⊢
  rw [(bounded_dropWhile (fun _ => ink_ends) stopped.bounded u).1] at read
  rw [(bounded_dropWhile (fun _ => ink_ends) bounded u).1,List.append_cancel_right read]

theorem token_local (c : Char) : Local (token c) := by
  unfold token
  refine local_ite (fun _ => isAsciiBlank c) (fun _ _ _ => rfl) blanks_local ?_
  refine local_ite (fun _ => isDigit c) (fun _ _ _ => rfl) (local_cons numeric c numeric_local) ?_
  refine local_ite (fun _ => isNameStart c) (fun _ _ _ => rfl) (local_cons identLike c identLike_local) ?_
  split
  any_goals exact local_const _
  any_goals exact orMatch_local _ _
  any_goals exact string_local _ (by decide)
  · exact hash_local
  · exact local_ite startsNumber (fun _ _ bounded => startsNumber_bounded bounded)
      (local_cons numeric _ numeric_local) (local_const _)
  · exact local_ite (fun s => startsNumber ('.' :: s)) (fun u _ bounded => startsNumber_bounded (u := '.' :: u) bounded)
      (local_cons numeric _ numeric_local) (local_const _)
  · exact minus_local
  · exact slash_local
  · exact less_local
  · refine local_ite startsName (fun _ _ bounded => startsName_bounded bounded) ?_ (local_const _)
    intro u z z' w stopped bounded read
    dsimp only at read ⊢
    rw [name_local stopped bounded read]
  · exact local_ite startsNewline (fun _ _ bounded => startsNewline_bounded bounded) (local_const _)
      (local_cons identLike _ identLike_local)

end Scan

-- The first lexeme of a text, with the rest of the text.
theorem lexemes_first {l : Lexeme} {ls : List Lexeme} (read : lexemes s = l :: ls) :
    ∃ c f t, s = c :: (f ++ t) ∧ (Scan.token c (f ++ t)).2 = t ∧ l = ⟨(Scan.token c (f ++ t)).1,c :: f,.start⟩ ∧
      lexemes t = ls := by
  cases s with
  | nil => rw [lexemes_nil] at read; cases read
  | cons c s =>
    have parts := frontOf_append (Scan.token_suffix c s)
    rw [lexemes_cons] at read
    obtain ⟨rfl,rest⟩ := List.cons.inj read
    refine ⟨c,frontOf (Scan.token c s).2 s,(Scan.token c s).2,?_,?_,?_,rest⟩ <;> rw [parts]

theorem lexemes_take (c : Char) (f t : Text) (read : (Scan.token c (f ++ t)).2 = t) :
    lexemes (c :: (f ++ t)) = ⟨(Scan.token c (f ++ t)).1,c :: f,.start⟩ :: lexemes t := by
  rw [lexemes_cons,read,frontOf_front]

theorem lexemes_behind {ls more : List Lexeme} (whole : lexemes (u ++ z) = ls ++ more)
    (front : (ls.map (·.text)).flatten = u) : lexemes z = more := by
  induction ls generalizing u with
  | nil => subst front; exact whole
  | cons l ls ih =>
    obtain ⟨c,f,t,all,_,rfl,later⟩ := lexemes_first whole
    rw [List.map_cons,List.flatten_cons] at front
    subst front
    have same : (c :: f) ++ t = (c :: f) ++ ((ls.map (·.text)).flatten ++ z) := by simpa using all.symm
    exact ih (by rw [← List.append_cancel_left same]; exact later) rfl

-- Lexemes that end in front of a delimiter are the same whatever comes there instead.
theorem lexemes_local {ls more : List Lexeme} (stopped : Stopped z) (bounded : Bounded z')
    (whole : lexemes (u ++ z) = ls ++ more) (front : (ls.map (·.text)).flatten = u) :
    lexemes (u ++ z') = ls ++ lexemes z' := by
  induction ls generalizing u with
  | nil =>
    rw [List.map_nil,List.flatten_nil] at front
    rw [← front]
    rfl
  | cons l ls ih =>
    obtain ⟨c,f,t,all,rest,rfl,later⟩ := lexemes_first whole
    rw [List.map_cons,List.flatten_cons] at front
    subst front
    have behind : t = (ls.map (·.text)).flatten ++ z := by
      have same : (c :: f) ++ t = (c :: f) ++ ((ls.map (·.text)).flatten ++ z) := by
        simpa using all.symm
      exact List.append_cancel_left same
    subst behind
    rw [← List.append_assoc] at rest
    have again := Scan.token_local c stopped bounded rest
    rw [List.append_assoc] at again
    have step := lexemes_take c f ((ls.map (·.text)).flatten ++ z') (by rw [again])
    rw [again] at step
    simpa [ih later rfl] using step

end StyleTrim.Css
