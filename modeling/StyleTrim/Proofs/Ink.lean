import StyleTrim.Proofs.Tokens
namespace StyleTrim.Css
open Text
variable {c d : Char} {p q s t u v w x y : Text} {l : Lexeme}

-- What reading and printing keep of a text. Two measures: `ink` is the text without its blanks,
-- and `gauge` counts what may get lost but never comes about. A delimiter that the printer
-- writes by itself counts nothing, a backslash more than the character that it escapes may be worth.

def ink (s : Text) : Text := s.filter fun c => !isBlank c

def tally (c : Char) : Nat :=
  if isAsciiBlank c || c = ';' || c = '\x7d' then 0 else if c = '\\' then 2 else 1

def gauge : Text → Nat
  | [] => 0
  | c :: s => tally c + gauge s

theorem ink_append (u v : Text) : ink (u ++ v) = ink u ++ ink v := List.filter_append ..

theorem ink_cons (dark : isBlank c = false) (s : Text) : ink (c :: s) = c :: ink s :=
  List.filter_cons_of_pos (by rw [dark]; rfl)

theorem ink_blank (blank : isBlank c = true) (s : Text) : ink (c :: s) = ink s :=
  List.filter_cons_of_neg (by rw [blank]; exact Bool.false_ne_true)

theorem gauge_append (u v : Text) : gauge (u ++ v) = gauge u + gauge v := by
  induction u with
  | nil => rw [List.nil_append,gauge,Nat.zero_add]
  | cons c u ih => rw [List.cons_append,gauge,gauge,ih,Nat.add_assoc]

theorem blank_of_ascii (blank : isAsciiBlank c = true) : isBlank c = true := by
  simp only [isAsciiBlank,Bool.or_eq_true,decide_eq_true_eq] at blank
  rcases blank with (((rfl | rfl) | rfl) | rfl) | rfl <;> rfl

theorem ink_blanks (blanks : ∀ c ∈ s, isBlank c = true) : ink s = [] :=
  List.filter_eq_nil_iff.mpr fun c inside => by rw [blanks c inside]; exact Bool.false_ne_true

theorem tally_of_gauge (empty : gauge s = 0) : ∀ c ∈ s, tally c = 0 := by
  induction s with
  | nil => nofun
  | cons c s ih =>
    rw [gauge] at empty
    intro d inside
    rcases List.mem_cons.mp inside with rfl | inside
    · omega
    · exact ih (by omega) d inside

theorem tally_cases (nothing : tally c = 0) : isAsciiBlank c = true ∨ c = ';' ∨ c = '\x7d' := by
  unfold tally at nothing
  split at nothing
  · rename_i free
    simp only [Bool.or_eq_true,decide_eq_true_eq] at free
    rcases free with (blank | semi) | brace
    · exact .inl blank
    · exact .inr (.inl semi)
    · exact .inr (.inr brace)
  · split at nothing <;> cases nothing

theorem tally_blank (blank : isAsciiBlank c = true) : tally c = 0 := by simp [tally,blank]

-- A text that is over, or goes on with something that is no blank.
def Dark (s : Text) : Prop := ∀ c ∈ s.head?, isBlank c = false
def EndsDark (s : Text) : Prop := ∃ t c, s = t ++ [c] ∧ isBlank c = false

theorem Dark.blankless (dark : Dark (w ++ x)) (empty : ink w = []) : w = [] := by
  cases w with
  | nil => rfl
  | cons c w => rw [ink_cons (dark c rfl)] at empty; cases empty

theorem EndsDark.blankless (ends : EndsDark (u ++ w)) (empty : ink w = []) : w = [] := by
  obtain ⟨t,c,same,dark⟩ := ends
  rcases List.eq_nil_or_concat w with rfl | ⟨front,d,rfl⟩
  · rfl
  · rw [List.concat_eq_append] at *
    rw [← List.append_assoc] at same
    obtain ⟨_,last⟩ := List.append_inj' same rfl
    cases last
    rw [ink_append,ink_cons dark] at empty
    simp at empty

-- Beginnings of one text with as much ink are the same where neither stops in front of a blank.
theorem aligned (same : u ++ x = v ++ y) (inks : (ink u).length = (ink v).length) (left : Dark x ∨ EndsDark v) (right : Dark y ∨ EndsDark u) :
    u = v ∧ x = y := by
  rcases List.append_eq_append_iff.mp same with ⟨w,rfl,rfl⟩ | ⟨w,rfl,rfl⟩
  · rw [ink_append,List.length_append] at inks
    have empty : ink w = [] := List.length_eq_zero_iff.mp (by omega)
    have none : w = [] := by
      rcases left with dark | ends
      · exact dark.blankless empty
      · exact ends.blankless empty
    rw [none]
    exact ⟨(List.append_nil u).symm,rfl⟩
  · rw [ink_append,List.length_append] at inks
    have empty : ink w = [] := List.length_eq_zero_iff.mp (by omega)
    have none : w = [] := by
      rcases right with dark | ends
      · exact dark.blankless empty
      · exact ends.blankless empty
    rw [none]
    exact ⟨List.append_nil v,rfl⟩

-- Nothing comes about, and where nothing gets lost there is as much ink as before.
structure Keeps (p s : Text) : Prop where
  bound : gauge p ≤ gauge s
  inks : gauge p = gauge s → (ink p).length = (ink s).length

theorem Keeps.refl (s : Text) : Keeps s s := ⟨Nat.le_refl _,fun _ => rfl⟩

theorem Keeps.append (first : Keeps p s) (second : Keeps q t) : Keeps (p ++ q) (s ++ t) where
  bound := by
    have := first.bound
    have := second.bound
    rw [gauge_append,gauge_append]
    omega
  inks same := by
    have one := first.bound
    have two := second.bound
    rw [gauge_append,gauge_append] at same
    rw [ink_append,ink_append,List.length_append,List.length_append,first.inks (by omega),second.inks (by omega)]

-- Where nothing gets lost of the whole, nothing gets lost of its parts.
theorem Keeps.parts (first : Keeps p s) (second : Keeps q t) (full : gauge (p ++ q) = gauge (s ++ t)) :
    gauge p = gauge s ∧ gauge q = gauge t := by
  have one := first.bound
  have two := second.bound
  rw [gauge_append,gauge_append] at full
  constructor <;> omega

theorem Keeps.trans (first : Keeps p s) (second : Keeps s t) : Keeps p t where
  bound := Nat.le_trans first.bound second.bound
  inks same := by
    have one := first.bound
    have two := second.bound
    rw [first.inks (by omega),second.inks (by omega)]

-- Blanks may go anywhere.
theorem Keeps.of_ink (inks : ink p = ink s) (bound : gauge p ≤ gauge s) : Keeps p s := ⟨bound,fun _ => congrArg _ inks⟩

theorem run_ink (state : Collapsing) (s : Text) : ink (state.run s) = ink s ∧ gauge (state.run s) ≤ gauge s := by
  induction s generalizing state with
  | nil => exact ⟨rfl,Nat.le_refl _⟩
  | cons c s ih =>
    obtain ⟨inks,bound⟩ := ih (state.step c).2
    have one : ink (state.step c).1 = ink [c] ∧ gauge (state.step c).1 ≤ tally c := by
      unfold Collapsing.step
      split
      · exact ⟨rfl,Nat.le_refl _⟩
      · split
        · exact ⟨rfl,Nat.le_refl _⟩
        · split
          · rename_i blank; rw [ink_blank blank]; exact ⟨rfl,Nat.zero_le _⟩
          · dsimp only
            split
            · exact ⟨rfl,Nat.le_of_eq (Nat.zero_add _)⟩
            · exact ⟨rfl,Nat.le_refl _⟩
    rw [Collapsing.run,ink_append,inks,one.1,← ink_append,gauge_append,gauge]
    exact ⟨rfl,by have := one.2; omega⟩

theorem dropWhile_ink (s : Text) : ink (s.dropWhile isBlank) = ink s ∧ gauge (s.dropWhile isBlank) ≤ gauge s := by
  induction s with
  | nil => exact ⟨rfl,Nat.le_refl _⟩
  | cons c s ih =>
    rw [List.dropWhile_cons]
    split
    · rename_i blank
      rw [ink_blank blank,gauge]
      exact ⟨ih.1,by have := ih.2; omega⟩
    · exact ⟨rfl,Nat.le_refl _⟩

theorem collapse_ink (s : Text) : ink (collapse s) = ink s ∧ gauge (collapse s) ≤ gauge s := by
  obtain ⟨inks,bound⟩ := run_ink .start (trimStart isBlank s)
  obtain ⟨front,less⟩ := dropWhile_ink s
  exact ⟨inks.trans front,Nat.le_trans bound less⟩

theorem Keeps.collapse (s : Text) : Keeps (collapse s) s := .of_ink (collapse_ink s).1 (collapse_ink s).2

theorem collapse_dark (s : Text) : Dark (collapse s) := by
  intro c first
  rw [collapse,trimStart] at first
  have head := List.head?_dropWhile_not isBlank s
  cases front : s.dropWhile isBlank with
  | nil => rw [front] at first; cases first
  | cons d t =>
    rw [front] at head first
    have dark : isBlank d = false := by simpa using head
    rw [Collapsing.run,Collapsing.step] at first
    simp only [Collapsing.start,dark,Bool.false_eq_true,↓reduceIte,List.cons_append,List.head?_cons] at first
    cases first
    exact dark

-- Only blanks can be taken off the front, and of these only blanks of ASCII count nothing.
theorem collapse_first (shown : isAsciiBlank c = false) (full : gauge (collapse (c :: s)) = gauge (c :: s)) :
    ∃ t, collapse (c :: s) = c :: t := by
  cases blank : isBlank c with
  | true =>
    have counted : tally c ≠ 0 := fun nothing => by
      rcases tally_cases nothing with ascii | rfl | rfl
      · rw [shown] at ascii; cases ascii
      · cases blank
      · cases blank
    have less := (collapse_ink s).2
    have same : collapse (c :: s) = collapse s := by
      unfold Css.collapse trimStart
      rw [List.dropWhile_cons_of_pos blank]
    rw [same,gauge] at full
    omega
  | false =>
    unfold Css.collapse trimStart
    rw [List.dropWhile_cons_of_neg (by rw [blank]; exact Bool.false_ne_true),Collapsing.run,Collapsing.step]
    simp [Collapsing.start,blank]

theorem trimEnd_ends (f : Char → Bool) (ends : trimEnd f s = t ++ [c]) : f c = false := by
  have same := congrArg List.reverse ends
  rw [trimEnd,List.reverse_reverse,List.reverse_append] at same
  have first := List.head?_dropWhile_not f s.reverse
  rw [same] at first
  simpa using first

-- What ends in no blank does so when it is collapsed.
theorem run_ends (dark : isBlank d = false) (state : Collapsing) (s : Text) : ∃ t, state.run (s ++ [d]) = t ++ [d] := by
  induction s generalizing state with
  | nil =>
    rw [List.nil_append,Collapsing.run,Collapsing.run,List.append_nil]
    unfold Collapsing.step
    split
    · exact ⟨[],rfl⟩
    · split
      · exact ⟨[],rfl⟩
      · rw [dark]
        simp only [Bool.false_eq_true,↓reduceIte]
        split
        · exact ⟨[' '],rfl⟩
        · exact ⟨[],rfl⟩
  | cons c s ih =>
    obtain ⟨t,ends⟩ := ih (state.step c).2
    rw [List.cons_append,Collapsing.run,ends,← List.append_assoc]
    exact ⟨_,rfl⟩

theorem collapse_ends (dark : isBlank d = false) (s : Text) : ∃ t, collapse (s ++ [d]) = t ++ [d] := by
  have kept : ∃ s', trimStart isBlank (s ++ [d]) = s' ++ [d] := by
    unfold trimStart
    induction s with
    | nil => exact ⟨[],by rw [List.nil_append,List.dropWhile_cons_of_neg (by rw [dark]; exact Bool.false_ne_true)]⟩
    | cons c s ih =>
      rw [List.cons_append,List.dropWhile_cons]
      split
      · exact ih
      · exact ⟨c :: s,rfl⟩
  obtain ⟨s',front⟩ := kept
  rw [collapse,front]
  exact run_ends dark .start s'

theorem trimEnd_append (f : Char → Bool) (s : Text) : ∃ t, s = trimEnd f s ++ t ∧ ∀ c ∈ t, f c = true := by
  refine ⟨(s.reverse.takeWhile f).reverse,?_,fun c inside => ?_⟩
  · rw [trimEnd,← List.reverse_append,List.takeWhile_append_dropWhile,List.reverse_reverse]
  · exact List.all_eq_true.mp List.all_takeWhile c (List.mem_reverse.mp inside)

theorem Keeps.trim (s : Text) : Keeps (trim s) s := by
  obtain ⟨t,whole,blanks⟩ := trimEnd_append isBlank (trimStart isBlank s)
  obtain ⟨front,less⟩ := dropWhile_ink s
  have inks := congrArg ink whole
  have gauges := congrArg gauge whole
  rw [ink_append,ink_blanks blanks,List.append_nil] at inks
  rw [gauge_append] at gauges
  refine .of_ink (inks.symm.trans front) ?_
  rw [trimStart] at gauges
  rw [Text.trim,trimBy,trimStart]
  omega

theorem withoutEnd?_append {tail front : Text} (found : withoutEnd? s tail = some front) : s = front ++ tail := by
  unfold withoutEnd? at found
  split at found
  · rename_i ends
    cases found
    obtain ⟨before,rfl⟩ := List.isSuffixOf_iff_suffix.mp ends
    rw [List.length_append,Nat.add_sub_cancel,List.take_left]
  · cases found

-- A value with its mark, as printed.
theorem Keeps.important (s : Text) :
    Keeps ((splitImportant s).1 ++ if (splitImportant s).2 then importantMark else []) s := by
  refine .trans ?_ (.trim s)
  unfold splitImportant
  cases found : withoutEnd? (Text.trim s) importantMark with
  | none => simpa using Keeps.collapse (Text.trim s)
  | some front =>
    rw [withoutEnd?_append found]
    exact (Keeps.collapse front).append (.refl importantMark)

theorem upper_kept : ∀ n < 26, isBlank (lowerChar (Char.ofNat (65 + n))) = isBlank (Char.ofNat (65 + n)) ∧
    tally (lowerChar (Char.ofNat (65 + n))) = tally (Char.ofNat (65 + n)) := by decide

theorem lowerChar_kept (c : Char) : isBlank (lowerChar c) = isBlank c ∧ tally (lowerChar c) = tally c := by
  cases upper : isAsciiUpper c with
  | false => rw [lowerChar,upper]; exact ⟨rfl,rfl⟩
  | true =>
    simp only [isAsciiUpper,Bool.and_eq_true,decide_eq_true_eq,UInt32.le_iff_toNat_le] at upper
    have low : 65 ≤ c.toNat := upper.1
    have high : c.toNat ≤ 90 := upper.2
    have read := upper_kept (c.toNat - 65) (by omega)
    rwa [Nat.add_sub_cancel' low,Char.ofNat_toNat] at read

theorem Keeps.lower (s : Text) : Keeps (lower s) s := by
  induction s with
  | nil => exact .refl []
  | cons c s ih =>
    obtain ⟨blank,same⟩ := lowerChar_kept c
    refine .append (p := [lowerChar c]) (s := [c]) ⟨?_,fun _ => ?_⟩ ih
    · simp [gauge,same]
    · simp only [ink,List.filter_cons,blank,List.filter_nil]
      split <;> rfl

theorem meant_kept (c : Char) : Keeps [Scan.meant c] [c] := by
  unfold Scan.meant
  split
  · rename_i null
    subst null
    exact ⟨Nat.le_refl _,fun _ => rfl⟩
  · exact .refl _

theorem tally_bound (c : Char) : tally c ≤ 2 := by
  unfold tally
  split
  · exact Nat.zero_le _
  · split <;> omega

theorem isHexDigit_tally (digit : isHexDigit c = true) : 1 ≤ tally c := by
  rcases Nat.eq_zero_or_pos (tally c) with nothing | counted
  · rcases tally_cases nothing with blank | rfl | rfl
    · simp only [isAsciiBlank,Bool.or_eq_true,decide_eq_true_eq] at blank
      rcases blank with (((rfl | rfl) | rfl) | rfl) | rfl <;> cases digit
    · cases digit
    · cases digit
  · exact counted

-- An escape without its backslash is worth at least the character that it stands for, less the backslash.
theorem escape_worth (s : Text) : ∃ f, s = f ++ (Scan.escape s).2 ∧ tally (Scan.escape s).1 < 2 + gauge f := by
  fun_cases Scan.escape s
  · exact ⟨[],rfl,by decide⟩
  · rename_i c s v found
    obtain ⟨f,whole⟩ := (Scan.oneBlank_suffix (Scan.hexDigits 5 s).2).trans (Scan.hexDigits_suffix 5 s)
    refine ⟨c :: f,congrArg (c :: ·) whole.symm,?_⟩
    have digit := isHexDigit_tally (c := c) (by rw [isHexDigit,found]; rfl)
    refine Nat.lt_of_le_of_lt (tally_bound _) ?_
    rw [gauge]
    omega
  · rename_i c s other
    have kept := (meant_kept c).bound
    exact ⟨[c],rfl,by simp only [gauge] at kept ⊢; omega⟩

-- An escape is worth more than the character that it stands for, so a name that is worth as much as its text has none.
theorem name_keeps (s : Text) : ∃ f, s = f ++ (Scan.name s).2 ∧ Keeps (Scan.name s).1 f ∧
    (gauge (Scan.name s).1 = gauge f → (Scan.name s).1 = f.map Scan.meant) := by
  fun_induction Scan.name s with
  | case1 | case2 | case5 => exact ⟨[],rfl,.refl [],fun _ => rfl⟩
  | case3 s newline ih =>
    obtain ⟨f,whole,kept,_⟩ := ih
    obtain ⟨e,front,worth⟩ := escape_worth s
    have less : tally (Scan.escape s).1 + gauge (Scan.name (Scan.escape s).2).1 < gauge ('\\' :: e ++ f) := by
      have := kept.bound
      rw [gauge_append,gauge]
      have two : tally '\\' = 2 := rfl
      omega
    refine ⟨'\\' :: e ++ f,?_,⟨?_,fun same => ?_⟩,fun same => ?_⟩
    · have parted : s = (e ++ f) ++ (Scan.name (Scan.escape s).2).2 := by rw [List.append_assoc,← whole]; exact front
      exact congrArg _ parted
    · rw [Scan.Step.push,gauge]; omega
    · rw [Scan.Step.push,gauge] at same; omega
    · rw [Scan.Step.push,gauge] at same; omega
  | case4 c s plain char ih =>
    obtain ⟨f,whole,kept,spelled⟩ := ih
    have one := meant_kept c
    refine ⟨c :: f,congrArg (c :: ·) whole,one.append kept,fun same => ?_⟩
    have first := one.bound
    have others := kept.bound
    simp only [Scan.Step.push,gauge] at same first
    rw [Scan.Step.push,spelled (by omega),List.map_cons]

namespace Genuine

theorem first (genuine : Genuine l) : ∃ c f, l.text = c :: f := by
  obtain ⟨c,f,_,text,_⟩ := genuine
  exact ⟨c,f,text⟩

-- Only blanks, semicolons and closing braces begin with a character that counts nothing.
theorem first_counts (genuine : Genuine l) (shown : l.token ≠ .blank) (other : l.token ≠ .semicolon)
    (open' : l.token ≠ .closeCurly) (text : l.text = c :: s) : tally c ≠ 0 := by
  intro nothing
  rcases tally_cases nothing with blank | rfl | rfl
  · exact shown (genuine.blank text blank).1
  · exact other (genuine.of_mark (fun _ => rfl) text)
  · exact open' (genuine.of_mark (fun _ => rfl) text)

theorem spacing_keeps (genuine : Genuine l) (spacing : (Component.leaf l).isSpacing = true) : Keeps [] l.text := by
  refine ⟨Nat.zero_le _,fun empty => ?_⟩
  obtain ⟨c,s,text⟩ := genuine.first
  have nothing := tally_of_gauge empty.symm
  simp only [Component.isSpacing,Bool.or_eq_true,beq_iff_eq] at spacing
  cases blank : isAsciiBlank c with
  | true => rw [ink_blanks fun d inside => blank_of_ascii ((genuine.blank text blank).2 d inside)]; rfl
  | false =>
    have counted : tally c = 0 := nothing c (by rw [text]; exact List.mem_cons_self)
    rcases tally_cases counted with ascii | rfl | rfl
    · rw [blank] at ascii; cases ascii
    · rw [genuine.of_mark (fun _ => rfl) text] at spacing; rcases spacing with same | same <;> cases same
    · rw [genuine.of_mark (fun _ => rfl) text] at spacing; rcases spacing with same | same <;> cases same

theorem ident_keeps (genuine : Genuine l) (token : l.token = .ident n) :
    Keeps n l.text ∧ (gauge n = gauge l.text → n = l.text.map Scan.meant) := by
  obtain ⟨t,read⟩ := genuine.ident token
  obtain ⟨f,whole,kept⟩ := name_keeps (l.text ++ t)
  rw [read] at whole kept
  rwa [List.append_cancel_right whole]

theorem keyword_keeps (genuine : Genuine l) (token : l.token = .atKeyword n) : Keeps ('@' :: n) l.text := by
  obtain ⟨e,t,text,read⟩ := genuine.keyword token
  obtain ⟨f,whole,kept,_⟩ := name_keeps (e ++ t)
  rw [read] at whole kept
  rw [text,List.append_cancel_right whole]
  exact (Keeps.refl ['@']).append kept

end Genuine
end StyleTrim.Css
