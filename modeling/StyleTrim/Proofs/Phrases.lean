import Mathlib.Data.List.TakeWhile
import StyleTrim.Proofs.Following
namespace StyleTrim.Css
open Text Scan

-- Collapsing blanks keeps what a text says to the tokenizer, as long as both see the same strings.

namespace Collapsing
variable {state : Collapsing} {c m : Char} {s t u v f z : Text}

-- The state after some text.
def after (state : Collapsing) : Text → Collapsing
  | [] => state
  | c :: s => (state.step c).2.after s

-- Inside of a string, and behind a blank.
def within (m : Char) : Collapsing := ⟨some m,false,false⟩
def behind : Collapsing := ⟨none,false,true⟩

theorem run_append (state : Collapsing) (u v : Text) : state.run (u ++ v) = state.run u ++ (state.after u).run v := by
  induction u generalizing state with
  | nil => rfl
  | cons c u ih => rw [List.cons_append,run,run,after,ih,List.append_assoc]

theorem after_append (state : Collapsing) (u v : Text) : state.after (u ++ v) = (state.after u).after v := by
  induction u generalizing state with
  | nil => rfl
  | cons c u ih => exact ih _

theorem step_solid (dark : isBlank c = false) (mark : isQuoteMark c = false) (escape : c ≠ '\\') : start.step c = ([c],start) := by
  simp [step,start,dark,mark,escape]

theorem run_solid (dark : isBlank c = false) (mark : isQuoteMark c = false) (escape : c ≠ '\\') (s : Text) :
    start.run (c :: s) = c :: start.run s := by
  rw [run,step_solid dark mark escape]
  rfl

theorem step_escape : start.step '\\' = (['\\'],⟨none,true,false⟩) := rfl
theorem step_escaped (c : Char) : (⟨none,true,false⟩ : Collapsing).step c = ([c],start) := rfl

theorem run_escape (c : Char) (s : Text) : start.run ('\\' :: c :: s) = '\\' :: c :: start.run s := by
  rw [run,step_escape,run,step_escaped]
  rfl

theorem step_quote (mark : isQuoteMark m = true) : start.step m = ([m],within m) := by
  have escape : m ≠ '\\' := by rintro rfl; cases mark
  simp [step,start,within,quote_dark mark,mark,escape]

theorem run_quote (mark : isQuoteMark m = true) (s : Text) : start.run (m :: s) = m :: (within m).run s := by
  rw [run,step_quote mark]
  rfl

theorem step_blank (blank : isBlank c = true) : start.step c = ([],behind) ∧ behind.step c = ([],behind) := by
  simp [step,start,behind,blank]

-- A blank makes a difference only where something follows.
theorem behind_step (dark : isBlank c = false) : behind.step c = (' ' :: (start.step c).1,(start.step c).2) := by
  simp [step,start,behind,dark]

theorem behind_run (s : Text) : behind.run s =
    if s.dropWhile isBlank = [] then [] else ' ' :: start.run (s.dropWhile isBlank) := by
  induction s with
  | nil => rfl
  | cons c s ih =>
    cases blank : isBlank c with
    | true =>
      rw [List.dropWhile_cons_of_pos blank,← ih,run,(step_blank blank).2]
      rfl
    | false =>
      rw [List.dropWhile_cons_of_neg (by rw [blank]; exact Bool.false_ne_true),if_neg (List.cons_ne_nil c s),run,behind_step blank,run]
      rfl

theorem run_blank (blank : isBlank c = true) (s : Text) : start.run (c :: s) = behind.run s := by
  rw [run,(step_blank blank).1]
  rfl

theorem run_blanks (blanks : s.dropWhile isBlank = []) : start.run s = [] := by
  cases s with
  | nil => rfl
  | cons c s =>
    have all := List.dropWhile_eq_nil_iff.mp blanks
    rw [run_blank (all c List.mem_cons_self),behind_run,if_pos]
    exact List.dropWhile_eq_nil_iff.mpr fun d inside => all d (List.mem_cons_of_mem c inside)

theorem behind_after (c : Char) (s : Text) : behind.after (c :: s) = start.after (c :: s) := by
  cases blank : isBlank c with
  | true => rw [after,after,(step_blank blank).1,(step_blank blank).2]
  | false => rw [after,after,behind_step blank]

-- The first character stays, if it is no blank.
theorem run_first (dark : isBlank c = false) (s : Text) : ∃ t, start.run (c :: s) = c :: t := by
  by_cases escape : c = '\\'
  · subst escape
    exact ⟨_,by rw [run,step_escape]; rfl⟩
  cases mark : isQuoteMark c with
  | true => exact ⟨_,run_quote mark s⟩
  | false => exact ⟨_,run_solid dark mark escape s⟩

end Collapsing
-- A text outside of strings and comments, in which both see blanks at the same places, but those that are escaped.
def isPlainFrom (escaped : Bool) : Text → Bool
  | [] => true
  | c :: s => (escaped || if isBlank c then isAsciiBlank c else !isQuoteMark c) && isPlainFrom (!escaped && c = '\\') s

def isPlain (s : Text) : Bool := isPlainFrom false s

variable {c d : Char} {s s' t u v w f g z : Text}

theorem plain_escape (c : Char) (s : Text) : isPlain ('\\' :: c :: s) = isPlain s := rfl

theorem plain_cons (escape : c ≠ '\\') (s : Text) :
    isPlain (c :: s) = ((if isBlank c then isAsciiBlank c else !isQuoteMark c) && isPlain s) := by
  simp [isPlain,isPlainFrom,escape]

-- What comes next is a blank to both, or to none.
def Known (z : Text) : Prop := ∀ c ∈ z.head?, isBlank c = true → isAsciiBlank c = true

-- A lexeme and what follows it, of which a blank that belongs to an escape is no part.
structure Word (f z : Text) : Prop where
  plain : isPlain f = true
  known : Known z
  apart : (Collapsing.start.after f).pending = true → Dark z ∨ z.dropWhile isBlank = []

theorem Word.tail (word : Word (g ++ f) z) (shown : isPlain (g ++ f) = true → isPlain f = true)
    (same : f ≠ [] → Collapsing.start.after (g ++ f) = Collapsing.start.after f) : Word f z where
  plain := shown word.plain
  known := word.known
  apart pending := by
    refine word.apart ?_
    rw [same]
    · exact pending
    · rintro rfl
      cases pending

-- A text that goes on as a word of the source, the end of `w`, with what collapsing makes of it.
def Collapsed (w z s s' : Text) : Prop := s' = Collapsing.start.run s ∧ ∀ f, s = f ++ z → Word f z ∧ f <:+ w

theorem Collapsed.tail (rel : Collapsed w z (g ++ s) s') (shown : ∀ f, isPlain (g ++ f) = true → isPlain f = true)
    (same : ∀ f, f ≠ [] → Collapsing.start.after (g ++ f) = Collapsing.start.after f) : Collapsed w z s (Collapsing.start.run s) := by
  refine ⟨rfl,fun f whole => ?_⟩
  obtain ⟨word,ends⟩ := rel.2 (g ++ f) (by rw [whole,List.append_assoc])
  exact ⟨word.tail (shown f) (same f),(List.suffix_append g f).trans ends⟩

theorem Collapsed.ascii (rel : Collapsed w z (c :: s) s') (left : z <:+ c :: s) (blank : isBlank c = true) :
    isAsciiBlank c = true := by
  obtain ⟨f,whole⟩ := left
  have word := (rel.2 f whole.symm).1
  cases f with
  | nil =>
    cases whole
    exact word.known c rfl blank
  | cons d f =>
    obtain ⟨rfl,_⟩ := List.cons.inj whole
    have shown := word.plain
    rw [plain_cons (by rintro rfl; cases blank),if_pos blank,Bool.and_eq_true] at shown
    exact shown.1

theorem behind_shut (s : Text) : Shut (Collapsing.behind.run s) := by
  rw [Collapsing.behind_run]
  split
  · exact .inl rfl
  · exact .inr (.inl ⟨_,_,rfl,rfl⟩)

theorem Collapsed.view (rel : Collapsed w z s s') : View (Collapsed w z) z s s' := by
  obtain ⟨rfl,_⟩ := id rel
  cases s with
  | nil => exact .done
  | cons c t =>
    cases blank : isBlank c with
    | true =>
      rw [Collapsing.run_blank blank]
      exact .gap blank (fun left => rel.ascii left blank) (behind_shut t)
    | false =>
      by_cases escape : c = '\\'
      · subst escape
        cases t with
        | nil =>
          refine .lone ⟨rfl,fun f whole => ?_⟩
          obtain ⟨rfl,rfl⟩ := List.append_eq_nil_iff.mp whole.symm
          exact ⟨⟨rfl,nofun,nofun⟩,List.nil_suffix⟩
        | cons d u =>
          rw [Collapsing.run_escape]
          exact .escape (rel.tail (g := ['\\',d]) (fun f shown => (plain_escape d f).symm.trans shown) fun _ _ => rfl)
      · cases mark : isQuoteMark c with
        | true =>
          rw [Collapsing.run_quote mark]
          refine .quote mark fun ⟨f,whole⟩ => ?_
          have shown := (rel.2 (c :: f) (by rw [← whole]; rfl)).1.plain
          rw [plain_cons escape,if_neg (by rw [blank]; exact Bool.false_ne_true),mark] at shown
          cases shown
        | false =>
          rw [Collapsing.run_solid blank mark escape]
          refine .char escape (rel.tail (g := [c]) (fun f shown => ?_) fun f _ => ?_)
          · rw [List.singleton_append,plain_cons escape,Bool.and_eq_true] at shown
            exact shown.2
          · rw [List.singleton_append,Collapsing.after,Collapsing.step_solid blank mark escape]

theorem plain_past (blanks : ∀ c ∈ g, isAsciiBlank c = true) (f : Text) (shown : isPlain (g ++ f) = true) : isPlain f = true := by
  induction g with
  | nil => exact shown
  | cons c g ih =>
    have blank := blanks c List.mem_cons_self
    rw [List.cons_append,plain_cons (by rintro rfl; cases blank),Bool.and_eq_true] at shown
    exact ih (fun d inside => blanks d (List.mem_cons_of_mem c inside)) shown.2

theorem behind_past (blanks : ∀ c ∈ g, isAsciiBlank c = true) (s : Text) : Collapsing.behind.after (g ++ s) = Collapsing.behind.after s ∧
    Collapsing.behind.run (g ++ s) = Collapsing.behind.run s := by
  induction g with
  | nil => exact ⟨rfl,rfl⟩
  | cons c g ih =>
    have past := (Collapsing.step_blank (blank_of_ascii (blanks c List.mem_cons_self))).2
    rw [List.cons_append,Collapsing.after,Collapsing.run,past]
    exact ih fun d inside => blanks d (List.mem_cons_of_mem c inside)

theorem start_past (blanks : ∀ c ∈ g, isAsciiBlank c = true) (some : g ≠ []) (s : Text) :
    Collapsing.start.after (g ++ s) = Collapsing.behind.after s ∧ Collapsing.start.run (g ++ s) = Collapsing.behind.run s := by
  cases g with
  | nil => exact absurd rfl some
  | cons c g =>
    have past := Collapsing.step_blank (blank_of_ascii (blanks c List.mem_cons_self))
    rw [List.cons_append,Collapsing.after,Collapsing.run,past.1]
    exact behind_past (fun d inside => blanks d (List.mem_cons_of_mem c inside)) s

theorem Collapsed.past (rel : Collapsed w z (g ++ s) s') (blanks : ∀ c ∈ g, isAsciiBlank c = true) (some : g ≠ []) :
    s' = Collapsing.behind.run s ∧ Collapsed w z s (Collapsing.start.run s) := by
  refine ⟨rel.1.trans (start_past blanks some s).2,rel.tail (plain_past blanks) fun f more => ?_⟩
  rw [(start_past blanks some f).1]
  cases f with
  | nil => exact absurd rfl more
  | cons c f => exact Collapsing.behind_after c f

-- Only blanks of the source are taken for such.
theorem Collapsed.dark (rel : Collapsed w z s s') (left : z <:+ s ∨ Dark s) (shown : begins isAsciiBlank s = false) : Dark s := by
  rcases left with left | dark
  · rintro c first
    cases blank : isBlank c with
    | false => rfl
    | true =>
      cases s with
      | nil => cases first
      | cons d t =>
        cases first
        rw [begins_cons,rel.ascii left blank] at shown
        cases shown
  · exact dark

theorem dark_skip (dark : Dark s) : s.dropWhile isBlank = s := by
  cases s with
  | nil => rfl
  | cons c t => rw [List.dropWhile_cons_of_neg (by rw [dark c rfl]; exact Bool.false_ne_true)]

theorem run_dark (dark : Dark s) : Dark (Collapsing.start.run s) := by
  cases s with
  | nil => nofun
  | cons c t =>
    obtain ⟨u,first⟩ := Collapsing.run_first (dark c rfl) t
    rw [first]
    rintro _ ⟨⟩
    exact dark c rfl

theorem dark_begins (dark : Dark s) : begins isAsciiBlank s = false := by
  cases s with
  | nil => rfl
  | cons c t =>
    cases ascii : isAsciiBlank c with
    | false => exact ascii
    | true => cases (dark c rfl).symm.trans (blank_of_ascii ascii)

theorem oneBlank_dark (dark : begins isAsciiBlank s = false) : oneBlank s = s := by
  fun_cases oneBlank s
  · cases dark
  · rename_i blank
    rw [begins_cons,blank] at dark
    cases dark
  · rfl
  · rfl

theorem oneBlank_cases (s : Text) : begins isAsciiBlank s = false ∨ ∃ g, g ≠ [] ∧ (∀ c ∈ g, isAsciiBlank c = true) ∧ s = g ++ oneBlank s := by
  fun_cases oneBlank s with
  | case1 s => exact .inr ⟨['\r','\n'],by simp,by simp [isAsciiBlank],rfl⟩
  | case2 c s _ blank => exact .inr ⟨[c],by simp,by simpa using blank,rfl⟩
  | case3 c s _ dark => exact .inl (by simpa using dark)
  | case4 => exact .inl rfl

theorem Collapsed.eat (rel : Collapsed w z s s') (left : z <:+ oneBlank s) :
    Collapsed w z (oneBlank s) (oneBlank s') ∨ (z ≠ oneBlank s ∧ begins isAsciiBlank (oneBlank s) = true) := by
  rcases oneBlank_cases s with dark | ⟨g,some,blanks,whole⟩
  · rw [oneBlank_dark dark] at left ⊢
    rw [rel.1,oneBlank_dark (dark_begins (run_dark (rel.dark (.inl left) dark)))]
    exact .inl ⟨rfl,rel.2⟩
  · have apart := fun end' : z = oneBlank s => (rel.2 g (end' ▸ whole)).1.apart
    rw [whole] at rel
    generalize oneBlank s = r at rel left apart
    obtain ⟨rfl,inner⟩ := rel.past blanks some
    rw [Collapsing.behind_run]
    by_cases none : r.dropWhile isBlank = []
    · rw [if_pos none]
      rw [Collapsing.run_blanks none] at inner
      exact .inl inner
    · rw [if_neg none]
      cases r with
      | nil => exact absurd rfl none
      | cons c t =>
        cases blank : isBlank c with
        | false =>
          rw [List.dropWhile_cons_of_neg (by rw [blank]; exact Bool.false_ne_true)]
          exact .inl inner
        | true =>
          refine .inr ⟨fun end' => ?_,inner.ascii left blank⟩
          have pending : (Collapsing.start.after g).pending = true := by
            have past := (start_past blanks some []).1
            rw [List.append_nil] at past
            rw [past]
            rfl
          rcases apart end' pending with dark | all
          · rw [end'] at dark
            cases (dark c rfl).symm.trans blank
          · exact none (end' ▸ all)

theorem take_blanks (s : Text) : ∀ c ∈ s.takeWhile isAsciiBlank, isAsciiBlank c = true := List.all_eq_true.mp List.all_takeWhile

-- Blanks at the front are one afterwards, or none if nothing follows.
theorem run_skip (dark : Dark (s.dropWhile isAsciiBlank)) :
    (Collapsing.start.run s).dropWhile isAsciiBlank = Collapsing.start.run (s.dropWhile isAsciiBlank) := by
  have whole := List.takeWhile_append_dropWhile (p := isAsciiBlank) (l := s)
  by_cases some : s.takeWhile isAsciiBlank = []
  · rw [some,List.nil_append] at whole
    rw [whole] at dark ⊢
    exact skip_dark (dark_begins (run_dark dark))
  · have past := (start_past (take_blanks s) some (s.dropWhile isAsciiBlank)).2
    rw [whole,Collapsing.behind_run,dark_skip dark] at past
    rw [past]
    split
    · rename_i none
      rw [none]
      rfl
    · rw [List.dropWhile_cons_of_pos (by rfl),skip_dark (dark_begins (run_dark dark))]

theorem Collapsed.skip (rel : Collapsed w z s s') (left : z <:+ s.dropWhile isAsciiBlank ∨ Dark (s.dropWhile isAsciiBlank)) :
    Collapsed w z (s.dropWhile isAsciiBlank) (s'.dropWhile isAsciiBlank) := by
  have whole := List.takeWhile_append_dropWhile (p := isAsciiBlank) (l := s)
  have inner : Collapsed w z (s.dropWhile isAsciiBlank) (Collapsing.start.run (s.dropWhile isAsciiBlank)) := by
    by_cases some : s.takeWhile isAsciiBlank = []
    · rw [some,List.nil_append] at whole
      rw [whole]
      exact ⟨rfl,rel.2⟩
    · rw [← whole] at rel
      exact (rel.past (take_blanks s) some).2
  rw [rel.1,run_skip (inner.dark left (skip_begins s))]
  exact inner

theorem collapsed_tracks (w : Text) : Tracks (Collapsed w) := ⟨Collapsed.view,Collapsed.eat,Collapsed.skip⟩

theorem collapsed_firm (w z : Text) : Firm (Collapsed w) z := by
  intro c s s' rel blank _
  rw [rel.1,Collapsing.run_blank (blank_of_ascii blank),Collapsing.behind_run]
  split
  · exact .inl rfl
  · exact .inr rfl

-- Of the states that can come about, those with a blank pending are outside of strings and escapes.
def Collapsing.Sane (state : Collapsing) : Prop := state.pending = true → state.quote = none ∧ state.escaped = false

namespace Collapsing
variable {state : Collapsing} {c : Char} {s t : Text}

theorem sane_idle (idle : state.pending = false) : state.Sane := by
  intro pending
  rw [idle] at pending
  cases pending

theorem sane_start : start.Sane := sane_idle rfl

theorem Sane.outside {mark : Char} {escaped pending : Bool} (sane : Sane ⟨some mark,escaped,pending⟩) : false = pending := by
  cases pending with
  | false => rfl
  | true => cases (sane rfl).1

theorem Sane.unescaped {quote : Option Char} {pending : Bool} (sane : Sane ⟨quote,true,pending⟩) : false = pending := by
  cases pending with
  | false => rfl
  | true => cases (sane rfl).2

theorem Sane.step (sane : state.Sane) (c : Char) : (state.step c).2.Sane := by
  obtain ⟨quote,escaped,pending⟩ := state
  cases quote with
  | some mark =>
    cases sane.outside
    simp only [Collapsing.step]
    split
    · exact sane_idle rfl
    · split
      · exact sane_idle rfl
      · split <;> exact sane_idle rfl
  | none =>
    cases escaped with
    | true =>
      cases sane.unescaped
      exact sane_idle rfl
    | false =>
      simp only [Collapsing.step,Bool.false_eq_true,↓reduceIte]
      split
      · exact fun _ => ⟨rfl,rfl⟩
      · dsimp only
        split
        · exact sane_idle rfl
        · split <;> exact sane_idle rfl

theorem Sane.after (sane : state.Sane) (s : Text) : (state.after s).Sane := by
  induction s generalizing state with
  | nil => exact sane
  | cons c s ih => exact ih (sane.step c)

-- What a character adds, and whether a blank is pending then: outside of strings blanks wait.
theorem step_cases (sane : state.Sane) (c : Char) :
    (state.step c = ([],behind) ∧ isBlank c = true) ∨
      ((state.step c).1 = (if state.pending then [' ',c] else [c]) ∧ (state.step c).2.pending = false) := by
  obtain ⟨quote,escaped,pending⟩ := state
  cases quote with
  | some mark =>
    cases sane.outside
    refine .inr ⟨rfl,?_⟩
    simp only [Collapsing.step]
    split
    · rfl
    · split
      · rfl
      · split <;> rfl
  | none =>
    cases escaped with
    | true =>
      cases sane.unescaped
      exact .inr ⟨rfl,rfl⟩
    | false =>
      simp only [Collapsing.step,Bool.false_eq_true,↓reduceIte]
      split
      · exact .inl ⟨rfl,‹_›⟩
      · refine .inr ⟨rfl,?_⟩
        dsimp only
        split
        · rfl
        · split <;> rfl

-- Only a backslash opens an escape.
theorem step_unescaped (state : Collapsing) (escape : c ≠ '\\') : (state.step c).2.escaped = false := by
  obtain ⟨quote,escaped,pending⟩ := state
  cases escaped with
  | true => cases quote <;> rfl
  | false =>
    cases quote with
    | some mark =>
      simp only [Collapsing.step,Bool.false_eq_true,↓reduceIte,escape]
      split <;> rfl
    | none =>
      simp only [Collapsing.step,Bool.false_eq_true,↓reduceIte,escape]
      split
      · rfl
      · dsimp only
        split <;> rfl

-- A slash at the front has been there before.
theorem run_slash (sane : state.Sane) (now : state.pending = false) (first : state.run s = '/' :: t) : ∃ u, s = '/' :: u := by
  cases s with
  | nil => cases first
  | cons c s =>
    rw [run] at first
    rcases step_cases sane c with ⟨waits,_⟩ | ⟨added,_⟩
    · rw [waits,List.nil_append,behind_run] at first
      split at first <;> cases first
    · rw [added,now] at first
      cases (List.cons.inj first).1
      exact ⟨s,rfl⟩

end Collapsing

theorem afterComment_step (apart : c = '*' → ∀ t, s ≠ '/' :: t) : afterComment (c :: s) = afterComment s := by
  rw [afterComment]
  exact fun t star same => apart star t same

-- A comment stays one, whatever the strings that are seen in it, and ends where it did.
theorem run_afterComment {state : Collapsing} (sane : state.Sane) (s : Text) : ∃ f, s = f ++ afterComment s ∧
    afterComment (state.run s) = (state.after f).run (afterComment s) ∧
    (afterComment s ≠ [] → (state.after f).escaped = false ∧ (state.after f).pending = false) := by
  induction s using afterComment.induct generalizing state with
  | case1 s =>
    rcases Collapsing.step_cases sane '*' with ⟨_,blank⟩ | ⟨star,now⟩
    · cases blank
    rcases Collapsing.step_cases (sane.step '*') '/' with ⟨_,blank⟩ | ⟨slash,closed⟩
    · cases blank
    refine ⟨['*','/'],by rw [afterComment]; rfl,?_,fun _ => ⟨?_,closed⟩⟩
    · rw [Collapsing.run,Collapsing.run,slash,now,star,afterComment]
      split <;> simp [afterComment,Collapsing.after]
    · exact Collapsing.step_unescaped _ (by decide)
  | case2 c s other ih =>
    have apart : c = '*' → ∀ t, s ≠ '/' :: t := fun star t same => other t star same
    obtain ⟨f,whole,rest,closed⟩ := ih (sane.step c)
    rw [afterComment_step apart]
    refine ⟨c :: f,congrArg (c :: ·) whole,?_,closed⟩
    rw [Collapsing.run,Collapsing.after,← rest]
    rcases Collapsing.step_cases sane c with ⟨waits,_⟩ | ⟨added,now⟩
    · rw [waits]
      rfl
    · have inner : afterComment (c :: (state.step c).2.run s) = afterComment ((state.step c).2.run s) := by
        refine afterComment_step fun star t first => ?_
        obtain ⟨u,same⟩ := Collapsing.run_slash (sane.step c) now first
        exact apart star u same
      rw [added]
      split
      · exact (afterComment_step fun same => absurd same (by decide)).trans inner
      · exact inner
  | case3 => exact ⟨[],rfl,rfl,fun some => absurd rfl some⟩

theorem within_inside (mark : isQuoteMark d = true) (same : s' = (Collapsing.within d).run s) :
    Inside d (fun s s' => s' = (Collapsing.within d).run s) (fun s s' => s' = Collapsing.start.run s) z s s' := by
  have escape : d ≠ '\\' := by rintro rfl; cases mark
  subst same
  cases s with
  | nil => exact .done rfl
  | cons c s =>
    by_cases backslash : c = '\\'
    · subst backslash
      cases s with
      | nil => exact .lone rfl
      | cons e s => exact .escape rfl
    · by_cases close : c = d
      · subst close
        have kept : (Collapsing.within c).run (c :: s) = c :: Collapsing.start.run s := by
          rw [Collapsing.run]
          simp [Collapsing.step,Collapsing.within,Collapsing.start,escape]
        rw [kept]
        exact .close rfl
      · have kept : (Collapsing.within d).run (c :: s) = c :: (Collapsing.within d).run s := by
          rw [Collapsing.run]
          simp [Collapsing.step,Collapsing.within,backslash,close]
        rw [kept]
        exact .char close backslash rfl

theorem isPlainFrom_front {escaped : Bool} (plain : isPlainFrom escaped (s ++ t) = true) : isPlainFrom escaped s = true := by
  induction s generalizing escaped with
  | nil => rfl
  | cons c s ih =>
    rw [List.cons_append,isPlainFrom,Bool.and_eq_true] at plain
    rw [isPlainFrom,plain.1,ih plain.2,Bool.and_true]

-- Nothing in a plain text opens a string.
theorem step_plain {state : Collapsing} (outside : state.quote = none)
    (plain : (state.escaped || if isBlank c then isAsciiBlank c else !isQuoteMark c) = true) :
    (state.step c).2.quote = none ∧ (state.step c).2.escaped = (!state.escaped && c = '\\') := by
  obtain ⟨quote,escaped,pending⟩ := state
  cases outside
  cases escaped with
  | true => exact ⟨rfl,rfl⟩
  | false =>
    cases blank : isBlank c with
    | true =>
      have ink : c ≠ '\\' := by rintro rfl; cases blank
      simp [Collapsing.step,blank,ink]
    | false =>
      have mark : isQuoteMark c = false := by simpa [blank] using plain
      by_cases escape : c = '\\'
      · subst escape
        exact ⟨rfl,rfl⟩
      · simp [Collapsing.step,Collapsing.start,blank,mark,escape]

theorem plain_outside {state : Collapsing} (outside : state.quote = none) (plain : isPlainFrom state.escaped s = true) :
    (state.after s).quote = none := by
  induction s generalizing state with
  | nil => exact outside
  | cons c s ih =>
    rw [isPlainFrom,Bool.and_eq_true] at plain
    obtain ⟨quote,escaped⟩ := step_plain outside plain.1
    exact ih quote (escaped ▸ plain.2)

-- Outside of strings a parenthesis leaves nothing open, be it escaped or not.
theorem after_paren {state : Collapsing} (sane : state.Sane) (outside : state.quote = none) : state.after [')'] = .start := by
  obtain ⟨quote,escaped,pending⟩ := state
  cases outside
  cases escaped with
  | false => rfl
  | true =>
    cases sane.unescaped
    rfl

theorem Collapsed.end (rel : Collapsed w z (f ++ z) s') : Collapsed w z z (Collapsing.start.run z) := by
  have known := (rel.2 f rfl).1.known
  refine ⟨rfl,fun g whole => ?_⟩
  obtain rfl : g = [] := List.append_cancel_right (show g ++ z = [] ++ z from whole.symm)
  exact ⟨⟨rfl,known,nofun⟩,List.nil_suffix⟩

-- What stands in a word from the contents of an address on, and whether collapsing leaves it as it is.
def Steady (w v : Text) : Prop := ∀ k ∈ [v,v ++ [')']], k <:+ w → Collapsing.start.run k = k

theorem collapsed_rigid (steady : Steady w v) (z : Text) : Rigid (Collapsed w) z v := by
  constructor
  · intro s' rel
    have whole : v ++ ')' :: z = (v ++ [')']) ++ z := by rw [List.append_assoc,List.singleton_append]
    rw [whole] at rel
    obtain ⟨word,ends⟩ := rel.2 _ rfl
    have inner : (Collapsing.start.after v).quote = none := @plain_outside v .start rfl (isPlainFrom_front word.plain)
    have state : Collapsing.start.after (v ++ [')']) = .start := by
      rw [Collapsing.after_append,after_paren (Collapsing.sane_start.after v) inner]
    refine ⟨Collapsing.start.run z,?_,rel.end⟩
    rw [rel.1,Collapsing.run_append,steady _ (by simp) ends,state,List.append_assoc,List.singleton_append]
  · rintro s' rfl rel
    obtain ⟨_,ends⟩ := rel.2 v (List.append_nil v).symm
    rw [← List.append_nil v] at rel
    exact ⟨by rw [rel.1,List.append_nil,steady v (by simp) ends],rel.end⟩

def tokens (s : Text) : List Token := (lexemes s).map (·.token)

theorem tokens_nil : tokens [] = [] := by rw [tokens,lexemes_nil,List.map_nil]

theorem tokens_cons (c : Char) (s : Text) : tokens (c :: s) = (token c s).1 :: tokens (token c s).2 := by
  rw [tokens,lexemes_cons]
  rfl

-- The runs of tokens between blanks. Comments count for nothing.
def runs (ts : List Token) : List (List Token) := ((ts.filter (· ≠ .comment)).splitOnP (· = .blank)).filter (· ≠ [])
def phrases (s : Text) : List (List Token) := runs (tokens s)

instance (w v : Text) : Decidable (Steady w v) := inferInstanceAs (Decidable (∀ k ∈ _, _ → _))

-- Whether collapsing takes a lexeme for what it is: quote marks make a string of what is one and of
-- nothing else, and what it takes for blanks are blanks. It changes nothing in an address that cannot
-- be read, in which blanks count.
def Lexeme.isLegible (l : Lexeme) : Bool :=
  match l.token with
  | .blank | .quoted _ => true
  | .badQuoted _ => false
  | .comment => (Collapsing.start.after l.text).quote = none
  | .badAddress v => isPlain l.text && Steady l.text v
  | _ => isPlain l.text

theorem Lexeme.isLegible_word {l : Lexeme} (word : l.token.isWord = true) (legible : l.isLegible = true) :
    isPlain l.text = true ∧ ∀ v, l.token = .badAddress v → Steady l.text v := by
  unfold isLegible at legible
  split at legible
  any_goals rename_i same; rw [same] at word; cases word
  · rename_i v same
    rw [Bool.and_eq_true,decide_eq_true_eq] at legible
    refine ⟨legible.1,fun v' bad => ?_⟩
    cases same.symm.trans bad
    exact legible.2
  · rename_i other
    exact ⟨legible,fun v bad => absurd bad (other v)⟩

-- A blank that belongs to an escape is the only one in front of what follows.
def isApart (l : Lexeme) : List Lexeme → Bool
  | m :: _ :: _ => !((Collapsing.start.after l.text).pending && m.token = .blank)
  | _ => true

def areLegible : List Lexeme → Bool
  | [] => true
  | l :: more => l.isLegible && isApart l more && areLegible more

def Legible (s : Text) : Prop := areLegible (lexemes s) = true

instance (s : Text) : Decidable (Legible s) := inferInstanceAs (Decidable (_ = true))

-- The first lexeme of a legible text, and the rest of the text.
theorem Legible.first (legible : Legible (c :: s)) : ∃ f, s = f ++ (token c s).2 ∧
    (⟨(token c s).1,c :: f,.start⟩ : Lexeme).isLegible = true ∧
    isApart ⟨(token c s).1,c :: f,.start⟩ (lexemes (token c s).2) = true ∧ Legible (token c s).2 := by
  rw [Legible,lexemes_cons,areLegible,Bool.and_eq_true,Bool.and_eq_true] at legible
  exact ⟨_,(frontOf_append (token_suffix c s)).symm,legible.1.1,legible.1.2,legible.2⟩

theorem Legible.known (legible : Legible z) : Known z := by
  cases z with
  | nil => nofun
  | cons c s =>
    rintro _ ⟨⟩ blank
    obtain ⟨f,_,here,_,_⟩ := legible.first
    rcases token_cases c s with word | ascii | ⟨mark,_⟩ | ⟨rfl,_⟩
    · have shown : isPlain (c :: f) = true := (Lexeme.isLegible_word word here).1
      rw [plain_cons (by rintro rfl; cases blank),if_pos blank,Bool.and_eq_true] at shown
      exact shown.1
    · exact ascii
    · cases (quote_dark mark).symm.trans blank
    · cases blank

theorem token_blank (blank : isAsciiBlank c = true) (s : Text) : token c s = (.blank,s.dropWhile isAsciiBlank) := by
  unfold token
  rw [if_pos blank]

theorem token_quote (mark : isQuoteMark c = true) (s : Text) : token c s = string c s := by
  rcases quote_cases mark with rfl | rfl <;> rfl

theorem token_escape (inside : startsNewline s = false) : token '\\' s = identLike ('\\' :: s) := by
  have enter : token '\\' s = if startsNewline s then (.delim '\\',s) else identLike ('\\' :: s) := rfl
  rw [enter,inside]
  rfl

theorem token_stray (newline : startsNewline s = true) : token '\\' s = (.delim '\\',s) := by
  have enter : token '\\' s = if startsNewline s then (.delim '\\',s) else identLike ('\\' :: s) := rfl
  rw [enter,newline]
  rfl

theorem string_isWord (m : Char) (s : Text) : (string m s).1.isWord = false := by
  unfold string
  dsimp only
  split <;> rfl

theorem lexemes_eq_nil (none : lexemes s = []) : s = [] := by
  have text := lexemes_text s
  rw [none] at text
  exact text.symm

-- Behind an escape with its blank comes no other one, or nothing else.
theorem Legible.apart (legible : Legible z) {l : Lexeme} (apart : isApart l (lexemes z) = true)
    (pending : (Collapsing.start.after l.text).pending = true) : Dark z ∨ z.dropWhile isBlank = [] := by
  cases z with
  | nil => exact .inl nofun
  | cons d u =>
    cases blank : isBlank d with
    | false => exact .inl (by rintro _ ⟨⟩; exact blank)
    | true =>
      have ascii := legible.known d rfl blank
      rw [lexemes_cons,token_blank ascii] at apart
      cases more : lexemes (u.dropWhile isAsciiBlank) with
      | nil =>
        refine .inr (List.dropWhile_eq_nil_iff.mpr fun e inside => ?_)
        rcases List.mem_cons.mp inside with rfl | inside
        · exact blank
        · exact blank_of_ascii (List.dropWhile_eq_nil_iff.mp (lexemes_eq_nil more) e inside)
      | cons m more' =>
        rw [more] at apart
        simp [isApart,pending] at apart

theorem Legible.word (legible : Legible (c :: s)) (word : (token c s).1.isWord = true) :
    ∃ w, Collapsed w (token c s).2 (c :: s) (Collapsing.start.run (c :: s)) ∧ ∀ v, (token c s).1 = .badAddress v → Steady w v := by
  obtain ⟨f,whole,here,apart,rest⟩ := legible.first
  obtain ⟨shown,steady⟩ := Lexeme.isLegible_word word here
  refine ⟨c :: f,⟨rfl,fun g same => ?_⟩,steady⟩
  have front : g = c :: f := by
    conv at same => lhs; rw [whole]
    exact (List.append_cancel_right (show (c :: f) ++ _ = g ++ _ from same)).symm
  subst front
  exact ⟨⟨shown,rest.known,rest.apart apart⟩,List.suffix_rfl⟩

-- What was read before of a text that begins with `c`, and what is read now.
def Again (c : Char) (s : Text) : Prop := ∃ d t, Collapsing.start.run (c :: s) = d :: t ∧
  token d t = ((token c s).1,Collapsing.start.run (token c s).2)

theorem word_again (legible : Legible (c :: s)) (word : (token c s).1.isWord = true)
    (settled : c = '\\' → startsNewline s = false) : Again c s := by
  obtain ⟨w,rel,steady⟩ := legible.word word
  have tracks := collapsed_tracks w
  have calm : Settled (Collapsed w) (token c s).2 (token c s).1 :=
    ⟨fun _ => collapsed_firm w _,fun v bad => collapsed_rigid (steady v bad) _⟩
  have view := rel.view
  generalize kept : Collapsing.start.run (c :: s) = s' at rel view
  cases view with
  | @char _ _ t plain more =>
    obtain ⟨same,behind⟩ := tracks.token plain rel more rfl word calm
    exact ⟨c,t,kept,Prod.ext same behind.1⟩
  | @escape d u t more =>
    have inside : ∀ u, startsNewline (d :: u) = false := fun _ => settled rfl
    rw [token_escape (inside _)] at rel calm
    obtain ⟨same,behind⟩ := (collapsed_tracks _).identLike rel rfl calm
    exact ⟨'\\',d :: t,kept,by rw [token_escape (inside _),token_escape (inside _)]; exact Prod.ext same behind.1⟩
  | lone =>
    refine ⟨'\\',[],kept,Prod.ext rfl ?_⟩
    rw [List.suffix_nil.mp (token_suffix '\\' [])]
    rfl
  | quote mark =>
    rw [token_quote mark,string_isWord] at word
    cases word
  | gap blank =>
    rw [token_blank (legible.known c rfl blank)] at word
    cases word

theorem comment_again (legible : Legible ('/' :: '*' :: s)) : Again '/' ('*' :: s) := by
  obtain ⟨f,whole,here,_,_⟩ := legible.first
  obtain ⟨g,same,inner,closed⟩ := run_afterComment Collapsing.sane_start s
  have enter : ∀ s, token '/' ('*' :: s) = (.comment,afterComment s) := fun _ => rfl
  have kept : Collapsing.start.run ('/' :: '*' :: s) = '/' :: '*' :: Collapsing.start.run s := rfl
  refine ⟨'/',_,kept,?_⟩
  rw [enter] at whole here ⊢
  rw [enter,inner]
  dsimp only at whole here ⊢
  refine Prod.ext rfl ?_
  have front : f = '*' :: g := by
    conv at whole => lhs; rw [same]
    exact (List.append_cancel_right (show ('*' :: g) ++ _ = f ++ _ from whole)).symm
  subst front
  have outside : (Collapsing.start.after g).quote = none := of_decide_eq_true here
  by_cases none : afterComment s = []
  · rw [none]
    rfl
  · obtain ⟨escaped,pending⟩ := closed none
    generalize Collapsing.start.after g = state at outside escaped pending
    obtain ⟨quote,_,_⟩ := state
    cases outside
    cases escaped
    cases pending
    rfl

theorem quoted_again (legible : Legible (c :: s)) (mark : isQuoteMark c = true) : Again c s := by
  obtain ⟨f,whole,here,_,_⟩ := legible.first
  have complete : (quoted c s).1.whole = true := by
    rw [token_quote mark] at here
    unfold string Lexeme.isLegible at here
    cases complete : (quoted c s).1.whole with
    | true => rfl
    | false => simp [complete] at here
  obtain ⟨z',same,rest⟩ := quoted_inside mark (z := (quoted c s).2) (within_inside mark) (Eq.refl ((Collapsing.within c).run s)) rfl
  rw [complete] at rest
  refine ⟨c,_,Collapsing.run_quote mark s,?_⟩
  rw [token_quote mark,token_quote mark,string,string,same]
  refine Prod.ext rfl ?_
  rcases rest with rest | ⟨bad,_⟩
  · exact rest
  · cases bad

-- At its end a text may lose a blank.
def Trimmed (some all : List Token) : Prop := some = all ∨ some ++ [.blank] = all

theorem Trimmed.cons {some all : List Token} (trimmed : Trimmed some all) (t : Token) : Trimmed (t :: some) (t :: all) := by
  rcases trimmed with rfl | rfl
  · exact .inl rfl
  · exact .inr rfl

theorem Again.tokens (again : Again c s) (later : Trimmed (tokens (Collapsing.start.run (token c s).2)) (tokens (token c s).2)) :
    Trimmed (tokens (Collapsing.start.run (c :: s))) (tokens (c :: s)) := by
  obtain ⟨d,t,kept,read⟩ := again
  rw [kept,tokens_cons,tokens_cons,read]
  exact later.cons _

theorem tokens_blank (blank : isAsciiBlank c = true) (s : Text) : tokens (c :: s) = .blank :: tokens (s.dropWhile isAsciiBlank) := by
  rw [tokens_cons,token_blank blank]

theorem newline_blank (newline : isNewline c = true) : isAsciiBlank c = true := by
  simp only [isNewline,Bool.or_eq_true,decide_eq_true_eq] at newline
  rcases newline with (rfl | rfl) | rfl <;> rfl

theorem tokens_stray (newline : isNewline c = true) (s : Text) :
    tokens ('\\' :: c :: s) = .delim '\\' :: .blank :: tokens (s.dropWhile isAsciiBlank) := by
  rw [tokens_cons,token_stray (s := c :: s) newline,tokens_blank (newline_blank newline)]

theorem Legible.dark (legible : Legible (s.dropWhile isAsciiBlank)) : Dark (s.dropWhile isAsciiBlank) := by
  have shown := skip_begins s
  intro c first
  cases blank : isBlank c with
  | false => rfl
  | true =>
    rw [begins,Option.mem_def.mp first] at shown
    exact (legible.known c first blank).symm.trans shown

theorem tokens_run (legible : Legible s) : Trimmed (tokens (Collapsing.start.run s)) (tokens s) := by
  induction size : s.length using Nat.strongRecOn generalizing s with
  | ind size ih =>
    cases s with
    | nil => exact .inl rfl
    | cons c s =>
      obtain ⟨_,_,_,_,rest⟩ := legible.first
      have shorter := (token_suffix c s).length_le
      have later := ih (token c s).2.length (by simp only [List.length_cons] at size; omega) rest rfl
      rcases token_cases c s with word | blank | ⟨mark,_⟩ | ⟨rfl,u,rfl⟩
      · by_cases stray : c = '\\' ∧ startsNewline s = true
        · obtain ⟨rfl,newline⟩ := stray
          cases s with
          | nil => cases newline
          | cons d u =>
            rw [token_stray newline] at rest
            obtain ⟨_,_,_,_,rest⟩ := rest.first
            rw [token_blank (newline_blank newline)] at rest
            have fewer := (List.dropWhile_suffix isAsciiBlank (l := u)).length_le
            have later := ih (u.dropWhile isAsciiBlank).length (by simp only [List.length_cons] at size; omega) rest rfl
            rw [Collapsing.run_escape,tokens_stray newline,tokens_stray newline,run_skip rest.dark]
            exact (later.cons _).cons _
        · refine (word_again legible word fun escape => ?_).tokens later
          exact Bool.eq_false_iff.mpr fun newline => stray ⟨escape,newline⟩
      · rw [token_blank blank] at rest later
        rw [tokens_blank blank]
        have past := (behind_past (take_blanks s) (s.dropWhile isAsciiBlank)).2
        rw [List.takeWhile_append_dropWhile,Collapsing.behind_run (s.dropWhile isAsciiBlank),dark_skip rest.dark] at past
        rw [Collapsing.run_blank (blank_of_ascii blank),past]
        split
        · rename_i none
          exact .inr (by rw [none,tokens_nil]; rfl)
        · rw [tokens_blank (by rfl),skip_dark (dark_begins (run_dark rest.dark))]
          exact later.cons _
      · exact (quoted_again legible mark).tokens later
      · exact (comment_again legible).tokens later

theorem runs_blank (before after : List Token) : runs (before ++ .blank :: after) = runs before ++ runs after := by
  rw [runs,List.filter_append,List.filter_cons_of_pos (by rfl),List.splitOnP_append_cons _ _ (by rfl),List.filter_append]
  rfl

theorem Trimmed.runs {some all : List Token} (trimmed : Trimmed some all) : Css.runs some = Css.runs all := by
  rcases trimmed with rfl | rfl
  · rfl
  · rw [runs_blank]
    exact (List.append_nil _).symm

-- What collapsing makes of a text says the same: the same tokens in the same runs.
theorem collapse_phrases (legible : Legible s) : phrases (collapse s) = phrases s := by
  rw [collapse,trimStart,phrases,phrases]
  cases s with
  | nil => rfl
  | cons c t =>
    cases blank : isBlank c with
    | false =>
      rw [List.dropWhile_cons_of_neg (by rw [blank]; exact Bool.false_ne_true)]
      exact (tokens_run legible).runs
    | true =>
      have ascii := legible.known c rfl blank
      obtain ⟨_,_,_,_,rest⟩ := legible.first
      rw [token_blank ascii] at rest
      have front : t.dropWhile isBlank = t.dropWhile isAsciiBlank := by
        have past : (t.takeWhile isAsciiBlank ++ t.dropWhile isAsciiBlank).dropWhile isBlank = (t.dropWhile isAsciiBlank).dropWhile isBlank :=
          List.dropWhile_append_of_pos fun c inside => blank_of_ascii (take_blanks t c inside)
        rwa [List.takeWhile_append_dropWhile,dark_skip rest.dark] at past
      rw [List.dropWhile_cons_of_pos blank,front,tokens_blank ascii,(tokens_run rest).runs]
      exact (runs_blank [] _).symm

def mixedPhrases : Text := "/* don't, won't */ .a\t>  .b[c = 'd  e' ]  1.50px\turl(f(g)\n"

theorem collapse_phrases_mixed : Legible mixedPhrases ∧ phrases (collapse mixedPhrases) = phrases mixedPhrases := by
  have legible : Legible mixedPhrases := by decide +kernel
  exact ⟨legible,collapse_phrases legible⟩

end StyleTrim.Css
