import StyleTrim.Proofs.Phrases
import StyleTrim.Proofs.Blocks
namespace StyleTrim.Css
open Text Scan Component Read

-- What is printed of a value says what was read. All that may be missing is the space in front of
-- `!important`, and no token that ends in front of a delimiter reaches over it.

-- The same text, or one without the space in front of its `!important`, with `z` behind it. The space is
-- not that of an escape.
inductive Closer (z : Text) : Text → Text → Prop
  | nil : Closer z [] []
  | char {c : Char} {s s' : Text} (plain : c ≠ '\\') (more : Closer z s s') : Closer z (c :: s) (c :: s')
  | escape {c : Char} {s s' : Text} (more : Closer z s s') : Closer z ('\\' :: c :: s) ('\\' :: c :: s')
  | lone : Closer z ['\\'] ['\\']
  | space : Closer z (' ' :: (importantMark ++ z)) (importantMark ++ z)

variable {c d m : Char} {b r raw s s' t u v z : Text} {cs : List Component} {top : Option Bracket} {step : Step Token}

namespace Closer

theorem refl (z s : Text) : Closer z s s := by
  induction size : s.length using Nat.strongRecOn generalizing s with
  | ind size ih =>
    cases s with
    | nil => exact .nil
    | cons c t =>
      by_cases escape : c = '\\'
      · subst escape
        cases t with
        | nil => exact .lone
        | cons d t => exact .escape (ih t.length (by simp only [List.length_cons] at size; omega) t rfl)
      · exact .char escape (ih t.length (by simp [← size]) t rfl)

theorem same_or (rel : Closer z s s') : s' = s ∨ ' ' :: (importantMark ++ z) <:+ s := by
  induction rel with
  | nil | lone => exact .inl rfl
  | space => exact .inr List.suffix_rfl
  | @char c s s' _ _ ih =>
    rcases ih with rfl | whole
    · exact .inl rfl
    · exact .inr (within c whole)
  | @escape c s s' _ ih =>
    rcases ih with rfl | whole
    · exact .inl rfl
    · exact .inr (within _ (within c whole))

theorem tail (rel : Closer z (c :: s) (c :: s')) (plain : c ≠ '\\') : Closer z s s' := by
  cases rel with
  | char _ more => exact more
  | escape | lone => exact absurd rfl plain

theorem view (rel : Closer z s s') : View (Closer z) r s s' := by
  cases rel with
  | nil => exact .done
  | char plain more => exact .char plain more
  | escape more => exact .escape more
  | lone => exact .lone .nil
  | space => exact .gap rfl (fun _ => rfl) (.inr (.inr ⟨_,rfl⟩))

theorem oneBlank (rel : Closer z s s') : Closer z (oneBlank s) (oneBlank s') := by
  have inner := id rel
  cases inner with
  | nil | escape | lone => exact rel
  | space => exact refl z _
  | @char c t t' _ more =>
    by_cases carriage : c = '\r'
    · subst carriage
      cases id more with
      | nil | escape | lone | space => exact more
      | @char d u u' _ rest =>
        by_cases feed : d = '\n'
        · subst feed
          exact rest
        · rw [oneBlank_carriage feed,oneBlank_carriage feed]
          exact more
    · rw [oneBlank_other carriage,oneBlank_other carriage]
      split
      · exact more
      · exact rel

theorem skip (rel : Closer z s s') : Closer z (s.dropWhile isAsciiBlank) (s'.dropWhile isAsciiBlank) := by
  induction rel with
  | nil => exact .nil
  | escape more => exact .escape more
  | lone => exact .lone
  | space => exact refl z _
  | @char c s s' plain more ih =>
    rw [List.dropWhile_cons,List.dropWhile_cons]
    split
    · exact ih
    · exact .char plain more

theorem tracks (z : Text) : Tracks fun _ => Closer z where
  view := view
  eat rel _ := .inl rel.oneBlank
  skip rel _ := rel.skip

-- What is left behind the space cannot be as long as what is left in front of it.
theorem beyond (whole : ' ' :: (importantMark ++ z) <:+ r) : ¬ r <:+ importantMark ++ z := by
  intro left
  have longer := whole.length_le
  have shorter := left.length_le
  rw [List.length_cons] at longer
  omega

theorem firm (whole : ' ' :: (importantMark ++ z) <:+ r) : Firm (fun _ => Closer z) r := by
  intro c s s' rel blank left
  cases rel with
  | char => exact .inr blank
  | escape | lone => cases blank
  | space => exact absurd left (beyond whole)

-- In front of the space the texts are the same.
theorem shared (whole : ' ' :: (importantMark ++ z) <:+ r) (rel : Closer z (v ++ ')' :: r) s') :
    ∃ r', s' = v ++ ')' :: r' ∧ Closer z r r' := by
  induction size : v.length using Nat.strongRecOn generalizing v s' with
  | ind size ih =>
    have longer := whole.length_le
    generalize same : v ++ ')' :: r = s at rel
    cases rel with
    | nil => cases v <;> cases same
    | lone =>
      cases v with
      | nil => cases same
      | cons d v => cases v <;> cases same
    | space =>
      have shorter := congrArg List.length same
      simp only [List.length_append,List.length_cons] at shorter longer
      omega
    | @char c t t' plain more =>
      cases v with
      | nil =>
        cases same
        exact ⟨t',rfl,more⟩
      | cons d v =>
        cases same
        rw [List.length_cons] at size
        obtain ⟨r',rfl,rest⟩ := ih v.length (by omega) more rfl
        exact ⟨r',rfl,rest⟩
    | @escape c t t' more =>
      cases v with
      | nil => cases same
      | cons d v =>
        obtain ⟨rfl,same⟩ := List.cons.inj same
        rw [List.length_cons] at size
        cases v with
        | nil =>
          cases same
          exact ⟨t',rfl,more⟩
        | cons e v =>
          cases same
          rw [List.length_cons] at size
          obtain ⟨r',rfl,rest⟩ := ih v.length (by omega) more rfl
          exact ⟨r',rfl,rest⟩

theorem rigid (whole : ' ' :: (importantMark ++ z) <:+ r) (v : Text) : Rigid (fun _ => Closer z) r v where
  closed := shared whole
  ended none := by
    rw [none] at whole
    cases List.suffix_nil.mp whole

theorem inside (whole : ' ' :: (importantMark ++ z) <:+ r) (rel : Closer z s s') : Inside m (Closer z) (Closer z) r s s' := by
  cases rel with
  | nil => exact .done .nil
  | @char c s s' plain more =>
    by_cases close : c = m
    · subst close
      exact .close more
    · exact .char close plain more
  | escape more => exact .escape more
  | lone => exact .lone .nil
  | space => exact .stuck (beyond whole)

-- Comments end at the same place, whatever they hold.
theorem afterComment_cons (more : Closer z s s') (rest : Closer z (afterComment s) (afterComment s')) (c : Char) :
    Closer z (afterComment (c :: s)) (afterComment (c :: s')) := by
  by_cases ends : c = '*' ∧ ∃ t, s = '/' :: t
  · obtain ⟨rfl,t,rfl⟩ := ends
    cases more with
    | char _ more => exact more
  · rw [afterComment_step fun star t same => ends ⟨star,t,same⟩,afterComment_step]
    · exact rest
    · rintro rfl t rfl
      cases more with
      | char => exact ends ⟨rfl,_,rfl⟩

theorem afterComment (rel : Closer z s s') : Closer z (afterComment s) (afterComment s') := by
  induction rel with
  | nil | lone => exact .nil
  | space => exact refl z _
  | @char c _ _ _ more ih => exact afterComment_cons more ih c
  | @escape c _ _ more ih =>
    have enter : ∀ s, Scan.afterComment ('\\' :: s) = Scan.afterComment s := fun s => afterComment_step fun same => absurd same (by decide)
    rw [enter,enter]
    exact afterComment_cons more ih c

end Closer

namespace Scan

-- A token that ends with its mark, or with the text.
def Terminated (d : Char) (r s : Text) : Prop := r = [] ∨ d :: r <:+ s

theorem Terminated.cons (closes : Terminated d r s) (c : Char) : Terminated d r (c :: s) := closes.imp_right (within c)
theorem Terminated.trans (closes : Terminated d r s) (left : s <:+ t) : Terminated d r t := closes.imp_right (·.trans left)

theorem addressEnd_closes {v : Text} (good : (addressEnd b s).1 = some v) : Terminated ')' (addressEnd b s).2 s := by
  fun_induction addressEnd b s with
  | case1 => exact .inl rfl
  | case2 s => exact .inr List.suffix_rfl
  | case3 c s _ _ ih => exact (ih good).cons c
  | case4 => cases good

theorem addressFrom_closes {v : Text} (good : (addressFrom b s).1 = some v) : Terminated ')' (addressFrom b s).2 s := by
  fun_induction addressFrom b s with
  | case1 => exact .inl rfl
  | case2 => exact .inr List.suffix_rfl
  | case3 b c s => exact addressEnd_closes good
  | case4 | case5 => cases good
  | case6 b s _ _ _ _ ih => exact ((ih good).trans (escape_suffix s)).cons _
  | case7 b c s _ _ _ _ ih => exact (ih good).cons c

theorem unquoted_closes (s : Text) : Terminated ')' (unquoted s).2 s := by
  have closes := addressFrom_left [] s
  have left := addressFrom_suffix [] s
  have ends := fun v => addressFrom_closes (b := []) (s := s) (v := v)
  cases found : addressFrom [] s with
  | mk value? rest =>
    rw [found] at closes left
    simp only [found] at ends
    cases value? with
    | some value =>
      rw [unquoted_good found]
      exact ends value rfl
    | none =>
      rw [unquoted_bad found]
      rcases closes rfl with nothing | ⟨t,closed⟩
      · obtain rfl : rest = [] := nothing
        exact .inl rfl
      · obtain rfl : rest = ')' :: t := closed
        exact .inr left

theorem address?_closes (found : address? s = some step) : Terminated ')' step.2 s := by
  rw [address?_eq] at found
  split at found
  · cases found
  · cases found
    exact (unquoted_closes _).trans (List.dropWhile_suffix isAsciiBlank)

theorem identLike_closes (address : (identLike s).1.kind = .address) : Terminated ')' (identLike s).2 s := by
  unfold identLike at address ⊢
  split at address
  · rename_i read rest same
    have left := name_suffix s
    rw [same] at left
    split at address
    · rename_i url
      rw [if_pos url]
      cases found : address? rest with
      | none => rw [found] at address; cases address
      | some step => exact ((address?_closes found).cons '(').trans left
    · cases address
  · cases address

theorem token_closes (address : (token c s).1.kind = .address) : Terminated ')' (token c s).2 (c :: s) := by
  generalize read : token c s = step at address
  have origin := token_origin c s
  rw [read] at origin
  cases origin with
  | word => exact identLike_closes address
  | mark kind | other kind => rw [kind] at address; cases address
  | keyword | blank => cases address

theorem quoted_closes (m : Char) (s : Text) : startsNewline (quoted m s).2 = true ∨ Terminated m (quoted m s).2 s := by
  fun_induction quoted m s with
  | case1 | case2 => exact .inr (.inl rfl)
  | case3 s ih => exact ih.imp_right fun closes => ((closes.cons _).cons _).cons _
  | case4 c s _ _ ih => exact ih.imp_right fun closes => (closes.cons _).cons _
  | case5 c s _ _ ih => exact ih.imp_right fun closes => (closes.trans (escape_suffix (c :: s))).cons _
  | case6 => exact .inr (.inr List.suffix_rfl)
  | case7 c s _ _ _ _ newline => exact .inl newline
  | case8 c s _ _ _ _ _ ih => exact ih.imp_right (·.cons c)

end Scan

-- No mark of `!important` is one of an address or a string.
theorem closes_before (stopped : Stopped z) (whole : ' ' :: (importantMark ++ z) <:+ s) (behind : z <:+ r) (closes : Terminated d r s)
    (other : d ∉ ' ' :: importantMark) : ' ' :: (importantMark ++ z) <:+ r := by
  have left := closes.resolve_left fun none => by
    obtain ⟨_,_,rfl,_⟩ := stopped
    rw [none] at behind
    exact absurd behind.length_le (by simp)
  rcases List.suffix_or_suffix_of_suffix whole left with inside | outside
  · rcases List.suffix_cons_iff.mp inside with same | inside
    · exact absurd ((List.cons.inj same).1 ▸ List.mem_cons_self) other
    · exact inside
  · obtain ⟨v,same⟩ := outside
    obtain ⟨t,rfl⟩ := behind
    have front : (v ++ d :: t) ++ z = (' ' :: importantMark) ++ z := by simpa using same
    exact absurd (List.append_cancel_right front ▸ by simp) other

-- A line end is none either, and a delimiter is no line end.
theorem newline_before (stopped : Stopped z) (whole : ' ' :: (importantMark ++ z) <:+ s) (behind : z <:+ r) (left : r <:+ s)
    (newline : startsNewline r = true) : ' ' :: (importantMark ++ z) <:+ r := by
  cases r with
  | nil => cases newline
  | cons d r =>
    refine within d (closes_before stopped whole ?_ (.inr left) ?_)
    · refine (List.suffix_cons_iff.mp behind).resolve_left fun same => ?_
      obtain ⟨e,v,rfl,stop⟩ := stopped
      cases same
      cases newline.symm.trans (isStop_plain stop).2.2.2.2.2
    · simp only [startsNewline,isNewline,Bool.or_eq_true,decide_eq_true_eq] at newline
      rcases newline with (rfl | rfl) | rfl <;> decide

theorem quote_before (stopped : Stopped z) (whole : ' ' :: (importantMark ++ z) <:+ s) (mark : isQuoteMark m = true)
    (behind : z <:+ (quoted m s).2) : ' ' :: (importantMark ++ z) <:+ (quoted m s).2 := by
  rcases quoted_closes m s with newline | closes
  · exact newline_before stopped whole behind (quoted_suffix m s) newline
  · refine closes_before stopped whole behind closes ?_
    rcases quote_cases mark with rfl | rfl <;> decide

-- A token is the same without the space, unless it is the space.
theorem token_closer (stopped : Stopped z) (rel : Closer z (c :: s) (c :: s')) (behind : z <:+ (token c s).2) :
    ∃ r, token c s' = ((token c s).1,r) ∧ Closer z (token c s).2 r := by
  rcases rel.same_or with same | whole
  · cases same
    exact ⟨_,rfl,.refl ..⟩
  have before (address : (token c s).1.kind = .address) : ' ' :: (importantMark ++ z) <:+ (token c s).2 :=
    closes_before stopped whole behind (token_closes address) (by decide)
  have settled : Settled (fun _ => Closer z) (token c s).2 (token c s).1 :=
    ⟨fun address => Closer.firm (before address),fun v bad => Closer.rigid (before (by rw [bad]; rfl)) v⟩
  rcases token_cases c s with word | blank | ⟨mark,_⟩ | ⟨rfl,u,rfl⟩
  · by_cases escape : c = '\\'
    · subst escape
      cases id rel with
      | char plain => exact absurd rfl plain
      | lone => exact ⟨_,rfl,.refl ..⟩
      | @escape d t t' more =>
        cases newline : isNewline d with
        | true =>
          rw [token_stray (s := d :: t) newline,token_stray (s := d :: t') newline]
          exact ⟨_,rfl,.char (by rintro rfl; cases newline) more⟩
        | false =>
          rw [token_escape (s := d :: t) newline] at settled ⊢
          rw [token_escape (s := d :: t') newline]
          obtain ⟨same,rest⟩ := (Closer.tracks z).identLike rel rfl settled
          exact ⟨(identLike ('\\' :: d :: t')).2,Prod.ext same rfl,rest⟩
    · obtain ⟨same,rest⟩ := (Closer.tracks z).token escape rel (rel.tail escape) rfl word settled
      exact ⟨(token c s').2,Prod.ext same rfl,rest⟩
  · have rest := rel.skip
    rw [List.dropWhile_cons_of_pos blank,List.dropWhile_cons_of_pos blank] at rest
    rw [token_blank blank,token_blank blank]
    exact ⟨_,rfl,rest⟩
  · have escape : c ≠ '\\' := by rintro rfl; cases mark
    have front : ' ' :: (importantMark ++ z) <:+ s := (List.suffix_cons_iff.mp whole).resolve_left fun same => by
      cases (List.cons.inj same).1
      cases mark
    rw [token_quote mark,string] at behind ⊢
    rw [token_quote mark,string]
    obtain ⟨r,same,rest⟩ := quoted_inside mark (fun more => more.inside (quote_before stopped front mark behind)) (rel.tail escape) rfl
    rw [same]
    exact ⟨r,rfl,rest.elim id And.right⟩
  · cases rel.tail (by decide) with
    | char _ more => exact ⟨_,rfl,more.afterComment⟩

-- The tokens but for blanks.
def content (s : Text) : List Token := (tokens s).filter (· ≠ .blank)

theorem content_cons (c : Char) (s : Text) : content (c :: s) = [(token c s).1].filter (· ≠ .blank) ++ content (token c s).2 := by
  rw [content,tokens_cons,← List.singleton_append,List.filter_append]
  rfl

-- Some lexemes of their own, and `z` behind them.
def Parted (z s : Text) : Prop := ∃ ls, lexemes s = ls ++ lexemes z ∧ s = (ls.map (·.text)).flatten ++ z

theorem Parted.first (parted : Parted z (c :: s)) (longer : z.length ≤ s.length) :
    z <:+ (token c s).2 ∧ Parted z (token c s).2 := by
  obtain ⟨ls,lexed,whole⟩ := parted
  cases ls with
  | nil =>
    have same := congrArg List.length whole
    simp at same
    omega
  | cons l ls =>
    rw [lexemes_cons] at lexed
    obtain ⟨rfl,rest⟩ := List.cons.inj lexed
    have left : (token c s).2 = (ls.map (·.text)).flatten ++ z := by
      have parts := frontOf_append (token_suffix c s)
      rw [List.map_cons,List.flatten_cons,List.append_assoc,List.cons_append] at whole
      exact List.append_cancel_left (parts.trans (List.cons.inj whole).2)
    exact ⟨left ▸ List.suffix_append _ z,ls,rest,left⟩

theorem content_closer (stopped : Stopped z) (parted : Parted z s) (rel : Closer z s s') : content s' = content s := by
  induction size : s.length using Nat.strongRecOn generalizing s s' with
  | ind k ih =>
    rcases rel.same_or with rfl | whole
    · rfl
    have longer := whole.length_le
    rw [List.length_cons,List.length_append] at longer
    have inner : ∀ c t t', s = c :: t → s' = c :: t' → content s' = content s := by
      rintro c t t' rfl rfl
      rw [List.length_cons] at longer size
      obtain ⟨behind,rest⟩ := parted.first (by omega)
      obtain ⟨r,read,more⟩ := token_closer stopped rel behind
      have shorter := (token_suffix c t).length_le
      rw [content_cons,content_cons,read,ih (token c t).2.length (by omega) rest more rfl]
    cases rel with
    | nil | lone => rfl
    | char | escape => exact inner _ _ _ rfl rfl
    | space =>
      rw [content_cons,token_blank rfl,skip_dark rfl]
      rfl

namespace Collapsing
variable {state : Collapsing}

theorem step_closes (escaped : state.escaped = true) (c : Char) : (state.step c).2.escaped = false := by
  obtain ⟨quote,_,_⟩ := state
  cases escaped
  cases quote <;> rfl

theorem step_opens (closed : state.escaped = false) : (state.step '\\').2.escaped = true := by
  obtain ⟨quote,_,_⟩ := state
  cases closed
  cases quote <;> rfl

-- An escaped character leaves no blank pending.
theorem Sane.closed (sane : state.Sane) (pending : (state.step c).2.pending = true) : state.escaped = false := by
  obtain ⟨quote,escaped,waits⟩ := state
  cases escaped with
  | false => rfl
  | true =>
    cases waits with
    | true => exact (sane rfl).2
    | false => cases quote <;> cases pending

-- Without blanks nothing is lost.
theorem run_inked (sane : state.Sane) (now : state.pending = false) (inked : ∀ c ∈ s, isBlank c = false) : state.run s = s := by
  induction s generalizing state with
  | nil => rfl
  | cons c s ih =>
    rcases step_cases sane c with ⟨_,blank⟩ | ⟨added,after⟩
    · cases (inked c List.mem_cons_self).symm.trans blank
    · rw [run,added,now,ih (sane.step c) after fun d inside => inked d (List.mem_cons_of_mem c inside)]
      rfl

-- A blank that waits is written in front of it.
theorem run_mark (sane : state.Sane) : state.run importantMark = if state.pending then ' ' :: importantMark else importantMark := by
  rcases step_cases sane '!' with ⟨_,blank⟩ | ⟨added,after⟩
  · cases blank
  · have none : ("important" : Text).any isBlank = false := by decide
    have rest : (state.step '!').2.run "important" = "important" := run_inked (sane.step '!') after fun c inside =>
      Bool.eq_false_iff.mpr (List.any_eq_false.mp none c inside)
    have front : importantMark = '!' :: "important" := rfl
    rw [front,run,added,rest]
    split <;> rfl

end Collapsing

-- Where an escape is over, the space behind is one of the text.
theorem Closer.of_after {state : Collapsing} (now : state.escaped = false) (closed : (state.after u).escaped = false) :
    Closer z (u ++ ' ' :: (importantMark ++ z)) (u ++ (importantMark ++ z)) := by
  induction size : u.length using Nat.strongRecOn generalizing u state with
  | ind k ih =>
    cases u with
    | nil => exact .space
    | cons c u =>
      rw [List.length_cons] at size
      by_cases escape : c = '\\'
      · subst escape
        have opened := Collapsing.step_opens now
        cases u with
        | nil => cases opened.symm.trans closed
        | cons d u =>
          rw [List.length_cons] at size
          exact .escape (ih u.length (by omega) (Collapsing.step_closes opened d) closed rfl)
      · exact .char escape (ih u.length (by omega) (Collapsing.step_unescaped state escape) closed rfl)

theorem splitImportant_closer (settled : collapse raw = raw) (trimmed : trim raw = raw) (z : Text) :
    Closer z (raw ++ z) ((splitImportant raw).1 ++ (if (splitImportant raw).2 then importantMark else []) ++ z) := by
  unfold splitImportant
  rw [trimmed]
  cases found : withoutEnd? raw importantMark with
  | none =>
    dsimp only
    rw [settled,if_neg Bool.false_ne_true,List.append_nil]
    exact .refl ..
  | some front =>
    obtain rfl := withoutEnd?_append found
    have dark : Dark (front ++ importantMark) := settled ▸ collapse_dark _
    have shown : Dark front := by
      cases front with
      | nil => nofun
      | cons c t => exact dark
    have sane : (Collapsing.start.after front).Sane := Collapsing.sane_start.after front
    rw [collapse,trimStart,dark_skip dark,Collapsing.run_append,Collapsing.run_mark sane] at settled
    dsimp only
    rw [collapse,trimStart,dark_skip shown,if_pos rfl]
    split at settled
    · rename_i pending
      have spaced : front = Collapsing.start.run front ++ [' '] := List.append_cancel_right (by simpa using settled.symm)
      have closed : (Collapsing.start.after (Collapsing.start.run front)).escaped = false := by
        rw [spaced,Collapsing.after_append] at pending
        exact (Collapsing.sane_start.after _).closed pending
      have text : front ++ importantMark ++ z = Collapsing.start.run front ++ ' ' :: (importantMark ++ z) := by
        conv => lhs; rw [spaced]
        simp
      rw [text,List.append_assoc]
      exact .of_after rfl closed
    · rw [List.append_cancel_right settled]
      exact .refl ..

-- A value that neither collapsing nor trimming changes is printed with the same tokens, which end where
-- the delimiter behind it begins.
theorem declaration_content (piece : Piece top raw cs) (settled : collapse raw = raw) (trimmed : trim raw = raw) (stopped : Stopped z)
    (n : Text) : ∃ p, (declarationOf n cs).text = (declarationOf n cs).name ++ ':' :: p ∧ content (p ++ z) = content raw ++ content z := by
  have whole : lexemes raw = spreads cs := by
    have all := piece.lexed [] (.inl rfl)
    rwa [List.append_nil,lexemes_nil,List.append_nil] at all
  have parted : Parted z (raw ++ z) := ⟨spreads cs,piece.lexed z stopped.bounded,by rw [← whole,lexemes_text]⟩
  refine ⟨(splitImportant raw).1 ++ if (splitImportant raw).2 then importantMark else [],?_,?_⟩
  · rw [declaration_text,piece.texts,List.append_nil]
    rfl
  rw [content_closer stopped parted (splitImportant_closer settled trimmed z),content,content,content,tokens,tokens,tokens,
    piece.lexed z stopped.bounded,whole,List.map_append,List.filter_append]

theorem leaves_closed {ls : List Lexeme} (plain : ∀ l ∈ ls, l.token.opens? = none) : AllClosed none (ls.map .leaf) := by
  induction ls with
  | nil => exact trivial
  | cons l ls ih =>
    rw [List.map_cons,AllClosed,Closed]
    exact ⟨⟨plain l List.mem_cons_self,.inl rfl⟩,ih fun m inside => plain m (List.mem_cons_of_mem l inside)⟩

theorem spreads_leaves (ls : List Lexeme) : spreads (ls.map .leaf) = ls := by
  induction ls with
  | nil => rw [List.map_nil,spreads]
  | cons l ls ih => rw [List.map_cons,spreads,spread,ih,List.singleton_append]

-- A text without brackets is a piece if a delimiter behind it stays by itself.
theorem Piece.of_leaves (plain : ∀ l ∈ lexemes raw, l.token.opens? = none) (read : lexemes (raw ++ ";") = lexemes raw ++ lexemes ";") :
    Piece none raw ((lexemes raw).map .leaf) where
  closed := leaves_closed plain
  lexed z bounded := by
    rw [spreads_leaves]
    exact lexemes_local ⟨_,_,rfl,rfl⟩ bounded read (lexemes_text raw)

theorem declaration_content_spaced : Piece none "\\31 !important" ((lexemes "\\31 !important").map .leaf) ∧
    collapse "\\31 !important" = "\\31 !important" ∧ trim "\\31 !important" = "\\31 !important" ∧
    ∃ p, (declarationOf "c" ((lexemes "\\31 !important").map .leaf)).text = "c" ++ ':' :: p ∧
      content (p ++ ";") = content "\\31 !important" ++ content ";" := by
  have piece : Piece none "\\31 !important" ((lexemes "\\31 !important").map .leaf) := .of_leaves (by decide +kernel) (by decide +kernel)
  have settled : collapse "\\31 !important" = "\\31 !important" := by decide +kernel
  have trimmed : trim "\\31 !important" = "\\31 !important" := by decide +kernel
  exact ⟨piece,settled,trimmed,declaration_content piece settled trimmed ⟨_,_,rfl,rfl⟩ "c"⟩

end StyleTrim.Css
