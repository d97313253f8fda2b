import StyleTrim.Proofs.Blocks
namespace StyleTrim.Css
open Text Component

namespace Read

-- What a rule takes of its list, by its shape. What is invalid is lost, up to a block or all of it.
inductive Formed : List Component → List Component → List Component → Shape → Prop
  | statement (token : l.token = .atKeyword n) (free : ∀ c ∈ head, endsHead c = false) (ended : Ended tail after) :
      Formed (.leaf l :: head) tail after (.statement (lower n) (collapse (texts head)))
  | atBlock {inside : List Component} (token : l.token = .atKeyword n) (free : ∀ c ∈ head, endsHead c = false) (stop : Place) :
      Formed (.leaf l :: head ++ [.block .curly opening inside closing]) [] after
        (.atBlock (lower n) (collapse (texts head)) inside stop)
  | styled {inside : List Component} (begins : beginsStyled head = true) (free : ∀ c ∈ head, isCurly c = false)
      (selected : collapse (texts head) ≠ []) (stop : Place) :
      Formed (head ++ [.block .curly opening inside closing]) [] after (.styled (collapse (texts head)) inside stop)
  | invalid (place : Place) (source : Text) (lost : after = [] ∨ ∃ head opening inside closing,
      body = head ++ [.block .curly opening inside closing]) : Formed body [] after (.invalid place source)

end Read

open Read
variable {c d first : Component} {cs ds rest head body tail after inside : List Component} {l opening : Lexeme}
  {closing : Option Lexeme} {n : Text} {finish place : Place} {source : Text} {top : Option Bracket} {veryFirst : Bool}

namespace Read

theorem isCurly_cases (curly : isCurly d = true) : ∃ opening inside closing, d = .block .curly opening inside closing := by
  cases d with
  | leaf => cases curly
  | block b opening inside closing =>
    cases b with
    | curly => exact ⟨opening,inside,closing,rfl⟩
    | paren | square => cases curly

theorem atShape_formed (token : l.token = .atKeyword n) (finish : Place) (cs : List Component) : ∃ body tail,
    .leaf l :: cs = body ++ tail ++ (atShape finish n cs).2 ∧ Formed body tail (atShape finish n cs).2 (atShape finish n cs).1 := by
  rcases cut_cases endsHead cs with clear | ⟨head,e,after,rfl,clear,ends⟩
  · obtain ⟨front,back⟩ := front_free clear
    unfold atShape
    rw [back,front]
    exact ⟨.leaf l :: cs,[],by simp,.statement token clear .finished⟩
  · obtain ⟨front,back⟩ := front_cut clear ends after
    unfold atShape
    rw [back,front]
    cases semi : isSemicolon e with
    | true =>
      obtain ⟨s,rfl,_⟩ := leaf_of_semicolon semi
      exact ⟨.leaf l :: head,[.leaf s],by simp,.statement token clear (.semicolon semi)⟩
    | false =>
      obtain ⟨opening,inside,closing,rfl⟩ := endsHead_cases ends semi
      exact ⟨.leaf l :: head ++ [.block .curly opening inside closing],[],by simp,.atBlock token clear _⟩

theorem customProperty?_front (found : customProperty? (c :: (cs ++ d :: more)) = none) : customProperty? (c :: cs) = none := by
  cases c with
  | block => rfl
  | leaf l =>
    obtain ⟨token,text,place⟩ := l
    cases token with
    | ident name =>
      unfold customProperty? at found ⊢
      dsimp only at found ⊢
      cases skipped : skipSpacing cs with
      | nil => rfl
      | cons next value =>
        have front : skipSpacing (cs ++ d :: more) = next :: (value ++ d :: more) := by
          unfold skipSpacing at skipped ⊢
          rw [List.dropWhile_append,skipped]
          rfl
        rw [front] at found
        dsimp only at found ⊢
        split at found
        · cases found
        · rename_i held; rw [if_neg held]
    | _ => rfl

theorem beginsStyled_of (shown : isBetween c = false) (keyword : ∀ l n, c = .leaf l → l.token ≠ .atKeyword n)
    (plain : customProperty? (c :: cs) = none) : beginsStyled (c :: cs) = true := by
  cases c with
  | block => simp [beginsStyled,shown,plain]
  | leaf l =>
    obtain ⟨token,text,place⟩ := l
    cases token with
    | atKeyword n => exact absurd rfl (keyword _ n rfl)
    | _ => simp [beginsStyled,shown,plain]

theorem styledShape_formed (finish : Place) (shown : isBetween c = false)
    (keyword : ∀ l n, c = .leaf l → l.token ≠ .atKeyword n) (plain : customProperty? (c :: cs) = none) :
    ∃ body, c :: cs = body ++ [] ++ (styledShape finish (c :: cs)).2 ∧
      Formed body [] (styledShape finish (c :: cs)).2 (styledShape finish (c :: cs)).1 := by
  rcases cut_cases isCurly (c :: cs) with clear | ⟨head,e,after,whole,clear,ends⟩
  · obtain ⟨front,back⟩ := front_free clear
    unfold styledShape
    rw [back,front]
    exact ⟨c :: cs,by simp,.invalid _ _ (.inl rfl)⟩
  · obtain ⟨opening,inside,closing,rfl⟩ := isCurly_cases ends
    obtain ⟨front,back⟩ := front_cut clear ends after
    unfold styledShape
    rw [whole,back,front]
    refine ⟨head ++ [.block .curly opening inside closing],?_,?_⟩
    · dsimp only
      split <;> simp
    dsimp only
    split
    · exact .invalid _ _ (.inr ⟨head,opening,inside,closing,rfl⟩)
    · rename_i selected
      refine .styled ?_ clear (fun empty => selected (List.isEmpty_iff.mpr empty)) _
      cases head with
      | nil => exact absurd rfl selected
      | cons first head =>
        obtain ⟨rfl,rest⟩ := List.cons.inj whole
        rw [rest] at plain
        exact beginsStyled_of shown keyword (customProperty?_front plain)

theorem shape_formed (finish : Place) (first : Component) (rest : List Component) (shown : isBetween first = false) :
    ∃ body tail, first :: rest = body ++ tail ++ (shape finish first rest).2 ∧
      Formed body tail (shape finish first rest).2 (shape finish first rest).1 := by
  unfold shape
  split
  · rename_i value found
    have passed := customProperty?_suffix found
    rcases cut_cases isCurly value with clear | ⟨head,e,after,rfl,clear,ends⟩
    · obtain ⟨_,back⟩ := front_free clear
      rw [back]
      exact ⟨first :: rest,[],by simp,.invalid _ _ (.inl rfl)⟩
    · obtain ⟨opening,inside,closing,rfl⟩ := isCurly_cases ends
      obtain ⟨_,back⟩ := front_cut clear ends after
      rw [back]
      obtain ⟨front,rfl⟩ := passed
      refine ⟨first :: (front ++ head) ++ [.block .curly opening inside closing],[],by simp,.invalid _ _ (.inr ⟨_,_,_,_,rfl⟩)⟩
  · rename_i plain
    split
    · rename_i n text place
      exact atShape_formed rfl finish rest
    · rename_i keyword
      have other : ∀ l n, first = .leaf l → l.token ≠ .atKeyword n := by
        rintro ⟨_,text,place⟩ n rfl rfl
        exact keyword n text place rfl
      obtain ⟨body,whole,formed⟩ := styledShape_formed finish shown other plain
      exact ⟨body,[],whole,formed⟩

end Read
theorem sheetText_append (a b : Sheet) : Sheet.text (a ++ b) = Sheet.text a ++ Sheet.text b := by
  induction a with
  | nil => rw [List.nil_append,Sheet.text,List.nil_append]
  | cons n more ih => rw [List.cons_append,Sheet.text,Sheet.text,ih,List.append_assoc]

theorem sheetText_one (n : Node) : Sheet.text [n] = n.text := by rw [Sheet.text,Sheet.text,List.append_nil]

theorem weights_block (head : List Component) (opening : Lexeme) (inside : List Component) (closing : Option Lexeme) :
    weights inside < weights (head ++ [.block .curly opening inside closing]) := by
  rw [weights_append]
  simp only [weights,weight]
  omega

-- One step of the reader of a list of rules.
theorem rules_step (finish : Place) (visible : cs.dropWhile isBetween = first :: rest)
    (other : (veryFirst && isCharset first) = false) : ∃ body tail after form, first :: rest = body ++ tail ++ after ∧
      after <:+ rest ∧ Formed body tail after form ∧ (rules finish veryFirst cs).sheet = nodesOf form ++ (rules finish false after).sheet := by
  have shown : isBetween first = false := by
    have head := List.head?_dropWhile_not isBetween cs
    rw [visible] at head
    simpa using head
  obtain ⟨body,tail,whole,formed⟩ := shape_formed finish first rest shown
  exact ⟨body,tail,_,_,whole,shape_suffix finish first rest,formed,rules_shape visible other⟩

theorem Read.Formed.bound (formed : Read.Formed body tail after form) (sound : Sound top body)
    (inner : ∀ finish inside, weights inside < weights body → Sound (some .curly) inside →
      gauge (Sheet.text (rules finish true inside).sheet) ≤ gauge (texts inside)) :
    gauge (Sheet.text (nodesOf form)) ≤ gauge (texts body) := by
  cases formed with
  | statement token free ended =>
    rw [nodesOf,sheetText_one,Node.text,gauge_append]
    exact (keeps_head sound.leaf token _).bound
  | atBlock token free stop =>
    rw [nodesOf]
    split
    · rw [sheetText_one,Node.text]
      exact braced_bound sound.right (keeps_head sound.leaf token _).bound (inner stop _ (weights_block ..) sound.right.curly.1)
    · rw [sheetText_one,Node.text]
      exact braced_bound sound.right (keeps_head sound.leaf token _).bound (Keeps.collapse _).bound
  | styled begins free selected stop =>
    rw [nodesOf,sheetText_one,Node.text,Rule.text]
    exact braced_bound sound.right (Keeps.collapse _).bound (entries_bound _ stop sound.right.curly.1)
  | invalid => rw [nodesOf]; exact Nat.zero_le _

theorem Sound.suffix (sound : Sound top cs) (tail : ds <:+ cs) : Sound top ds := by
  obtain ⟨front,rfl⟩ := tail
  exact sound.right

theorem gauge_suffix (tail : ds <:+ cs) : gauge (texts ds) ≤ gauge (texts cs) := by
  obtain ⟨front,rfl⟩ := tail
  rw [texts_append,gauge_append]
  omega

theorem rules_bound (finish : Place) (veryFirst : Bool) (sound : Sound top cs) :
    gauge (Sheet.text (rules finish veryFirst cs).sheet) ≤ gauge (texts cs) := by
  induction size : weights cs using Nat.strongRecOn generalizing cs top finish veryFirst with
  | ind k ih =>
    have visible := List.dropWhile_suffix isBetween (l := cs)
    cases shown : cs.dropWhile isBetween with
    | nil => rw [rules_none shown]; exact Nat.zero_le _
    | cons first rest =>
      rw [shown] at visible
      have lighter := weights_suffix visible
      have less := gauge_suffix visible
      have counted := weight_pos first
      cases charset : veryFirst && isCharset first with
      | true =>
        obtain ⟨rfl,charset⟩ := Bool.and_eq_true_iff.mp charset
        rw [rules_charset shown charset]
        have behind := ((List.drop_suffix 1 _).trans (back_suffix endsHead rest)).trans (List.suffix_cons first rest)
        have smaller := weights_suffix ((List.drop_suffix 1 _).trans (back_suffix endsHead rest))
        simp only [weights] at lighter
        have later := ih _ (by omega) finish false (sound.suffix (behind.trans visible)) rfl
        exact Nat.le_trans later (gauge_suffix (behind.trans visible))
      | false =>
        obtain ⟨body,tail,after,form,whole,behind,formed,read⟩ := rules_step finish shown charset
        have smaller := weights_suffix behind
        have down : weights after < k := by simp only [weights] at lighter; omega
        rw [whole] at less lighter visible
        have inner := sound.suffix visible
        rw [weights_append,weights_append] at lighter
        have later := ih _ down finish false inner.right rfl
        have one := formed.bound inner.left.left fun stop inside within sound =>
          ih _ (by omega) stop true sound rfl
        rw [texts_append,texts_append,gauge_append,gauge_append] at less
        rw [read,sheetText_append,gauge_append]
        omega

theorem Component.Fits.within (fits : Fits top (.block .curly opening inside (some l))) : AllClosed (some .curly) inside := by
  rw [Fits,Closed] at fits
  · exact fits.2.1
  · exact fun _ _ _ same => by cases same

-- Where a block stands in its text, what it encloses stands in front of what closes it.
theorem Standing.inner (standing : Standing top (head ++ .block .curly opening inside closing :: after) y) :
    ∃ y', Standing (some .curly) inside y' ∧ (y' = [] ∨ y' = '\x7d' :: (texts after ++ y)) ∧
      texts (head ++ .block .curly opening inside closing :: after) ++ y = texts head ++ '\x7b' :: (texts inside ++ y') := by
  have sound : Sound top ([.block .curly opening inside closing] ++ after) := standing.sound.right
  obtain ⟨within,opened,closed⟩ := sound.left.curly
  obtain ⟨more,lexed⟩ := standing.lexed
  cases closing with
  | none =>
    -- An open block is the last of its text.
    have parted : head ++ .block .curly opening inside none :: after = head ++ [.block .curly opening inside none] ++ after := by simp
    rw [parted] at standing
    have last : after = [] := by
      cases after with
      | nil => rfl
      | cons => exact absurd ((allFit_append standing.sound.fits).1 (by simp)) not_closed
    have finished : y = [] := standing.whole.resolve_left fun closed => not_closed (allClosed_append.mp closed).1
    subst last finished
    have text : texts (head ++ [.block .curly opening inside none]) ++ [] = texts head ++ ['\x7b'] ++ texts inside := by
      simp [texts_append,texts,Component.text,opened]
    refine ⟨[],⟨within,.inr rfl,?_,.inl rfl⟩,.inl rfl,by rw [text]; simp⟩
    rw [text,spreads_append] at lexed
    have parts : spreads head ++ spreads [.block .curly opening inside none] ++ more =
        (spreads head ++ [opening]) ++ (spreads inside ++ more) := by simp [spreads,spread]
    rw [parts] at lexed
    rw [List.append_nil]
    exact ⟨more,lexemes_behind lexed (by simp [spreads_texts,opened])⟩
  | some last =>
    have text : texts (head ++ .block .curly opening inside (some last) :: after) ++ y =
        (texts head ++ ['\x7b']) ++ (texts inside ++ '\x7d' :: (texts after ++ y)) := by
      simp [texts_append,texts,Component.text,opened,closed last rfl]
    refine ⟨_,⟨within,.inl sound.first.within,?_,.inr ⟨_,rfl⟩⟩,.inr rfl,by rw [text]; simp⟩
    rw [text,spreads_append] at lexed
    have parts : spreads head ++ spreads (.block .curly opening inside (some last) :: after) ++ more =
        (spreads head ++ [opening]) ++ (spreads inside ++ (last :: spreads after ++ more)) := by simp [spreads,spread]
    rw [parts] at lexed
    exact ⟨_,lexemes_behind lexed (by simp [spreads_texts,opened])⟩

-- A printed head is the head that was written, and the text of the block begins like the block.
theorem Standing.block (standing : Standing top (head ++ .block .curly opening inside closing :: after) y)
    (kept : Keeps h (texts head)) (full : gauge h = gauge (texts head))
    (same : h ++ "\x7b" ++ b ++ "\x7d" ++ r = texts (head ++ .block .curly opening inside closing :: after) ++ y) :
    h = texts head ∧ ∃ y', Standing (some .curly) inside y' ∧ b ++ '\x7d' :: r = texts inside ++ y' ∧
      (y' = '\x7d' :: r → r = texts after ++ y) := by
  obtain ⟨y',inner,ends,text⟩ := standing.inner
  rw [text] at same
  have dark : ∀ z, Dark ('\x7b' :: z) := fun z c first => by cases first; rfl
  obtain ⟨front,rest⟩ := aligned (x := '\x7b' :: (b ++ '\x7d' :: r)) (by simpa using same) (kept.inks full)
    (.inl (dark _)) (.inl (dark _))
  refine ⟨front,y',inner,(List.cons.inj rest).2,fun closes => ?_⟩
  rcases ends with finished | ends
  · rw [finished] at closes; cases closes
  · rw [ends] at closes
    exact (List.cons.inj closes).2.symm

-- The same for a head that a semicolon ends.
theorem Standing.statement (standing : Standing top (body ++ tail ++ after) y) (ended : Read.Ended tail after)
    (kept : Keeps h (texts body)) (full : gauge h = gauge (texts body))
    (same : h ++ ";" ++ r = texts (body ++ tail ++ after) ++ y) :
    h = texts body ∧ Piece top h body ∧ r = texts after ++ y := by
  have sound := standing.sound
  rw [texts_append,texts_append,List.append_assoc,List.append_assoc,List.append_assoc] at same
  have semi : Dark (';' :: r) := fun c first => by cases first; rfl
  rcases (Ended.gauge ended sound.left.right).2 with ⟨rfl,rfl⟩ | ⟨d,rfl,mark,text⟩
  · obtain ⟨_,rest⟩ := aligned same (kept.inks full) (.inl semi) (.inl standing.delimited.dark)
    rcases standing.finished with finished | ⟨z,finished⟩ <;> rw [finished] at rest <;> cases rest
  · rw [text] at same
    obtain ⟨front,rest⟩ := aligned same (kept.inks full) (.inl semi) (.inl fun c first => by cases first; rfl)
    rw [List.append_assoc] at standing
    have closed := (allFit_append standing.sound.fits).1 (by simp)
    have stopped : Stopped (texts ([d] ++ after) ++ y) := by
      rw [texts_append,text]
      exact ⟨_,_,rfl,rfl⟩
    rw [front]
    exact ⟨rfl,standing.piece closed stopped,(List.cons.inj rest).2⟩

theorem Standing.heading (standing : Standing top (head ++ .block .curly opening inside closing :: after) y) :
    Piece top (texts head) head := by
  have sound : Sound top ([.block .curly opening inside closing] ++ after) := standing.sound.right
  refine standing.piece ((allFit_append standing.sound.fits).1 (by simp)) ?_
  rw [texts,Component.text.eq_def]
  dsimp only
  rw [sound.left.curly.2.1]
  exact ⟨_,_,rfl,rfl⟩

theorem Standing.all (standing : Standing top cs ('\x7d' :: z)) : Piece top (texts cs) cs := by
  have closed : AllClosed top cs := standing.whole.resolve_right nofun
  rw [← List.append_nil cs] at standing
  exact standing.piece closed ⟨_,_,rfl,rfl⟩

theorem block_behind (head : List Component) (c : Component) (after : List Component) :
    head ++ [c] ++ [] ++ after = head ++ c :: after := by simp

-- A list of rules inside a block is read again if it is printed as it was written.
def StableInside (inside : List Component) : Prop := ∀ finish y r, Standing (some .curly) inside y →
  gauge (Sheet.text (rules finish true inside).sheet) = gauge (texts inside) →
  Sheet.text (rules finish true inside).sheet ++ '\x7d' :: r = texts inside ++ y →
  Sheet.text (rules finish true inside).sheet = texts inside ∧ AllReprint (some .curly) (rules finish true inside).sheet ∧
    Fresh (rules finish true inside).sheet

theorem Read.Formed.stable (formed : Read.Formed body tail after form) (standing : Standing top (body ++ tail ++ after) y)
    (valid : nodesOf form ≠ []) (inner : ∀ inside, weights inside < weights body → StableInside inside)
    (full : gauge (Sheet.text (nodesOf form)) = gauge (texts body))
    (same : Sheet.text (nodesOf form) ++ r = texts (body ++ tail ++ after) ++ y) :
    ∃ node, nodesOf form = [node] ∧ node.Reprints top ∧ r = texts after ++ y := by
  have sound := standing.sound.left.left
  cases formed with
  | statement token free ended =>
    rw [nodesOf,sheetText_one,Node.text] at full same
    have kept := keeps_head sound.leaf token
    rw [gauge_append] at full
    obtain ⟨_,piece,rest⟩ := standing.statement ended (kept _) full same
    refine ⟨_,by rw [nodesOf],?_,rest⟩
    rw [Node.Reprints]
    exact ⟨_,_,_,piece,token,rfl,free,rfl⟩
  | atBlock token free stop =>
    rename_i head l n opening closing inside
    rw [block_behind] at standing same
    have kept := keeps_head sound.leaf token head
    have again : headText (lower n) (collapse (texts head)) = texts (.leaf l :: head) →
        HeadReprints endsHead top (lower n) (collapse (texts head)) := by
      intro front
      refine ⟨l,n,head,?_,token,rfl,free,rfl⟩
      rw [front]
      exact standing.heading
    rw [nodesOf] at full same ⊢
    split at full
    · rename_i group
      rw [if_pos group,sheetText_one,Node.text] at same
      rw [sheetText_one,Node.text] at full
      have less := rules_bound stop true sound.right.curly.1
      obtain ⟨first,second⟩ := braced_parts sound.right kept.bound less full
      obtain ⟨front,y',inside',rest,behind⟩ := standing.block kept first same
      obtain ⟨printed,reprint,fresh⟩ := inner inside (weights_block ..) stop y' r inside' second rest
      have ends : '\x7d' :: r = y' := List.append_cancel_left ((congrArg (· ++ '\x7d' :: r) printed.symm).trans rest)
      refine ⟨_,if_pos group,?_,behind ends.symm⟩
      rw [Node.Reprints]
      exact ⟨again front,group,fresh,reprint⟩
    · rename_i plain
      rw [if_neg plain,sheetText_one,Node.text] at same
      rw [sheetText_one,Node.text] at full
      obtain ⟨first,second⟩ := braced_parts sound.right kept.bound (Keeps.collapse _).bound full
      obtain ⟨front,y',inside',rest,behind⟩ := standing.block kept first same
      have close : Dark ('\x7d' :: r) := fun c first => by cases first; rfl
      obtain ⟨settled,ends⟩ := aligned rest ((Keeps.collapse _).inks second) (.inl close) (.inl inside'.delimited.dark)
      subst ends
      refine ⟨_,if_neg plain,?_,behind rfl⟩
      rw [Node.Reprints]
      refine ⟨again front,Bool.eq_false_iff.mpr plain,?_,inside,?_⟩
      · rw [settled]; exact settled
      · rw [settled]; exact inside'.all
  | styled begins free selected stop =>
    rename_i head opening closing inside
    rw [nodesOf,sheetText_one,Node.text,Rule.text] at full same
    have less := entries_bound (collapse (texts head)) stop sound.right.curly.1
    obtain ⟨first,second⟩ := braced_parts sound.right (Keeps.collapse _).bound less full
    rw [block_behind] at standing same
    obtain ⟨front,y',inside',rest,behind⟩ := standing.block (Keeps.collapse _) first same
    obtain ⟨printed,reprint⟩ := entries_stable _ stop inside' second rest
    have ends : '\x7d' :: r = y' := List.append_cancel_left ((congrArg (· ++ '\x7d' :: r) printed.symm).trans rest)
    refine ⟨_,by rw [nodesOf],?_,behind ends.symm⟩
    rw [Node.Reprints]
    refine ⟨⟨selected,?_,head,?_,free,begins⟩,reprint⟩
    · dsimp only; rw [front]; exact front
    · dsimp only; rw [front]; exact standing.heading
  | invalid => exact absurd (by rw [nodesOf]) valid

-- What follows a printed list of rules: nothing, or the brace that closes its block.
def Closes (top : Option Bracket) (z : Text) : Prop := (top = none ∧ z = []) ∨ (top = some .curly ∧ ∃ r, z = '\x7d' :: r)

theorem Closes.nothing (closes : Closes top z) (sound : Sound top cs) (same : z = texts cs ++ y) : cs = [] := by
  rcases closes with ⟨rfl,rfl⟩ | ⟨rfl,r,rfl⟩
  · cases cs with
    | nil => rfl
    | cons c cs =>
      obtain ⟨l,t,genuine,_,text⟩ := sound.begins
      obtain ⟨d,f,first⟩ := genuine.first
      rw [texts,text,first] at same
      cases same
  · exact first_brace sound same.symm

theorem between_first (sound : Sound top (c :: cs)) (between : isBetween c = true) (nothing : gauge c.text = 0) :
    ∃ d s, c.text = d :: s ∧ isBlank d = true := by
  cases c with
  | block => cases between
  | leaf l =>
    obtain ⟨d,f,first⟩ := sound.leaf.first
    refine ⟨d,f,first,?_⟩
    simp only [isBetween,isSpacing,isLeaf,Bool.or_eq_true,beq_iff_eq] at between
    rcases tally_cases (tally_of_gauge nothing d (by rw [Component.text,first]; exact List.mem_cons_self)) with blank | rfl | rfl
    · exact blank_of_ascii blank
    · rw [sound.leaf.of_mark (fun _ => rfl) first] at between
      rcases between with ((same | same) | same) | same <;> cases same
    · rw [sound.leaf.of_mark (fun _ => rfl) first] at between
      rcases between with ((same | same) | same) | same <;> cases same

theorem Read.Formed.dark (formed : Read.Formed body tail after form) (valid : nodesOf form ≠ []) :
    ∃ d s, Sheet.text (nodesOf form) = d :: s ∧ isBlank d = false := by
  cases formed with
  | statement => rw [nodesOf,sheetText_one,Node.text]; exact ⟨'@',_,rfl,rfl⟩
  | atBlock =>
    rw [nodesOf]
    split
    · rw [sheetText_one,Node.text]; exact ⟨'@',_,rfl,rfl⟩
    · rw [sheetText_one,Node.text]; exact ⟨'@',_,rfl,rfl⟩
  | styled begins free selected stop =>
    rename_i head _ _ _
    rw [nodesOf,sheetText_one,Node.text,Rule.text]
    have dark := collapse_dark (texts head)
    cases selector : collapse (texts head) with
    | nil => exact absurd selector selected
    | cons d s => exact ⟨d,_,rfl,dark d (by rw [selector]; rfl)⟩
  | invalid => exact absurd (by rw [nodesOf]) valid

theorem Read.Formed.fresh (formed : Read.Formed body tail after form) (whole : first :: rest = body ++ tail ++ after)
    (other : isCharset first = false) : Fresh (nodesOf form) := by
  have named : ∀ {l : Lexeme} {n : Text}, l.token = .atKeyword n → first = .leaf l → lower n ≠ "charset" := by
    rintro l n token rfl
    rw [isCharset_keyword token] at other
    exact beq_eq_false_iff_ne.mp other
  intro node among name params at'
  cases formed with
  | statement token =>
    rw [nodesOf] at among
    cases among
    cases at'
    exact named token (List.cons.inj whole).1
  | atBlock token =>
    rw [nodesOf] at among
    split at among <;> cases among <;> cases at' <;> exact named token (List.cons.inj whole).1
  | styled =>
    rw [nodesOf] at among
    cases among
    cases at'
  | invalid => rw [nodesOf] at among; cases among

-- A character set that is passed over is lost.
theorem charset_lost (finish : Place) (sound : Sound top cs) (shown : cs.dropWhile isBetween = first :: rest)
    (charset : isCharset first = true) : gauge (Sheet.text (rules finish true cs).sheet) < gauge (texts cs) := by
  have visible := List.dropWhile_suffix isBetween (l := cs)
  rw [shown] at visible
  have inner := sound.suffix visible
  have behind := (List.drop_suffix 1 _).trans (back_suffix endsHead rest)
  have bound := rules_bound finish false (inner.rest.suffix behind)
  have less := gauge_suffix behind
  have whole := gauge_suffix visible
  rw [rules_charset shown charset]
  obtain ⟨l,n,rfl,keyword,_⟩ := isCharset_iff charset
  obtain ⟨f,_,text,_⟩ := inner.leaf.keyword keyword
  have one : tally '@' = 1 := rfl
  rw [texts,gauge_append,Component.text,text,gauge,one] at whole
  omega

-- A rule that gives no node is lost, or it is all that is left.
theorem Read.Formed.lost (formed : Read.Formed body tail after form) (sound : Sound top body) (empty : nodesOf form = []) :
    after = [] ∨ 0 < gauge (texts body) := by
  cases formed with
  | statement | styled => rw [nodesOf] at empty; cases empty
  | atBlock => rw [nodesOf] at empty; split at empty <;> cases empty
  | invalid _ _ lost =>
    refine lost.imp_right ?_
    rintro ⟨head,opening,inside,closing,rfl⟩
    have written := (gauge_braced head sound.right [] []).2
    omega

theorem rules_stable (finish : Place) (veryFirst : Bool) (standing : Standing top cs y) (closes : Closes top z)
    (full : gauge (Sheet.text (rules finish veryFirst cs).sheet) = gauge (texts cs))
    (same : Sheet.text (rules finish veryFirst cs).sheet ++ z = texts cs ++ y) :
    Sheet.text (rules finish veryFirst cs).sheet = texts cs ∧ AllReprint top (rules finish veryFirst cs).sheet ∧
      (veryFirst = true → Fresh (rules finish veryFirst cs).sheet) := by
  induction size : weights cs using Nat.strongRecOn generalizing cs top y z finish veryFirst with
  | ind k ih =>
    have sound := standing.sound
    have front := List.takeWhile_append_dropWhile (p := isBetween) (l := cs)
    cases shown : cs.dropWhile isBetween with
    | nil =>
      rw [rules_none shown] at same ⊢
      have none := closes.nothing sound same
      subst none
      exact ⟨rfl,trivial,fun _ => nofun⟩
    | cons first rest =>
      rw [shown] at front
      cases charset : veryFirst && isCharset first with
      | true =>
        obtain ⟨rfl,charset⟩ := Bool.and_eq_true_iff.mp charset
        have less := charset_lost finish sound shown charset
        omega
      | false =>
        obtain ⟨body,tail,after,form,whole,behind,formed,read⟩ := rules_step finish shown charset
        have down : weights after < k := by
          have visible := weights_suffix (shown ▸ List.dropWhile_suffix isBetween (l := cs))
          have smaller := weights_suffix behind
          have counted := weight_pos first
          simp only [weights] at visible
          omega
        rw [← front,whole] at sound
        have later := rules_bound finish false sound.right.right
        have cost := congrArg (fun cs => gauge (texts cs)) (front.symm.trans (congrArg _ whole))
        simp only [texts_append,gauge_append] at cost
        rw [read,sheetText_append] at same ⊢
        rw [read,sheetText_append,gauge_append,cost] at full
        by_cases valid : nodesOf form = []
        · exfalso
          rw [valid,Sheet.text,gauge,Nat.zero_add] at full
          rw [valid,Sheet.text,List.nil_append] at same
          rcases formed.lost sound.right.left.left valid with rfl | lost
          · rw [rules_none rfl] at same
            have none := closes.nothing standing.sound same
            rw [none] at shown
            cases shown
          · omega
        · have one := formed.bound sound.right.left.left fun stop inside _ sound => rules_bound stop true sound
          have between : cs.takeWhile isBetween = [] := by
            cases taken : cs.takeWhile isBetween with
            | nil => rfl
            | cons b bs =>
              exfalso
              rw [taken] at sound front full
              rw [texts,gauge_append] at full
              have passed : isBetween b = true :=
                List.all_eq_true.mp List.all_takeWhile b (by rw [taken]; exact List.mem_cons_self)
              obtain ⟨d,s,text,blank⟩ := between_first sound passed (by omega)
              obtain ⟨e,t,printed,dark⟩ := formed.dark valid
              have written : texts (b :: bs ++ first :: rest) = d :: (s ++ texts (bs ++ first :: rest)) := by
                rw [List.cons_append,texts,text]
                rfl
              rw [printed,← front,written] at same
              obtain ⟨rfl,_⟩ := List.cons.inj same
              rw [blank] at dark
              cases dark
          rw [between,List.nil_append,whole] at front
          have nothing : gauge (texts []) = 0 := rfl
          rw [between,nothing] at full
          have lighter : weights body < k + 1 := by
            rw [← size,← front,weights_append,weights_append]
            omega
          rw [← front] at standing same ⊢
          have inner : ∀ inside, weights inside < weights body → StableInside inside := by
            intro inside smaller stop y r standing full same
            obtain ⟨printed,reprint,fresh⟩ := ih _ (by omega) stop true standing (.inr ⟨rfl,r,rfl⟩) full same rfl
            exact ⟨printed,reprint,fresh rfl⟩
          rw [List.append_assoc] at same
          obtain ⟨node,one',reprints,rest'⟩ := formed.stable standing valid inner (by omega) same
          obtain ⟨printed,reprint,_⟩ := ih _ down finish false standing.behind closes (by omega) rest' rfl
          refine ⟨?_,?_,fun begins => ?_⟩
          · rw [printed] at rest'
            have finished := List.append_cancel_left rest'
            rw [finished,← List.append_assoc] at same
            exact List.append_cancel_right same
          · rw [one']
            exact ⟨reprints,reprint⟩
          · rw [begins,Bool.true_and] at charset
            have fresh := formed.fresh whole charset
            rw [one'] at fresh ⊢
            exact fresh

theorem components_standing (s : Text) : Standing none (components s) [] where
  sound := ⟨(components_fit s).1,by rw [(components_fit s).2]; exact lexemes_genuine s⟩
  whole := .inr rfl
  lexed := ⟨[],by rw [List.append_nil,List.append_nil,components_texts,(components_fit s).2]⟩
  finished := .inl rfl

theorem leadingCharset?_some {params : Text} (found : leadingCharset? cs = some (params,rest)) :
    ∃ spaces l n head tail, cs = spaces ++ (.leaf l :: head ++ tail ++ rest) ∧ (∀ c ∈ spaces, isSpacing c = true) ∧
      l.token = .atKeyword n ∧ lower n = "charset" ∧ (∀ c ∈ head, isSemicolon c = false) ∧ Ended tail rest ∧
      params = collapse (texts head) := by
  have parted := List.takeWhile_append_dropWhile (p := isSpacing) (l := cs)
  have spacing : ∀ c ∈ cs.takeWhile isSpacing, isSpacing c = true := fun c inside =>
    List.all_eq_true.mp List.all_takeWhile c inside
  unfold leadingCharset? at found
  cases skipped : skipSpacing cs with
  | nil => rw [skipped] at found; cases found
  | cons c more =>
    rw [skipped] at found
    rw [show cs.dropWhile isSpacing = c :: more from skipped] at parted
    dsimp only at found
    split at found
    · rename_i charset
      obtain ⟨l,n,rfl,keyword,spelled⟩ := isCharset_iff charset
      rcases cut_cases isSemicolon more with clear | ⟨head,d,after,rfl,clear,semi⟩
      · obtain ⟨front,back⟩ := front_free clear
        rw [front,back] at found
        cases found
        exact ⟨_,l,n,more,[],by simpa using parted.symm,spacing,keyword,spelled,clear,.finished,rfl⟩
      · obtain ⟨front,back⟩ := front_cut clear semi after
        rw [front,back] at found
        cases found
        exact ⟨_,l,n,head,[d],by simpa using parted.symm,spacing,keyword,spelled,clear,.semicolon semi,rfl⟩
    · cases found

theorem Sheet.reprints_of_read {sheet : Sheet} (read : sheetOf (Sheet.text sheet) = sheet) : Sheet.Reprints sheet := by
  have standing := components_standing (Sheet.text sheet)
  have whole := components_texts (Sheet.text sheet)
  rw [sheetOf_components,sheetFrom] at read
  generalize components (Sheet.text sheet) = cs at standing whole read
  cases leading : leadingCharset? cs with
  | none =>
    rw [leading] at read
    dsimp only at read
    rw [← read] at whole ⊢
    obtain ⟨_,reprint,fresh⟩ := rules_stable .start true standing (.inl ⟨rfl,rfl⟩) (congrArg gauge whole.symm)
      (congrArg (· ++ []) whole.symm)
    exact .inl ⟨fresh rfl,reprint⟩
  | some found =>
    obtain ⟨params,rest⟩ := found
    rw [leading] at read
    dsimp only at read
    rw [← read] at whole ⊢
    obtain ⟨spaces,l,n,head,tail,rfl,spacing,token,spelled,free,ended,rfl⟩ := leadingCharset?_some leading
    have sound := standing.sound.right
    have kept := keeps_head sound.left.left.leaf token head
    have bound := kept.bound
    have later := rules_bound .start true sound.right
    have nothing := (Ended.gauge ended sound.left.right).1
    have semi : gauge (";" : Text) = 0 := rfl
    have cost := congrArg gauge whole
    rw [spelled] at kept bound
    rw [Sheet.text,Node.text] at whole cost
    simp only [texts_append,gauge_append,nothing,semi] at cost
    have written : gauge (texts (.leaf l :: head)) = gauge (l.text ++ texts head) := rfl
    have none : spaces = [] := by
      cases spaces with
      | nil => rfl
      | cons b spaces =>
        exfalso
        have between : isBetween b = true := by rw [isBetween,spacing b List.mem_cons_self]; rfl
        rw [texts,gauge_append] at cost
        obtain ⟨d,s,text,blank⟩ := between_first standing.sound between (by omega)
        rw [List.cons_append,texts,text] at whole
        obtain ⟨rfl,_⟩ := List.cons.inj whole
        cases blank
    subst none
    rw [List.nil_append] at standing whole
    have empty : gauge (texts []) = 0 := rfl
    rw [empty] at cost
    obtain ⟨_,piece,rest'⟩ := standing.statement ended kept (by omega)
      (whole.symm.trans (List.append_nil _).symm)
    obtain ⟨_,reprint,fresh⟩ := rules_stable .start true standing.behind (.inl ⟨rfl,rfl⟩) (by omega)
      ((List.append_nil _).trans rest')
    exact .inr ⟨_,_,rfl,⟨l,n,head,piece,token,spelled,free,rfl⟩,fresh rfl,reprint⟩

-- A sheet is read again from its text exactly if each of its parts is.
theorem Sheet.reprints_iff (sheet : Sheet) : sheetOf (Sheet.text sheet) = sheet ↔ Sheet.Reprints sheet :=
  ⟨Sheet.reprints_of_read,Sheet.Reprints.read⟩

-- A sheet that was read is printed and read again as it was exactly if its parts are.
theorem sheetOf_text_iff (css : Text) : sheetOf (Sheet.text (sheetOf css)) = sheetOf css ↔ Sheet.Reprints (sheetOf css) :=
  Sheet.reprints_iff _

-- The value loses its escaped blank, and the backslash that stays takes the semicolon behind it.
theorem escaped_blank_cut : sheetOf (Sheet.text (sheetOf ".a\x7bb:c\\ ;d:e\x7d")) ≠ sheetOf ".a\x7bb:c\\ ;d:e\x7d" := fun same =>
  absurd (congrArg Sheet.rules same) (by decide +kernel)

end StyleTrim.Css
