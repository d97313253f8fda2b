import StyleTrim.Proofs.Spacing
namespace StyleTrim.Css
open Text

-- Whole tokens, addresses and strings of two texts that scanners can follow side by side.

-- Tokens that are neither blanks nor comments nor strings.
def Token.isWord : Token → Bool
  | .quoted _ | .badQuoted _ | .blank | .comment => false
  | _ => true

namespace Scan
variable {R : Text → Text → Text → Prop} {c : Char} {s s' t u z b : Text}

theorem badAddress_plain (paren : c ≠ ')') (escape : c ≠ '\\') (s : Text) : Scan.badAddress (c :: s) = Scan.badAddress s := by
  rw [Scan.badAddress]
  · exact paren
  · exact fun _ same => absurd same escape
  · exact fun _ same => absurd same escape

theorem badAddress_escape (c : Char) (s : Text) : Scan.badAddress ('\\' :: c :: s) = Scan.badAddress s := by
  by_cases paren : c = ')'
  · subst paren; rw [Scan.badAddress]
  by_cases escape : c = '\\'
  · subst escape; rw [Scan.badAddress]
  rw [Scan.badAddress,badAddress_plain paren escape]
  · exact fun same => absurd same (by decide)
  · exact fun _ _ same => paren (List.cons.inj same).1
  · exact fun _ _ same => escape (List.cons.inj same).1

-- What is left behind an address that cannot be read does not count for where it ends.
theorem badAddress_shared (read : Scan.badAddress (u ++ ')' :: t) = ')' :: t) (t' : Text) : Scan.badAddress (u ++ ')' :: t') = ')' :: t' := by
  induction size : u.length using Nat.strongRecOn generalizing u with
  | ind size ih =>
    cases u with
    | nil => rw [List.nil_append,Scan.badAddress]
    | cons c u =>
      rw [List.length_cons] at size
      by_cases paren : c = ')'
      · subst paren
        rw [List.cons_append,Scan.badAddress] at read
        have longer := congrArg List.length read
        simp at longer
        omega
      by_cases escape : c = '\\'
      · subst escape
        cases u with
        | nil =>
          rw [List.cons_append,List.nil_append,badAddress_escape] at read
          exact absurd (read ▸ badAddress_suffix t).length_le (by simp)
        | cons d u =>
          rw [List.length_cons] at size
          rw [List.cons_append,List.cons_append,badAddress_escape] at read ⊢
          exact ih u.length (by omega) read rfl
      · rw [List.cons_append,badAddress_plain paren escape] at read ⊢
        exact ih u.length (by omega) read rfl

theorem addressEnd_shared (read : addressEnd b (u ++ ')' :: t) = (none,')' :: t)) (t' : Text) :
    addressEnd b (u ++ ')' :: t') = (none,')' :: t') := by
  induction u with
  | nil => cases read
  | cons c u ih =>
    by_cases paren : c = ')'
    · subst paren; cases read
    · rw [List.cons_append,addressEnd_plain b paren] at read ⊢
      split
      · rename_i blank
        rw [if_pos blank] at read
        exact ih read
      · rename_i ink
        rw [if_neg ink] at read
        rw [badAddress_shared (Prod.mk.inj read).2]

theorem paren_edge (t : Text) : Edge (')' :: t) := edge_cons rfl rfl t

theorem addressFrom_shared (read : addressFrom b (u ++ ')' :: t) = (none,')' :: t)) (t' : Text) :
    addressFrom b (u ++ ')' :: t') = (none,')' :: t') := by
  induction size : u.length using Nat.strongRecOn generalizing b u with
  | ind size ih =>
    cases u with
    | nil =>
      rw [List.nil_append,addressFrom,if_pos rfl] at read
      cases read
    | cons c u =>
      rw [List.length_cons] at size
      simp only [List.cons_append] at read ⊢
      cases addressLetter c with
      | closes step => rw [step] at read; cases read
      | blank step =>
        rw [step] at read ⊢
        exact addressEnd_shared (u := c :: u) read t'
      | spoils step =>
        rw [step] at read ⊢
        rw [badAddress_shared (Prod.mk.inj read).2]
      | adds step =>
        rw [step] at read ⊢
        exact ih u.length (by omega) read rfl
      | escapes _ step =>
        rw [step] at read ⊢
        cases u with
        | nil =>
          have left := addressFrom_suffix ((Scan.escape (')' :: t)).1 :: b) (Scan.escape (')' :: t)).2
          rw [List.nil_append,if_neg (show ¬startsNewline (')' :: t) = true from Bool.false_ne_true)] at read
          rw [read] at left
          exact absurd left.length_le (by simp [Scan.escape,show hexValue? ')' = none from rfl])
        | cons d u =>
          rw [List.length_cons] at size
          have shorter := (escape_suffix (d :: u)).length_le
          rw [escape_past (paren_edge t) (List.cons_ne_nil d u)] at read
          rw [escape_past (paren_edge t') (List.cons_ne_nil d u)]
          rw [List.cons_append,startsNewline] at read ⊢
          split
          · rename_i newline
            rw [if_pos newline] at read
            exact congrArg (none,·) (badAddress_shared (u := d :: u) (Prod.mk.inj read).2 t')
          · rename_i inside
            rw [if_neg inside] at read
            exact ih _ (by simp only [List.length_cons] at shorter; omega) read rfl

theorem unquoted_shared (read : addressFrom [] (u ++ ')' :: t) = (none,')' :: t)) (t' : Text) :
    unquoted (u ++ ')' :: t') = (.badAddress u,t') := by
  rw [unquoted_bad (addressFrom_shared read t'),frontOf_front]
  rfl

theorem addressEnd_skip (b s : Text) : addressEnd b (s.dropWhile isAsciiBlank) = addressEnd b s := by
  induction s with
  | nil => rfl
  | cons c t ih =>
    cases blank : isAsciiBlank c with
    | true =>
      rw [List.dropWhile_cons_of_pos blank,ih,addressEnd_plain b (by rintro rfl; cases blank),if_pos blank]
    | false => rw [List.dropWhile_cons_of_neg (by rw [blank]; exact Bool.false_ne_true)]

-- Behind a blank an address is over, and so it is where nothing but its parenthesis can follow.
theorem addressFrom_over (ended : begins isAsciiBlank s = true ∨ s = [] ∨ ∃ t, s = ')' :: t) (b : Text) :
    addressFrom b s = addressEnd b.reverse s := by
  rcases ended with blank | rfl | ⟨t,rfl⟩
  · cases s with
    | nil => cases blank
    | cons c t =>
      have here : isAsciiBlank c = true := blank
      rw [addressFrom,if_neg (by rintro rfl; cases here),if_pos here]
  · rw [addressFrom,addressEnd]
  · rw [addressFrom,addressEnd,if_pos rfl]

theorem skip_begins (s : Text) : begins isAsciiBlank (s.dropWhile isAsciiBlank) = false := by
  have head := List.head?_dropWhile_not isAsciiBlank s
  cases same : s.dropWhile isAsciiBlank with
  | nil => rfl
  | cons c t => rw [same] at head; simpa using head

theorem oneBlank_skip (s : Text) : (oneBlank s).dropWhile isAsciiBlank = s.dropWhile isAsciiBlank := by
  fun_cases oneBlank s
  · rfl
  · rename_i blank
    rw [List.dropWhile_cons_of_pos blank]
  · rfl
  · rfl

theorem addressEnd_good (dark : begins isAsciiBlank s = false) (good : (addressEnd b s).1 ≠ none) :
    s = [] ∨ ∃ t, s = ')' :: t := by
  cases s with
  | nil => exact .inl rfl
  | cons c t =>
    by_cases paren : c = ')'
    · exact .inr ⟨t,by rw [paren]⟩
    · have shown : isAsciiBlank c = false := dark
      rw [addressEnd_plain b paren,if_neg (by rw [shown]; exact Bool.false_ne_true)] at good
      exact absurd rfl good

theorem skip_dark (dark : begins isAsciiBlank s = false) : s.dropWhile isAsciiBlank = s := by
  cases s with
  | nil => rfl
  | cons c t =>
    have shown : isAsciiBlank c = false := dark
    rw [List.dropWhile_cons_of_neg (by rw [shown]; exact Bool.false_ne_true)]

theorem address?_eq (s : Text) : address? s =
    if begins isQuoteMark (s.dropWhile isAsciiBlank) then none else some (unquoted (s.dropWhile isAsciiBlank)) := by
  cases inked : s.dropWhile isAsciiBlank with
  | nil =>
    unfold address?
    rw [inked,unquoted_good (by rw [addressFrom])]
    rfl
  | cons c t =>
    by_cases paren : c = ')'
    · subst paren
      rw [address?_closed inked,unquoted_good (by rw [addressFrom,if_pos rfl])]
      rfl
    · rw [address?_open inked paren]
      rfl

-- A blank inside of a lexeme stands for blanks, and no end of a word for a blank.
def Firm (R : Text → Text → Text → Prop) (z : Text) : Prop :=
  ∀ ⦃c s s'⦄, R z (c :: s) s' → isAsciiBlank c = true → z <:+ s → s' = [] ∨ begins isAsciiBlank s' = true

-- Texts that are related do not differ in an address that cannot be read.
structure Rigid (R : Text → Text → Text → Prop) (z v : Text) : Prop where
  closed {s' : Text} : R z (v ++ ')' :: z) s' → ∃ z', s' = v ++ ')' :: z' ∧ R z z z'
  ended {s' : Text} : z = [] → R z v s' → s' = v ∧ R z [] []

-- What following an address asks for.
def Settled (R : Text → Text → Text → Prop) (z : Text) (t : Token) : Prop :=
  (t.kind = .address → Firm R z) ∧ ∀ v, t = .badAddress v → Rigid R z v

namespace Tracks

theorem addressEnd (tracks : Tracks R) (rel : R z s s') (read : (Scan.addressEnd b s).2 = z)
    (good : (Scan.addressEnd b s).1 ≠ none) : Agree (R z) (Scan.addressEnd b s) (Scan.addressEnd b s') := by
  rw [← addressEnd_skip] at read good
  have skipped := tracks.skip rel (.inl (read ▸ addressEnd_suffix _ _))
  rw [← addressEnd_skip b s,← addressEnd_skip b s']
  have ends := addressEnd_good (skip_begins s) good
  generalize s.dropWhile isAsciiBlank = u at read skipped ends
  generalize s'.dropWhile isAsciiBlank = u' at skipped
  rcases ends with rfl | ⟨t,rfl⟩
  · cases tracks.nil skipped
    exact ⟨rfl,skipped⟩
  · rcases tracks.meet skipped (c := ')') (by decide) with ⟨_,t',⟨⟩,rfl,more⟩ | ⟨no,_⟩
    · exact ⟨rfl,more⟩
    · exact absurd rfl (no t)

-- Where one side has a blank behind an escape and the other may have none, an address can only end.
theorem addressFrom_apart (tracks : Tracks R) (behind : R z q q') (blank : begins isAsciiBlank (oneBlank q) = true)
    (read : (Scan.addressFrom b (oneBlank q)).2 = z) (good : (Scan.addressFrom b (oneBlank q)).1 ≠ none) :
    Agree (R z) (Scan.addressFrom b (oneBlank q)) (Scan.addressFrom b (oneBlank q')) := by
  rw [addressFrom_over (.inl blank),← addressEnd_skip,oneBlank_skip] at read good ⊢
  have skipped := tracks.skip behind (.inl (read ▸ addressEnd_suffix _ _))
  have ended' : q'.dropWhile isAsciiBlank = [] ∨ ∃ t, q'.dropWhile isAsciiBlank = ')' :: t := by
    rcases addressEnd_good (skip_begins q) good with none | ⟨u,paren⟩
    · exact .inl (tracks.nil (none ▸ skipped))
    · rcases tracks.meet skipped (c := ')') (by decide) with ⟨_,u',_,same',_⟩ | ⟨no,_⟩
      · exact .inr ⟨u',same'⟩
      · exact absurd paren (no u)
  rw [addressFrom_over,← addressEnd_skip _ (oneBlank q'),oneBlank_skip]
  · exact tracks.addressEnd skipped read good
  · cases here : begins isAsciiBlank (oneBlank q') with
    | true => exact .inl rfl
    | false =>
      have all : q'.dropWhile isAsciiBlank = oneBlank q' := (oneBlank_skip q').symm.trans (skip_dark here)
      exact .inr (all ▸ ended')

theorem addressFrom (tracks : Tracks R) (rel : R z s s') (read : (Scan.addressFrom b s).2 = z)
    (good : (Scan.addressFrom b s).1 ≠ none) (firm : Firm R z) : Agree (R z) (Scan.addressFrom b s) (Scan.addressFrom b s') := by
  induction size : s.length using Nat.strongRecOn generalizing b s s' with
  | ind size ih =>
    cases tracks.view rel with
    | done => rw [Scan.addressFrom]; exact .pair rel
    | @char c t t' plain more =>
      cases addressLetter c with
      | closes step => rw [step,step]; exact .pair more
      | blank step =>
        rw [step] at read good ⊢
        rw [step]
        exact tracks.addressEnd rel read good
      | spoils step => rw [step] at good; exact absurd rfl good
      | adds step =>
        rw [step] at read good ⊢
        rw [step]
        exact ih t.length (by simp [← size]) more read good rfl
      | escapes backslash => exact absurd backslash plain
    | @escape c t t' more =>
      have enter : ∀ s, Scan.addressFrom b ('\\' :: c :: s) = if isNewline c then (none,Scan.badAddress (c :: s))
          else Scan.addressFrom ((Scan.escape (c :: s)).1 :: b) (Scan.escape (c :: s)).2 := by
        intro s
        rw [Scan.addressFrom,if_neg (by decide),if_neg (by decide),if_neg (by decide),if_pos rfl]
        rfl
      rw [enter] at read good ⊢
      rw [enter]
      split
      · rename_i newline
        rw [if_pos newline] at good
        exact absurd rfl good
      · rename_i inside
        rw [if_neg inside] at read good
        have left : z <:+ (Scan.escape (c :: t)).2 := read ▸ addressFrom_suffix _ _
        have shorter := (escape_suffix (c :: t)).length_le
        obtain ⟨value,rest⟩ := tracks.escape more left
        rw [value]
        rcases rest with rest | ⟨q,q',behind,same,same',_,blank⟩
        · exact ih _ (by simp only [List.length_cons] at size shorter; omega) rest read good rfl
        · rw [same] at read good
          rw [same,same']
          exact tracks.addressFrom_apart behind blank read good
    | lone more =>
      have enter : Scan.addressFrom b ['\\'] = (some (replacement :: b).reverse,[]) := by
        rw [Scan.addressFrom,if_neg (by decide),if_neg (by decide),if_neg (by decide),if_pos rfl,if_neg (by decide),
          Scan.escape,Scan.addressFrom]
      rw [enter]
      exact .pair more
    | @quote c t t' mark left =>
      have bad : (isUnprintable c || c = '"' || c = '\'' || c = '(') = true := by
        rcases quote_cases mark with rfl | rfl <;> decide
      have dark : ¬isAsciiBlank c = true := by
        rcases quote_cases mark with rfl | rfl <;> decide
      rw [Scan.addressFrom,if_neg (by rintro rfl; cases mark),if_neg dark,if_pos bad] at good
      exact absurd rfl good
    | @gap c t _ _ ascii shut =>
      have blank := ascii (read ▸ addressFrom_suffix b (c :: t))
      rw [addressFrom_over (s := c :: t) (.inl blank)] at read good ⊢
      have left : z <:+ t := by
        rw [addressEnd_plain _ (by rintro rfl; cases blank),if_pos blank] at read
        exact read ▸ addressEnd_suffix _ t
      rw [addressFrom_over]
      · exact tracks.addressEnd rel read good
      · rcases firm rel blank left with rfl | here
        · exact .inr (.inl rfl)
        · exact .inl here

theorem unquoted (tracks : Tracks R) (rel : R z s s') (read : (Scan.unquoted s).2 = z) (settled : Settled R z (Scan.unquoted s).1) :
    Agree (R z) (Scan.unquoted s) (Scan.unquoted s') := by
  obtain ⟨firm,rigid⟩ := settled
  have closes := addressFrom_left [] s
  have left := addressFrom_suffix [] s
  cases found : Scan.addressFrom [] s with
  | mk value? rest =>
    rw [found] at closes left
    cases value? with
    | some value =>
      rw [unquoted_good found] at read firm ⊢
      obtain ⟨same,more⟩ := tracks.addressFrom rel (b := []) (by rw [found]; exact read) (by rw [found]; nofun) (firm rfl)
      rw [found] at same more
      have found' : Scan.addressFrom [] s' = (some value,(Scan.addressFrom [] s').2) := Prod.ext same rfl
      rw [unquoted_good found']
      exact ⟨rfl,more⟩
    | none =>
      rw [unquoted_bad found] at read rigid ⊢
      dsimp only at read left
      rcases closes rfl with nothing | ⟨t,closed⟩
      · obtain rfl : rest = [] := nothing
        have whole : frontOf [] s = s := (List.append_nil _).symm.trans (frontOf_append left)
        obtain ⟨rfl,more⟩ := (rigid _ rfl).ended read.symm (whole.symm ▸ rel)
        rw [whole,unquoted_bad found,whole]
        exact ⟨rfl,read ▸ more⟩
      · obtain rfl : rest = ')' :: t := closed
        obtain rfl : t = z := read
        have whole := frontOf_append left
        obtain ⟨t',rfl,more⟩ := (rigid _ rfl).closed (whole.symm ▸ rel)
        rw [unquoted_shared (by rw [whole,found])]
        exact ⟨rfl,more⟩

theorem quotes (tracks : Tracks R) (rel : R z s s') : begins isQuoteMark s' = begins isQuoteMark s := by
  cases tracks.view rel with
  | done | char | escape | lone | quote => rfl
  | @gap c t _ blank _ shut =>
    have left : isQuoteMark c = false := by
      cases mark : isQuoteMark c with
      | false => rfl
      | true => rw [quote_dark mark] at blank; cases blank
    rw [begins_cons,left]
    rcases shut with rfl | ⟨d,u,rfl,blank⟩ | ⟨u,rfl⟩
    · rfl
    · cases mark : isQuoteMark d with
      | false => exact mark
      | true => cases (quote_dark mark).symm.trans (blank_of_ascii blank)
    · rfl

theorem address? (tracks : Tracks R) (rel : R z s s') (read : ∀ step, Scan.address? s = some step → step.2 = z)
    (settled : ∀ step, Scan.address? s = some step → Settled R z step.1) : Option.Rel (Agree (R z)) (Scan.address? s) (Scan.address? s') := by
  have dark : Dark (s.dropWhile isAsciiBlank) ∨ ∃ step, Scan.address? s = some step := by
    rw [address?_eq]
    cases mark : begins isQuoteMark (s.dropWhile isAsciiBlank) with
    | false => exact .inr ⟨_,rfl⟩
    | true =>
      refine .inl fun c first => quote_dark ?_
      rwa [begins,Option.mem_def.mp first] at mark
  have skipped : R z (s.dropWhile isAsciiBlank) (s'.dropWhile isAsciiBlank) := by
    refine tracks.skip rel ?_
    rcases dark with dark | ⟨step,found⟩
    · exact .inr dark
    · refine .inl (read step found ▸ ?_)
      rw [address?_eq] at found
      split at found
      · cases found
      · cases found
        exact (unquoted_suffix _).trans (addressFrom_suffix _ _)
  rw [address?_eq] at read settled ⊢
  rw [address?_eq,tracks.quotes skipped]
  split
  · exact .none
  · rename_i open'
    rw [if_neg open'] at read settled
    exact .some (tracks.unquoted skipped (read _ rfl) (settled _ rfl))

theorem identLike (tracks : Tracks R) (rel : R z s s') (read : (Scan.identLike s).2 = z) (settled : Settled R z (Scan.identLike s).1) :
    Agree (R z) (Scan.identLike s) (Scan.identLike s') := by
  have left : z <:+ (Scan.name s).2 := read ▸ identLike_rest s
  by_cases call : ∃ rest, (Scan.name s).2 = '(' :: rest
  · obtain ⟨rest,behind⟩ := call
    obtain ⟨same,more⟩ := tracks.name rel left (by rw [behind]; exact fun blank => nomatch blank)
    rw [behind] at more
    rcases tracks.meet more (c := '(') (by decide) with ⟨_,rest',⟨⟩,behind',inner⟩ | ⟨no,_⟩
    · have call : Scan.name s = ((Scan.name s).1,'(' :: rest) := Prod.ext rfl behind
      have call' : Scan.name s' = ((Scan.name s).1,'(' :: rest') := Prod.ext same behind'
      rw [identLike_call call] at read settled ⊢
      rw [identLike_call call']
      split
      · rename_i url
        rw [if_pos url] at read settled
        have address := tracks.address? inner (fun step found => by rw [found] at read; exact read)
          (fun step found => by rw [found] at settled; exact settled)
        generalize Scan.address? rest = found at address
        generalize Scan.address? rest' = found' at address
        cases address with
        | some agree => exact agree
        | none => exact .pair inner
      · exact .pair inner
    · exact absurd rfl (no _)
  · have plain : ∀ t, (Scan.name s).2 ≠ '(' :: t := fun t same => call ⟨t,same⟩
    rw [identLike_plain rfl plain] at read ⊢
    obtain ⟨same,more⟩ := tracks.name_whole rel read
    rcases tracks.meet more (c := '(') (by decide) with ⟨t,_,behind,_,_⟩ | ⟨_,no⟩
    · exact absurd behind (plain t)
    · have call' : Scan.name s' = ((Scan.name s).1,(Scan.name s').2) := Prod.ext same rfl
      rw [identLike_plain call' no]
      exact .pair more

theorem orMatch (tracks : Tracks R) (rel : R z s s') (m : Token) (d : Char) : Agree (R z) (Scan.orMatch m d s) (Scan.orMatch m d s') := by
  have plain : ∀ s : Text, (∀ t, s ≠ '=' :: t) → Scan.orMatch m d s = (.delim d,s) := by
    intro s no
    unfold Scan.orMatch
    split
    · exact absurd rfl (no _)
    · rfl
  rcases tracks.meet rel (c := '=') (by decide) with ⟨t,t',rfl,rfl,more⟩ | ⟨no,no'⟩
  · exact .pair more
  · rw [plain s no,plain s' no']
    exact .pair rel

theorem startsHash (tracks : Tracks R) (rel : R z s s') : Scan.startsHash s' = Scan.startsHash s := by
  have solid : ∀ c, (isDigit c || c = '-') = true → isSolid c = true := by
    intro c part
    rcases Bool.or_eq_true _ _ ▸ part with digit | minus
    · exact digit_solid c digit
    · rw [of_decide_eq_true minus]; decide
  rcases tracks.look rel solid with ⟨c,t,t',rfl,rfl,_,_⟩ | ⟨no,no'⟩
  · rfl
  · exact no'.trans no.symm

theorem hash (tracks : Tracks R) (rel : R z s s') (read : (Scan.hash s).2 = z) : Agree (R z) (Scan.hash s) (Scan.hash s') := by
  have named : Scan.startsName s = true → (Scan.name s).2 = z := by
    intro named
    unfold Scan.hash at read
    rwa [if_pos named] at read
  have same := tracks.startsName rel fun name => named name ▸ List.suffix_rfl
  cases begins : Scan.startsName s with
  | true =>
    unfold Scan.hash
    rw [if_pos begins,if_pos (same.trans begins)]
    exact (tracks.name_whole rel (named begins)).map _
  | false =>
    rw [hash_other begins] at read ⊢
    rw [hash_other (same.trans begins),tracks.startsHash rel]
    split
    · rename_i part
      rw [if_pos part] at read
      exact (tracks.name_whole rel read).map _
    · exact .pair rel

theorem less (tracks : Tracks R) (rel : R z s s') : Agree (R z) (Scan.less s) (Scan.less s') := by
  have plain : ∀ s : Text, (∀ t, s ≠ '!' :: '-' :: '-' :: t) → Scan.less s = (.delim '<',s) := by
    intro s no
    unfold Scan.less
    split
    · exact absurd rfl (no _)
    · rfl
  have both : (∀ t, s ≠ '!' :: '-' :: '-' :: t) → (∀ t, s' ≠ '!' :: '-' :: '-' :: t) → Agree (R z) (Scan.less s) (Scan.less s') := by
    intro no no'
    rw [plain s no,plain s' no']
    exact .pair rel
  cases tracks.view rel with
  | done | escape | lone => exact both nofun nofun
  | @char c t t' _ more =>
    rcases tracks.meet more (c := '-') (by decide) with ⟨u,u',rfl,rfl,rest⟩ | ⟨no,no'⟩
    · rcases tracks.meet rest (c := '-') (by decide) with ⟨v,v',rfl,rfl,last⟩ | ⟨no,no'⟩
      · by_cases mark : c = '!'
        · subst mark
          exact .pair last
        · exact both (fun _ same => mark (List.cons.inj same).1) fun _ same => mark (List.cons.inj same).1
      · exact both (fun t same => no t (List.cons.inj (List.cons.inj same).2).2)
          fun t same => no' t (List.cons.inj (List.cons.inj same).2).2
    · exact both (fun t same => no _ (List.cons.inj same).2) fun t same => no' _ (List.cons.inj same).2
  | quote mark => exact both (by rintro _ ⟨⟩; cases mark) (by rintro _ ⟨⟩; cases mark)
  | gap blank _ shut =>
    refine both (by rintro _ ⟨⟩; cases blank) ?_
    rintro _ rfl
    rcases shut with same | ⟨_,_,⟨⟩,blank⟩ | ⟨_,same⟩
    · cases same
    · cases blank
    · cases (List.cons.inj (List.cons.inj same).2).1

end Tracks

-- A scanner for what a character begins, which goes along with related texts.
def Follows (R : Text → Text → Text → Prop) (c : Char) (f : Text → Step Token) : Prop :=
  ∀ ⦃z s s'⦄, R z (c :: s) (c :: s') → R z s s' → (f s).2 = z → (f s).1.isWord = true → Settled R z (f s).1 → Agree (R z) (f s) (f s')

theorem follows_const (t : Token) : Follows R c fun s => (t,s) := fun _ _ _ _ more _ _ _ => .pair more

theorem follows_ite {f g : Text → Step Token} (q : Text → Bool)
    (same : ∀ z s s', R z (c :: s) (c :: s') → R z s s' → (q s = true → (f s).2 = z) → q s' = q s)
    (yes : Follows R c f) (no : Follows R c g) : Follows R c fun s => if q s then f s else g s := by
  intro z s s' rel more read word settled
  dsimp only at read word settled ⊢
  have alike := same z s s' rel more fun holds => by rwa [if_pos holds] at read
  rw [alike]
  split
  · rename_i holds
    rw [if_pos holds] at read word settled
    exact yes rel more read word settled
  · rename_i fails
    rw [if_neg fails] at read word settled
    exact no rel more read word settled

namespace Tracks

theorem follows_numeric (tracks : Tracks R) (c : Char) : Follows R c fun s => Scan.numeric (c :: s) :=
  fun _ _ _ rel _ read _ _ => tracks.numeric rel read

theorem follows_identLike (tracks : Tracks R) (c : Char) : Follows R c fun s => Scan.identLike (c :: s) :=
  fun _ _ _ rel _ read _ settled => tracks.identLike rel read settled

theorem follows_orMatch (tracks : Tracks R) (m : Token) (d : Char) : Follows R c (Scan.orMatch m d) :=
  fun _ _ _ _ more _ _ _ => tracks.orMatch more m d

-- What a hyphen begins is read together with it.
theorem follows_minus (tracks : Tracks R) : Follows R '-' Scan.minus := by
  have close : ∀ {s : Text}, (∀ t, s ≠ '-' :: '>' :: t) → Scan.startsNumber s = false → Scan.minus s =
      if Scan.startsName ('-' :: s) then Scan.identLike ('-' :: s) else (.delim '-',s) := by
    intro s no plain
    unfold Scan.minus
    rw [plain,if_neg Bool.false_ne_true]
    split
    · exact absurd rfl (no _)
    · rfl
  intro z s s' rel more read word settled
  cases digits : Scan.startsNumber s with
  | true =>
    unfold Scan.minus at read ⊢
    rw [if_pos digits] at read ⊢
    rw [if_pos ((tracks.startsNumber more).trans digits)]
    exact tracks.numeric rel read
  | false =>
    have digits' := (tracks.startsNumber more).trans digits
    have both : (∀ t, s ≠ '-' :: '>' :: t) → (∀ t, s' ≠ '-' :: '>' :: t) → Agree (R z) (Scan.minus s) (Scan.minus s') := by
      intro no no'
      rw [close no digits] at read word settled ⊢
      rw [close no' digits']
      refine follows_ite (fun s => Scan.startsName ('-' :: s)) ?_ (tracks.follows_identLike '-') (follows_const _) rel more read word
        settled
      intro z s s' rel _ read
      exact tracks.startsName rel fun named => read named ▸ identLike_rest _
    rcases tracks.meet more (c := '-') (by decide) with ⟨t,t',rfl,rfl,rest⟩ | ⟨no,no'⟩
    · rcases tracks.meet rest (c := '>') (by decide) with ⟨u,u',rfl,rfl,last⟩ | ⟨no,no'⟩
      · exact .pair last
      · exact both (fun t same => no t (List.cons.inj same).2) fun t same => no' t (List.cons.inj same).2
    · exact both (fun t same => no _ same) fun t same => no' _ same

theorem follows_slash (tracks : Tracks R) (c : Char) : Follows R c Scan.slash := by
  have plain : ∀ s : Text, (∀ t, s ≠ '*' :: t) → Scan.slash s = (.delim '/',s) := by
    intro s no
    unfold Scan.slash
    split
    · exact absurd rfl (no _)
    · rfl
  intro z s s' _ more _ word _
  rcases tracks.meet more (c := '*') (by decide) with ⟨t,t',rfl,rfl,_⟩ | ⟨no,no'⟩
  · cases word
  · rw [plain s no,plain s' no']
    exact .pair more

theorem follows_string (mark : Char) : Follows R c (Scan.string mark) := by
  intro z s s' _ _ _ word _
  unfold Scan.string at word
  dsimp only at word
  split at word <;> cases word

-- What any character but a backslash begins.
theorem token (tracks : Tracks R) (escape : c ≠ '\\') : Follows R c (Scan.token c) := by
  unfold Scan.token
  refine follows_ite (fun _ => isAsciiBlank c) (fun _ _ _ _ _ _ => rfl) (fun _ _ _ _ _ _ word _ => nomatch word) ?_
  refine follows_ite (fun _ => isDigit c) (fun _ _ _ _ _ _ => rfl) (tracks.follows_numeric c) ?_
  refine follows_ite (fun _ => isNameStart c) (fun _ _ _ _ _ _ => rfl) (tracks.follows_identLike c) ?_
  split
  any_goals exact follows_const _
  any_goals exact tracks.follows_orMatch _ _
  any_goals exact follows_string _
  · exact fun _ _ _ _ more read _ _ => tracks.hash more read
  · exact follows_ite Scan.startsNumber (fun _ _ _ _ more _ => tracks.startsNumber more) (tracks.follows_numeric _) (follows_const _)
  · exact follows_ite (fun s => Scan.startsNumber ('.' :: s)) (fun _ _ _ rel _ _ => tracks.startsNumber rel) (tracks.follows_numeric _)
      (follows_const _)
  · exact tracks.follows_minus
  · exact tracks.follows_slash _
  · exact fun _ _ _ _ more _ _ _ => tracks.less more
  · refine follows_ite Scan.startsName (fun _ _ _ _ more read => tracks.startsName more fun named => read named ▸ List.suffix_rfl) ?_
      (follows_const _)
    exact fun _ _ _ _ more read _ _ => (tracks.name_whole more read).map _
  · exact absurd rfl escape

end Tracks

-- What is no word tells so by its first character.
theorem isWord_of_kind {t : Token} (kind : t.kind = .word ∨ t.kind = .address) : t.isWord = true := by
  cases t <;> first | rfl | (rcases kind with kind | kind <;> cases kind)

theorem numeric_isWord (s : Text) : (numeric s).1.isWord = true := by
  unfold numeric
  split
  · rfl
  · split <;> rfl

theorem orMatch_isWord (m : Token) (word : m.isWord = true) (d : Char) (s : Text) : (orMatch m d s).1.isWord = true := by
  fun_cases orMatch m d s
  · exact word
  · rfl

theorem hash_isWord (s : Text) : (hash s).1.isWord = true := by
  unfold hash
  split
  · rfl
  · split
    · split <;> rfl
    · rfl

theorem minus_isWord (s : Text) : (minus s).1.isWord = true := by
  unfold minus
  split
  · exact numeric_isWord _
  · split
    · rfl
    · split
      · exact isWord_of_kind (identLike_kind _)
      · rfl

theorem token_cases (c : Char) (s : Text) : (token c s).1.isWord = true ∨ isAsciiBlank c = true ∨
    (isQuoteMark c = true ∧ token c s = string c s) ∨ (c = '/' ∧ ∃ t, s = '*' :: t) := by
  unfold token
  split
  · exact .inr (.inl ‹_›)
  split
  · exact .inl (numeric_isWord _)
  split
  · exact .inl (isWord_of_kind (identLike_kind _))
  split
  any_goals exact .inl rfl
  any_goals exact .inr (.inr (.inl ⟨rfl,rfl⟩))
  · exact .inl (hash_isWord s)
  any_goals exact .inl (orMatch_isWord _ rfl _ s)
  · split
    · exact .inl (numeric_isWord _)
    · exact .inl rfl
  · split
    · exact .inl (numeric_isWord _)
    · exact .inl rfl
  · exact .inl (minus_isWord s)
  · fun_cases slash s with
    | case1 t => exact .inr (.inr (.inr ⟨rfl,t,rfl⟩))
    | case2 => exact .inl rfl
  · fun_cases less s <;> exact .inl rfl
  · split <;> exact .inl rfl
  · split
    · exact .inl rfl
    · exact .inl (isWord_of_kind (identLike_kind _))

-- How two texts may go on inside of a string that ends at `z`: by `R` they are related behind it.
inductive Inside (m : Char) (Q R : Text → Text → Prop) (z : Text) : Text → Text → Prop
  | done (more : R [] []) : Inside m Q R z [] []
  | lone (more : R [] []) : Inside m Q R z ['\\'] ['\\']
  | escape {c : Char} {s s' : Text} (more : Q s s') : Inside m Q R z ('\\' :: c :: s) ('\\' :: c :: s')
  | close {s s' : Text} (more : R s s') : Inside m Q R z (m :: s) (m :: s')
  | char {c : Char} {s s' : Text} (other : c ≠ m) (plain : c ≠ '\\') (more : Q s s') : Inside m Q R z (c :: s) (c :: s')
  | stuck {s s' : Text} (left : ¬ z <:+ s) : Inside m Q R z (' ' :: s) ('!' :: s')

section Inside
variable {m : Char} {Q R : Text → Text → Prop}

theorem quote_hexDigit (mark : isQuoteMark m = true) : isHexDigit m = false := by
  rcases quote_cases mark with rfl | rfl <;> rfl

theorem inside_hexDigits (mark : isQuoteMark m = true) (view : ∀ {s s'}, Q s s' → Inside m Q R z s s') (rel : Q s s') (k : Nat) :
    Agree Q (hexDigits k s) (hexDigits k s') := by
  induction k generalizing s s' with
  | zero => rw [hexDigits,hexDigits]; exact ⟨rfl,rel⟩
  | succ k ih =>
    have both : begins isHexDigit s = false → begins isHexDigit s' = false → Agree Q (hexDigits (k+1) s) (hexDigits (k+1) s') := by
      intro no no'
      rw [hexDigits_other no,hexDigits_other no']
      exact ⟨rfl,rel⟩
    cases view rel with
    | done | lone | escape | stuck => exact both rfl rfl
    | close => exact both (quote_hexDigit mark) (quote_hexDigit mark)
    | @char c t t' _ _ more =>
      cases digit : hexValue? c with
      | none =>
        have no : isHexDigit c = false := by rw [isHexDigit,digit]; rfl
        exact both no no
      | some v =>
        obtain ⟨same,rest⟩ := ih more
        rw [hexDigits,hexDigits,digit]
        exact ⟨congrArg (v :: ·) same,rest⟩

theorem inside_oneBlank (mark : isQuoteMark m = true) (view : ∀ {s s'}, Q s s' → Inside m Q R z s s') (rel : Q s s')
    (left : z <:+ oneBlank s) : Q (oneBlank s) (oneBlank s') := by
  have dark : isAsciiBlank m = false := by
    rcases quote_cases mark with rfl | rfl <;> rfl
  cases view rel with
  | done | lone | escape => exact rel
  | close =>
    have other : m ≠ '\r' := by rintro rfl; cases mark
    rw [oneBlank_other other,oneBlank_other other,dark]
    exact rel
  | stuck left' => exact absurd left left'
  | @char c t t' _ _ more =>
    by_cases carriage : c = '\r'
    · subst carriage
      cases view more with
      | done | lone | escape => exact more
      | close =>
        have other : m ≠ '\n' := by rintro rfl; cases mark
        rw [oneBlank_carriage other,oneBlank_carriage other]
        exact more
      | stuck => exact more
      | @char d u u' _ _ rest =>
        by_cases feed : d = '\n'
        · subst feed
          exact rest
        · rw [oneBlank_carriage feed,oneBlank_carriage feed]
          exact more
    · rw [oneBlank_other carriage,oneBlank_other carriage]
      split
      · exact more
      · exact rel

theorem inside_escape (mark : isQuoteMark m = true) (view : ∀ {s s'}, Q s s' → Inside m Q R z s s') (more : Q s s')
    (left : z <:+ (escape (c :: s)).2) : Agree Q (escape (c :: s)) (escape (c :: s')) := by
  rw [escape] at left ⊢
  rw [escape]
  cases value : hexValue? c with
  | none => exact ⟨rfl,more⟩
  | some v =>
    rw [value] at left
    obtain ⟨same,rest⟩ := inside_hexDigits mark view more 5
    dsimp only
    rw [same]
    exact ⟨rfl,inside_oneBlank mark view rest left⟩

-- A string has the same value in both texts. Where a line end cuts it off, what is left begins inside of it.
theorem quoted_inside (mark : isQuoteMark m = true) (view : ∀ {s s'}, Q s s' → Inside m Q R z s s') (rel : Q s s')
    (read : (quoted m s).2 = z) : ∃ z', quoted m s' = ((quoted m s).1,z') ∧ (R z z' ∨ ((quoted m s).1.whole = false ∧ Q z z')) := by
  induction size : s.length using Nat.strongRecOn generalizing s s' with
  | ind size ih =>
    cases view rel with
    | done more => rw [quoted] at read ⊢; exact ⟨_,rfl,.inl (read ▸ more)⟩
    | lone more => rw [quoted] at read ⊢; exact ⟨_,rfl,.inl (read ▸ more)⟩
    | @close t t' more =>
      have escape : m ≠ '\\' := by rintro rfl; cases mark
      rw [quoted_plain m escape,if_pos rfl] at read ⊢
      rw [quoted_plain m escape,if_pos rfl]
      exact ⟨_,rfl,.inl (read ▸ more)⟩
    | @stuck t t' left =>
      have other : ' ' ≠ m := by rintro rfl; cases mark
      rw [quoted_plain m (by decide),if_neg other,if_neg (by decide)] at read
      exact absurd (read ▸ quoted_suffix m t) left
    | @char c t t' other plain more =>
      rw [quoted_plain m plain,if_neg other] at read ⊢
      rw [quoted_plain m plain,if_neg other]
      split
      · rename_i ends
        rw [if_pos ends] at read
        exact ⟨_,rfl,.inr ⟨rfl,read ▸ rel⟩⟩
      · rename_i inside
        rw [if_neg inside] at read
        obtain ⟨z',same,rest⟩ := ih t.length (by simp [← size]) more read rfl
        exact ⟨z',by rw [same]; rfl,rest⟩
    | @escape c t t' more =>
      by_cases both : c = '\r' ∧ ∃ u, t = '\n' :: u
      · obtain ⟨rfl,u,rfl⟩ := both
        cases view more with
        | close => cases mark
        | char _ _ rest =>
          have enter : ∀ s, quoted m ('\\' :: '\r' :: '\n' :: s) = quoted m s := fun s => by rw [quoted]
          rw [enter] at read ⊢
          rw [enter]
          exact ih u.length (by simp only [List.length_cons] at size; omega) rest read rfl
      · have apart : c = '\r' → ∀ u, t ≠ '\n' :: u := fun carriage u feed => both ⟨carriage,u,feed⟩
        have apart' : c = '\r' → ∀ u, t' ≠ '\n' :: u := by
          rintro carriage u rfl
          generalize whole : t = s at more
          cases view more with
          | close => cases mark
          | char => exact apart carriage _ whole
        rw [quoted_escape m apart] at read ⊢
        rw [quoted_escape m apart']
        split
        · rename_i ends
          rw [if_pos ends] at read
          exact ih t.length (by simp only [List.length_cons] at size; omega) more read rfl
        · rename_i inside
          rw [if_neg inside,Quoted.push_rest] at read
          obtain ⟨value,rest⟩ := inside_escape mark view more (c := c) (read ▸ quoted_suffix m _)
          have shorter := (escape_suffix (c :: t)).length_le
          obtain ⟨z',same,rest⟩ := ih _ (by simp only [List.length_cons] at size shorter; omega) rest read rfl
          exact ⟨z',by rw [value,Quoted.push,same]; rfl,rest⟩

end Inside
end Scan
end StyleTrim.Css
