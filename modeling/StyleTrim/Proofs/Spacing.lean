import StyleTrim.Proofs.Ink
namespace StyleTrim.Css
open Text

-- Two texts that differ in their blanks only, read side by side: where a scanner takes a word of the
-- one it takes the same word of the other, as long as it ends where words end.

namespace Scan

def isSolid (c : Char) : Bool := !(isBlank c || isQuoteMark c || c = '!' || c = '\\')

theorem solid_of {p : Char → Bool} (blanks : ∀ c, isBlank c = true → p c = false) (marks : ['"','\'','!','\\'].any p = false)
    (c : Char) (holds : p c = true) : isSolid c = true := by
  cases solid : isSolid c with
  | true => rfl
  | false =>
    have out : p c = false := by
      simp only [isSolid,isQuoteMark,Bool.not_eq_false',Bool.or_eq_true,decide_eq_true_eq] at solid
      rcases solid with ((blank | rfl | rfl) | rfl) | rfl
      · exact blanks c blank
      all_goals exact Bool.eq_false_iff.mpr (List.any_eq_false.mp marks _ (by decide))
    rw [out] at holds
    cases holds

theorem blank_outside {c : Char} (blank : isBlank c = true) : c.val.toNat ≤ 32 ∨ 133 ≤ c.val.toNat := by
  simp only [isBlank,Bool.or_eq_true,Bool.and_eq_true,decide_eq_true_eq,UInt32.le_iff_toNat_le,← UInt32.toNat_inj,
    UInt32.reduceToNat] at blank
  omega

theorem hexDigit_inside {c : Char} (digit : isHexDigit c = true) : 48 ≤ c.val.toNat ∧ c.val.toNat ≤ 102 := by
  simp only [isHexDigit,hexValue?,isDigit,Bool.and_eq_true,decide_eq_true_eq,UInt32.le_iff_toNat_le] at digit
  simp only [Char.reduceVal,UInt32.reduceToNat] at digit
  split at digit
  · omega
  · split at digit
    · omega
    · split at digit
      · omega
      · cases digit

theorem hexDigit_solid : ∀ c, isHexDigit c = true → isSolid c = true := by
  refine solid_of (fun c blank => ?_) (by decide)
  cases digit : isHexDigit c with
  | false => rfl
  | true => have := blank_outside blank; have := hexDigit_inside digit; omega

theorem digit_hexDigit {c : Char} (digit : isDigit c = true) : isHexDigit c = true := by
  rw [isHexDigit,hexValue?,if_pos digit]
  rfl

theorem digit_solid (c : Char) (digit : isDigit c = true) : isSolid c = true := hexDigit_solid c (digit_hexDigit digit)

theorem ascii_nameChar {c : Char} (blank : isAsciiBlank c = true) : isNameChar c = false := by
  simp only [isAsciiBlank,Bool.or_eq_true,decide_eq_true_eq] at blank
  rcases blank with (((rfl | rfl) | rfl) | rfl) | rfl <;> rfl

theorem quote_cases {c : Char} (mark : isQuoteMark c = true) : c = '"' ∨ c = '\'' := by
  simpa [isQuoteMark] using mark

theorem quote_nameChar {c : Char} (mark : isQuoteMark c = true) : isNameChar c = false := by
  rcases quote_cases mark with rfl | rfl <;> rfl

theorem quote_dark {c : Char} (mark : isQuoteMark c = true) : isBlank c = false := by
  rcases quote_cases mark with rfl | rfl <;> rfl

-- Whether a text goes on with such a character.
def begins (p : Char → Bool) (s : Text) : Bool := s.head?.any p
@[simp] theorem begins_nil (p : Char → Bool) : begins p [] = false := rfl
@[simp] theorem begins_cons (p : Char → Bool) (c : Char) (s : Text) : begins p (c :: s) = p c := rfl

-- Where every name and number is over: a blank, the end of the text, or the mark of `!important`.
def Shut (s : Text) : Prop := s = [] ∨ (∃ c t, s = c :: t ∧ isAsciiBlank c = true) ∨ ∃ t, s = '!' :: 'i' :: t

-- How two texts may go on, where the lexeme that is read of the first one ends at `z`.
inductive View (R : Text → Text → Prop) (z : Text) : Text → Text → Prop
  | done : View R z [] []
  | char {c : Char} {s s' : Text} (plain : c ≠ '\\') (more : R s s') : View R z (c :: s) (c :: s')
  | escape {c : Char} {s s' : Text} (more : R s s') : View R z ('\\' :: c :: s) ('\\' :: c :: s')
  | lone (more : R [] []) : View R z ['\\'] ['\\']
  | quote {c : Char} {s s' : Text} (mark : isQuoteMark c = true) (left : ¬ z <:+ s) : View R z (c :: s) (c :: s')
  | gap {c : Char} {s s' : Text} (blank : isBlank c = true) (ascii : z <:+ c :: s → isAsciiBlank c = true) (shut : Shut s') :
      View R z (c :: s) s'

-- A relation of texts, for each end of a lexeme, that scanners can follow. The blank behind an escape
-- is taken with it, unless another one comes behind it.
structure Tracks (R : Text → Text → Text → Prop) : Prop where
  view {z s s' : Text} : R z s s' → View (R z) z s s'
  eat {z s s' : Text} : R z s s' → z <:+ oneBlank s → R z (oneBlank s) (oneBlank s') ∨
    (z ≠ oneBlank s ∧ begins isAsciiBlank (oneBlank s) = true)
  skip {z s s' : Text} : R z s s' → z <:+ s.dropWhile isAsciiBlank ∨ Dark (s.dropWhile isAsciiBlank) →
    R z (s.dropWhile isAsciiBlank) (s'.dropWhile isAsciiBlank)

variable {R : Text → Text → Text → Prop} {c d : Char} {s s' t t' z b n : Text} {p : Char → Bool} {α : Type}

-- The same result, with related texts left.
def Agree (R : Text → Text → Prop) (a b : Step α) : Prop := b.1 = a.1 ∧ R a.2 b.2

theorem Agree.pair {x : α} (more : R z s s') : Agree (R z) (x,s) (x,s') := ⟨rfl,more⟩
theorem Agree.map {a b : Step α} {β : Type} (f : α → β) (agree : Agree (R z) a b) : Agree (R z) (f a.1,a.2) (f b.1,b.2) :=
  ⟨congrArg f agree.1,agree.2⟩

theorem Shut.begins (shut : Shut s) (solid : ∀ c, p c = true → isSolid c = true) : Scan.begins p s = false := by
  have out : ∀ c, isSolid c = false → p c = false := by
    intro c other
    cases holds : p c with
    | false => rfl
    | true => rw [solid c holds] at other; cases other
  rcases shut with rfl | ⟨c,t,rfl,blank⟩ | ⟨t,rfl⟩
  · rfl
  · exact out c (by simp [isSolid,blank_of_ascii blank])
  · exact out '!' (by decide)

theorem shut_of_blank (blank : Scan.begins isAsciiBlank s = true) : Shut s := by
  cases s with
  | nil => exact .inl rfl
  | cons c t => exact .inr (.inl ⟨c,t,rfl,blank⟩)

theorem Shut.name (shut : Shut s) : Scan.name s = ([],s) := by
  rcases shut with rfl | ⟨c,t,rfl,blank⟩ | ⟨t,rfl⟩
  · rw [Scan.name]
  · have escape : c ≠ '\\' := by rintro rfl; cases blank
    rw [Scan.name,if_neg escape,if_neg (by rw [ascii_nameChar blank]; exact Bool.false_ne_true)]
  · rw [Scan.name,if_neg (by decide),if_neg (by decide)]

-- The character behind a hyphen that begins a name.
def isSecond (c : Char) : Bool := isNameStart c || c = '-' || c = '\\'

theorem startsName_minus (s : Text) : startsName ('-' :: s) = begins isSecond s := by cases s <;> rfl

theorem startsName_plain (minus : c ≠ '-') (escape : c ≠ '\\') (s : Text) : startsName (c :: s) = isNameStart c := by
  simp [startsName,minus]

theorem ascii_second (blank : isAsciiBlank c = true) : isSecond c = false := by
  simp only [isAsciiBlank,Bool.or_eq_true,decide_eq_true_eq] at blank
  rcases blank with (((rfl | rfl) | rfl) | rfl) | rfl <;> rfl

theorem second_start (second : isSecond c = false) : isNameStart c = false := by
  simp only [isSecond,Bool.or_eq_false_iff] at second
  exact second.1.1

theorem Shut.second (shut : Shut s) : Scan.begins isSecond s = false := by
  rcases shut with rfl | ⟨c,t,rfl,blank⟩ | ⟨t,rfl⟩
  · rfl
  · exact ascii_second blank
  · rfl

theorem Shut.startsName (shut : Shut s) : Scan.startsName s = false := by
  rcases shut with rfl | ⟨c,t,rfl,blank⟩ | ⟨t,rfl⟩
  · rfl
  · rw [startsName_plain (by rintro rfl; cases blank) (by rintro rfl; cases blank)]
    exact second_start (ascii_second blank)
  · rfl

theorem hexDigits_other (no : Scan.begins isHexDigit s = false) (k : Nat) : hexDigits k s = ([],s) := by
  cases k with
  | zero => rw [hexDigits]
  | succ k =>
    cases s with
    | nil => rfl
    | cons c t => rw [hexDigits,Option.isNone_iff_eq_none.mp (Option.isSome_eq_false_iff.mp no)]

namespace Tracks

-- Both texts go on with the same solid character, or none of them does.
theorem look (tracks : Tracks R) (rel : R z s s') (solid : ∀ c, p c = true → isSolid c = true) :
    (∃ c t t', s = c :: t ∧ s' = c :: t' ∧ p c = true ∧ R z t t') ∨ (begins p s = false ∧ begins p s' = false) := by
  have out : ∀ c, isSolid c = false → p c = false := by
    intro c other
    cases holds : p c with
    | false => rfl
    | true => rw [solid c holds] at other; cases other
  cases tracks.view rel with
  | done => exact .inr ⟨rfl,rfl⟩
  | @char c t t' plain more =>
    cases holds : p c with
    | true => exact .inl ⟨c,t,t',rfl,rfl,holds,more⟩
    | false => exact .inr ⟨holds,holds⟩
  | escape => exact .inr ⟨out _ (by decide),out _ (by decide)⟩
  | lone => exact .inr ⟨out _ (by decide),out _ (by decide)⟩
  | quote mark => exact .inr ⟨out _ (by simp [isSolid,mark]),out _ (by simp [isSolid,mark])⟩
  | gap blank _ shut => exact .inr ⟨out _ (by simp [isSolid,blank]),shut.begins solid⟩

-- The same for one certain character.
theorem meet (tracks : Tracks R) (rel : R z s s') (solid : isSolid c = true) :
    (∃ t t', s = c :: t ∧ s' = c :: t' ∧ R z t t') ∨ ((∀ t, s ≠ c :: t) ∧ ∀ t, s' ≠ c :: t) := by
  have self : ∀ d, (d == c) = true → isSolid d = true := by
    intro d same
    rwa [eq_of_beq same]
  rcases tracks.look rel self with ⟨d,t,t',rfl,rfl,same,more⟩ | ⟨no,no'⟩
  · cases eq_of_beq same
    exact .inl ⟨t,t',rfl,rfl,more⟩
  · have apart : ∀ s : Text, begins (· == c) s = false → ∀ t, s ≠ c :: t := by
      rintro _ no t rfl
      simp at no
    exact .inr ⟨apart s no,apart s' no'⟩

theorem nil (tracks : Tracks R) (rel : R z [] s') : s' = [] := by
  cases tracks.view rel
  rfl

theorem hexDigits (tracks : Tracks R) (rel : R z s s') (n : Nat) : Agree (R z) (Scan.hexDigits n s) (Scan.hexDigits n s') := by
  induction n generalizing s s' with
  | zero => rw [Scan.hexDigits,Scan.hexDigits]; exact .pair rel
  | succ n ih =>
    rcases tracks.look rel hexDigit_solid with ⟨c,t,t',rfl,rfl,digit,more⟩ | ⟨no,no'⟩
    · obtain ⟨v,value⟩ := Option.isSome_iff_exists.mp digit
      obtain ⟨same,rest⟩ := ih more
      rw [Scan.hexDigits,Scan.hexDigits,value]
      exact ⟨congrArg (v :: ·) same,rest⟩
    · rw [hexDigits_other no,hexDigits_other no']
      exact .pair rel

-- An escape means the same in both texts; only blanks behind it may part them.
theorem escape (tracks : Tracks R) (more : R z s s') (left : z <:+ (Scan.escape (c :: s)).2) :
    (Scan.escape (c :: s')).1 = (Scan.escape (c :: s)).1 ∧
      (R z (Scan.escape (c :: s)).2 (Scan.escape (c :: s')).2 ∨
        ∃ q q', R z q q' ∧ (Scan.escape (c :: s)).2 = oneBlank q ∧ (Scan.escape (c :: s')).2 = oneBlank q' ∧
          z ≠ oneBlank q ∧ begins isAsciiBlank (oneBlank q) = true) := by
  rw [Scan.escape] at left ⊢
  rw [Scan.escape]
  cases value : hexValue? c with
  | none => exact ⟨rfl,.inl more⟩
  | some v =>
    obtain ⟨same,rest⟩ := tracks.hexDigits more 5
    rw [value] at left
    dsimp only at left ⊢
    rw [same]
    refine ⟨rfl,?_⟩
    rcases tracks.eat rest left with eaten | ⟨apart,blank⟩
    · exact .inl eaten
    · exact .inr ⟨_,_,rest,rfl,rfl,apart,blank⟩

-- A name reaches to the end of its lexeme, or to a parenthesis inside of it.
theorem name (tracks : Tracks R) (rel : R z s s') (left : z <:+ (Scan.name s).2)
    (ends : begins isAsciiBlank (Scan.name s).2 = true → (Scan.name s).2 = z) : Agree (R z) (Scan.name s) (Scan.name s') := by
  induction size : s.length using Nat.strongRecOn generalizing s s' with
  | ind size ih =>
    cases tracks.view rel with
    | done => rw [Scan.name]; exact .pair rel
    | @char c t t' plain more =>
      rw [Scan.name,if_neg plain] at left ends ⊢
      rw [Scan.name,if_neg plain]
      cases part : isNameChar c with
      | true =>
        simp only [part,↓reduceIte,Step.push_rest] at left ends ⊢
        obtain ⟨same,rest⟩ := ih t.length (by simp [← size]) more left ends rfl
        exact ⟨congrArg (meant c :: ·) same,rest⟩
      | false => exact .pair rel
    | @escape c t t' more =>
      rw [Scan.name,if_pos rfl] at left ends ⊢
      rw [Scan.name,if_pos rfl]
      cases newline : isNewline c with
      | true => simp only [startsNewline,newline,↓reduceIte]; exact .pair rel
      | false =>
        simp only [startsNewline,newline,Bool.false_eq_true,↓reduceIte,Step.push_rest] at left ends ⊢
        obtain ⟨value,rest⟩ := tracks.escape more (c := c) (left.trans (name_suffix _))
        have shorter := (escape_suffix (c :: t)).length_le
        rcases rest with rest | ⟨q,q',_,behind,_,apart,blank⟩
        · obtain ⟨same,rest⟩ := ih _ (by simp only [List.length_cons] at size shorter; omega) rest left ends rfl
          refine ⟨?_,rest⟩
          show (Scan.escape (c :: t')).1 :: _ = (Scan.escape (c :: t)).1 :: _
          rw [value,same]
        · rw [behind,(shut_of_blank blank).name] at ends
          exact absurd (ends blank).symm apart
    | lone more =>
      rw [Scan.name,if_pos rfl]
      simp only [startsNewline,Bool.false_eq_true,↓reduceIte,Scan.escape,Scan.name]
      exact .pair more
    | @quote c t t' mark =>
      have stop : ∀ t, Scan.name (c :: t) = ([],c :: t) := by
        intro t
        rw [Scan.name,if_neg (by rintro rfl; cases mark),if_neg (by rw [quote_nameChar mark]; exact Bool.false_ne_true)]
      rw [stop,stop]
      exact .pair rel
    | @gap c t _ _ ascii shut =>
      have blank := ascii (left.trans (name_suffix (c :: t)))
      rw [shut.name,(shut_of_blank (s := c :: t) blank).name]
      exact .pair rel

theorem name_whole (tracks : Tracks R) (rel : R z s s') (read : (Scan.name s).2 = z) : Agree (R z) (Scan.name s) (Scan.name s') :=
  tracks.name rel (read ▸ List.suffix_rfl) fun _ => read

-- Where a name begins it is also read, up to the end of the lexeme.
theorem startsName (tracks : Tracks R) (rel : R z s s') (read : Scan.startsName s = true → z <:+ (Scan.name s).2) :
    Scan.startsName s' = Scan.startsName s := by
  cases tracks.view rel with
  | done | escape | lone => rfl
  | @char c t t' plain more =>
    by_cases minus : c = '-'
    · subst minus
      rw [startsName_minus] at read ⊢
      rw [startsName_minus]
      cases tracks.view more with
      | done | char | escape | lone | quote => rfl
      | @gap e u _ _ ascii shut =>
        rw [shut.second,begins_cons]
        cases second : isSecond e with
        | false => rfl
        | true =>
          have taken : z <:+ e :: u := by
            have left := read second
            rw [Scan.name,if_neg (by decide),if_pos (by decide)] at left
            exact left.trans (name_suffix (e :: u))
          rw [ascii_second (ascii taken)] at second
          cases second
    · rw [startsName_plain minus plain,startsName_plain minus plain]
  | @quote c t t' mark =>
    have minus : c ≠ '-' := by rintro rfl; cases mark
    have escape : c ≠ '\\' := by rintro rfl; cases mark
    rw [startsName_plain minus escape,startsName_plain minus escape]
  | @gap c t _ blank ascii shut =>
    rw [shut.startsName]
    cases start : Scan.startsName (c :: t) with
    | false => rfl
    | true =>
      have closed := shut_of_blank (s := c :: t) (ascii ((read start).trans (name_suffix _)))
      rw [closed.startsName] at start
      cases start

theorem afterDigits (tracks : Tracks R) (rel : R z s s') :
    R z (Scan.afterDigits s) (Scan.afterDigits s') ∧ s'.takeWhile isDigit = s.takeWhile isDigit := by
  unfold Scan.afterDigits
  induction s generalizing s' with
  | nil =>
    cases tracks.nil rel
    exact ⟨rel,rfl⟩
  | cons c t ih =>
    rcases tracks.look rel digit_solid with ⟨d,u,u',same,rfl,digit,more⟩ | ⟨no,no'⟩
    · cases same
      rw [List.dropWhile_cons_of_pos digit,List.dropWhile_cons_of_pos digit,List.takeWhile_cons_of_pos digit,
        List.takeWhile_cons_of_pos digit]
      exact ⟨(ih more).1,congrArg (c :: ·) (ih more).2⟩
    · have stop : ∀ s : Text, begins isDigit s = false → s.dropWhile isDigit = s ∧ s.takeWhile isDigit = [] := by
        intro s no
        cases s with
        | nil => exact ⟨rfl,rfl⟩
        | cons c t => simp only [begins_cons] at no; simp [no]
      rw [(stop _ no).1,(stop _ no').1,(stop _ no).2,(stop _ no').2]
      exact ⟨rel,rfl⟩

end Tracks

def isSign (c : Char) : Bool := c = '+' || c = '-'
def isExponent (c : Char) : Bool := c = 'e' || c = 'E'

theorem sign_solid (c : Char) (sign : isSign c = true) : isSolid c = true := by
  simp only [isSign,Bool.or_eq_true,decide_eq_true_eq] at sign
  rcases sign with rfl | rfl <;> decide

theorem exponent_solid (c : Char) (mark : isExponent c = true) : isSolid c = true := by
  simp only [isExponent,Bool.or_eq_true,decide_eq_true_eq] at mark
  rcases mark with rfl | rfl <;> decide

theorem sign?_none (no : begins isSign s = false) : sign? s = none := by
  cases s with
  | nil => rfl
  | cons c t =>
    simp only [begins_cons,isSign,Bool.or_eq_false_iff,decide_eq_false_iff_not] at no
    simp [sign?,no.1,no.2]

theorem fraction?_none (no : (∀ t, s ≠ '.' :: t) ∨ ∃ t, s = '.' :: t ∧ begins isDigit t = false) : fraction? s = none := by
  unfold fraction?
  split
  · rename_i c t
    rcases no with no | ⟨_,same,no⟩
    · exact absurd rfl (no _)
    · cases same
      rw [if_neg (by rw [show isDigit c = false from no]; exact Bool.false_ne_true)]
  · rfl

theorem exponent?_digit (mark : isExponent c = true) (digit : isDigit d = true) (s : Text) :
    exponent? (c :: d :: s) = some (afterDigits s) := by
  have letter : (c = 'e' || c = 'E') = true := mark
  cases s with
  | nil => simp only [exponent?,letter,digit]; rfl
  | cons e t =>
    simp only [exponent?,letter,digit]
    rfl

theorem exponent?_signed (mark : isExponent c = true) (sign : isSign d = true) (s : Text) : exponent? (c :: d :: s) =
    if begins isDigit s then some (afterDigits s) else none := by
  have letter : (c = 'e' || c = 'E') = true := mark
  have plain : isDigit d = false := by
    simp only [isSign,Bool.or_eq_true,decide_eq_true_eq] at sign
    rcases sign with rfl | rfl <;> rfl
  have signed : (d = '+' || d = '-') = true := sign
  cases s with
  | nil => simp only [exponent?,letter,plain]; rfl
  | cons e t =>
    simp only [exponent?,letter,plain,signed,begins_cons]
    by_cases digit : isDigit e = true <;> simp [afterDigits,digit]

theorem exponent?_none (no : begins isExponent s = false ∨
    ∃ c t, s = c :: t ∧ begins isDigit t = false ∧ begins isSign t = false) : exponent? s = none := by
  unfold exponent?
  split
  · rename_i e c d t
    rcases no with no | ⟨_,_,same,digit,sign⟩
    · rw [if_pos (by rw [show (e = 'e' || e = 'E') = false from no]; rfl)]
    · cases same
      simp only [begins_cons,isSign] at digit sign
      simp [digit,sign]
  · rename_i e c
    rcases no with no | ⟨_,_,same,digit,sign⟩
    · rw [if_neg (by rw [show (e = 'e' || e = 'E') = false from no]; exact Bool.false_ne_true)]
    · cases same
      simp only [begins_cons] at digit
      simp [digit]
  · rfl

-- The same text taken off the front of two others.
def SameFront (s s' t t' : Text) : Prop := ∃ f, s = f ++ t ∧ s' = f ++ t'

theorem SameFront.refl (s s' : Text) : SameFront s s' s s' := ⟨[],rfl,rfl⟩

theorem SameFront.cons (same : SameFront s s' t t') (c : Char) : SameFront (c :: s) (c :: s') t t' := by
  obtain ⟨f,rfl,rfl⟩ := same
  exact ⟨c :: f,rfl,rfl⟩

theorem SameFront.trans {u u' : Text} (one : SameFront s s' t t') (other : SameFront t t' u u') : SameFront s s' u u' := by
  obtain ⟨f,rfl,rfl⟩ := one
  obtain ⟨g,rfl,rfl⟩ := other
  exact ⟨f ++ g,(List.append_assoc ..).symm,(List.append_assoc ..).symm⟩

theorem SameFront.frontOf (same : SameFront s s' t t') : frontOf t' s' = frontOf t s := by
  obtain ⟨f,rfl,rfl⟩ := same
  rw [frontOf_front,frontOf_front]

-- Related texts behind the same front.
def Passed (R : Text → Text → Prop) (s s' t t' : Text) : Prop := R t t' ∧ SameFront s s' t t'

theorem Passed.cons {R : Text → Text → Prop} (passed : Passed R s s' t t') (c : Char) : Passed R (c :: s) (c :: s') t t' :=
  passed.imp_right (·.cons c)

namespace Tracks

theorem pastDigits (tracks : Tracks R) (rel : R z s s') : Passed (R z) s s' (Scan.afterDigits s) (Scan.afterDigits s') := by
  obtain ⟨more,same⟩ := tracks.afterDigits rel
  refine ⟨more,s.takeWhile isDigit,List.takeWhile_append_dropWhile.symm,?_⟩
  rw [← same]
  exact List.takeWhile_append_dropWhile.symm

theorem sign? (tracks : Tracks R) (rel : R z s s') :
    Scan.sign? s' = Scan.sign? s ∧ Passed (R z) s s' (afterSign s) (afterSign s') := by
  unfold afterSign
  rcases tracks.look rel sign_solid with ⟨c,t,t',rfl,rfl,sign,more⟩ | ⟨no,no'⟩
  · have passed : Passed (R z) (c :: t) (c :: t') t t' := .cons ⟨more,.refl _ _⟩ c
    simp only [isSign,Bool.or_eq_true,decide_eq_true_eq] at sign
    rcases sign with rfl | rfl <;> exact ⟨rfl,passed⟩
  · rw [sign?_none no,sign?_none no']
    exact ⟨rfl,rel,.refl _ _⟩

theorem fraction? (tracks : Tracks R) (rel : R z s s') : Option.Rel (Passed (R z) s s') (Scan.fraction? s) (Scan.fraction? s') := by
  rcases tracks.meet rel (c := '.') (by decide) with ⟨t,t',rfl,rfl,more⟩ | ⟨no,no'⟩
  · rcases tracks.look more digit_solid with ⟨d,u,u',rfl,rfl,digit,rest⟩ | ⟨no,no'⟩
    · simp only [Scan.fraction?,digit,↓reduceIte]
      exact .some (((tracks.pastDigits rest).cons d).cons '.')
    · rw [fraction?_none (.inr ⟨_,rfl,no⟩),fraction?_none (.inr ⟨_,rfl,no'⟩)]
      exact .none
  · rw [fraction?_none (.inl no),fraction?_none (.inl no')]
    exact .none

theorem exponent? (tracks : Tracks R) (rel : R z s s') : Option.Rel (Passed (R z) s s') (Scan.exponent? s) (Scan.exponent? s') := by
  rcases tracks.look rel exponent_solid with ⟨c,t,t',rfl,rfl,mark,more⟩ | ⟨no,no'⟩
  · rcases tracks.look more digit_solid with ⟨d,u,u',rfl,rfl,digit,rest⟩ | ⟨plain,plain'⟩
    · rw [exponent?_digit mark digit,exponent?_digit mark digit]
      exact .some (((tracks.pastDigits rest).cons d).cons c)
    · rcases tracks.look more sign_solid with ⟨d,u,u',rfl,rfl,sign,rest⟩ | ⟨no,no'⟩
      · rw [exponent?_signed mark sign,exponent?_signed mark sign]
        have passed := ((tracks.pastDigits rest).cons d).cons c
        rcases tracks.look rest digit_solid with ⟨e,v,v',rfl,rfl,digit,_⟩ | ⟨no,no'⟩
        · simp only [begins_cons,digit,↓reduceIte]
          exact .some passed
        · rw [no,no']
          exact .none
      · rw [exponent?_none (.inr ⟨_,_,rfl,plain,no⟩),exponent?_none (.inr ⟨_,_,rfl,plain',no'⟩)]
        exact .none
  · rw [exponent?_none (.inl no),exponent?_none (.inl no')]
    exact .none

-- What may be taken off the front, or nothing.
theorem getD {a b : Option Text} (rel : Option.Rel (Passed (R z) s s') a b) (more : R z s s') :
    Passed (R z) s s' (a.getD s) (b.getD s') := by
  cases rel with
  | some passed => exact passed
  | none => exact ⟨more,.refl _ _⟩

theorem isNone {a b : Option Text} (rel : Option.Rel (Passed (R z) s s') a b) : b.isNone = a.isNone := by
  cases rel <;> rfl

theorem number (tracks : Tracks R) (rel : R z s s') : numeral s' = numeral s ∧ R z (afterNumber s) (afterNumber s') := by
  obtain ⟨sign,unsigned,front⟩ := tracks.sign? rel
  have digits := (tracks.afterDigits unsigned).2
  obtain ⟨whole,inner⟩ := tracks.pastDigits unsigned
  have fraction := tracks.fraction? whole
  obtain ⟨broken,point⟩ := getD fraction whole
  have exponent := tracks.exponent? broken
  obtain ⟨beyond,mark⟩ := getD exponent broken
  refine ⟨?_,beyond⟩
  have fractions : (Scan.fraction? (afterWhole s')).isNone = (Scan.fraction? (afterWhole s)).isNone := isNone fraction
  have exponents : (Scan.exponent? (afterFraction s')).isNone = (Scan.exponent? (afterFraction s)).isNone := isNone exponent
  have size : wholePart s' = wholePart s := digits
  have written : frontOf (afterNumber s') s' = frontOf (afterNumber s) s :=
    SameFront.frontOf (front.trans (inner.trans (point.trans mark)))
  simp only [numeral,written,sign,size,fractions,exponents]

theorem numeric (tracks : Tracks R) (rel : R z s s') (read : (Scan.numeric s).2 = z) :
    Agree (R z) (Scan.numeric s) (Scan.numeric s') := by
  obtain ⟨value,rest⟩ := tracks.number rel
  rcases tracks.meet rest (c := '%') (by decide) with ⟨t,t',same,same',more⟩ | ⟨no,no'⟩
  · unfold Scan.numeric
    rw [same,same',value]
    exact .pair more
  · rw [numeric_plain rfl no] at read ⊢
    rw [numeric_plain rfl no',value]
    have unit : Scan.startsName (afterNumber s) = true → (Scan.name (afterNumber s)).2 = z := by
      intro named
      rwa [if_pos named] at read
    rw [tracks.startsName rest fun named => unit named ▸ List.suffix_rfl]
    split
    · rename_i named
      exact (tracks.name_whole rest (unit named)).map _
    · exact .pair rest

theorem startsNumber (tracks : Tracks R) (rel : R z s s') : Scan.startsNumber s' = Scan.startsNumber s := by
  have plain : ∀ s : Text, (∀ t, s ≠ '.' :: t) → Scan.startsNumber s = begins isDigit s := by
    intro s no
    unfold Scan.startsNumber
    split
    · exact absurd rfl (no _)
    · rfl
    · rfl
  rcases tracks.meet rel (c := '.') (by decide) with ⟨t,t',rfl,rfl,more⟩ | ⟨no,no'⟩
  · have point : ∀ t : Text, Scan.startsNumber ('.' :: t) = begins isDigit t := by intro t; cases t <;> rfl
    rw [point,point]
    rcases tracks.look more digit_solid with ⟨d,u,u',rfl,rfl,_,_⟩ | ⟨no,no'⟩
    · rfl
    · rw [no,no']
  · rw [plain s no,plain s' no']
    rcases tracks.look rel digit_solid with ⟨d,u,u',rfl,rfl,_,_⟩ | ⟨no,no'⟩
    · rfl
    · rw [no,no']

end Tracks

end Scan
end StyleTrim.Css
