import StyleTrim.Css.Reader
namespace StyleTrim.Css
open Text Component
variable {c : Component} {cs inner after : List Component} {outer : List Open} {l : Lexeme} {ls : List Lexeme} {finish other : Place}
  {stop : Component → Bool} {first : Component} {veryFirst : Bool} {rest : List Component} {e : Entry} {place : Place} {selector source : Text}

-- Places serve complaints only: what is read stays the same without them.

def Lexeme.bare (l : Lexeme) : Lexeme := {l with place := .start}

-- The lexemes of a text, wherever it stands.
def lexemes (s : Text) : List Lexeme := (lex s).map Lexeme.bare

theorem lexFrom_bare (p q : Place) (s : Text) : (lexFrom p s).map Lexeme.bare = (lexFrom q s).map Lexeme.bare := by
  fun_induction lexFrom p s generalizing q with
  | case1 => rw [lexFrom]
  | case2 p c s rest text ih =>
    rw [lexFrom,List.map_cons,List.map_cons,ih (q.after text)]
    rfl

theorem lexemes_nil : lexemes [] = [] := by rw [lexemes,lex,lexFrom,List.map_nil]

theorem lexemes_cons (c : Char) (s : Text) :
    lexemes (c :: s) = ⟨(Scan.token c s).1,c :: frontOf (Scan.token c s).2 s,.start⟩ :: lexemes (Scan.token c s).2 := by
  rw [lexemes,lex,lexFrom,List.map_cons]
  exact congrArg _ (lexFrom_bare _ _ _)

theorem lexemes_text (s : Text) : ((lexemes s).map (·.text)).flatten = s := by
  rw [lexemes,List.map_map]
  exact lexFrom_text _ _

namespace Component

theorem gather_opening {b : Bracket} (opens : l.token.opens? = some b) :
    gather inner outer (l :: ls) = gather [] (⟨b,l,inner⟩ :: outer) ls := by
  rw [gather.eq_def]; simp only [opens]

theorem gather_closing {o : Open} (opens : l.token.opens? = none) (closes : l.token.closes? = some o.bracket) :
    gather inner (o :: outer) (l :: ls) = gather (.block o.bracket o.opening inner.reverse (some l) :: o.before) outer ls := by
  rw [gather.eq_def]; simp only [opens,closes,↓reduceIte]

theorem gather_leaf (opens : l.token.opens? = none)
    (stays : ∀ o rest, outer = o :: rest → l.token.closes? ≠ some o.bracket) :
    gather inner outer (l :: ls) = gather (.leaf l :: inner) outer ls := by
  rw [gather.eq_def]
  cases outer with
  | nil => simp only [opens]
  | cons o rest => simp only [opens,stays o rest rfl,↓reduceIte]

mutual
def bare : Component → Component
  | .leaf l => .leaf l.bare
  | .block bracket opening inside closing => .block bracket opening.bare (bares inside) (closing.map Lexeme.bare)
def bares : List Component → List Component
  | [] => []
  | c :: more => bare c :: bares more
end

@[simp] theorem bares_nil : bares [] = [] := by rw [bares]
@[simp] theorem bares_cons (c : Component) (more : List Component) : bares (c :: more) = c.bare :: bares more := by rw [bares]

theorem bares_map (cs : List Component) : bares cs = cs.map bare := by
  induction cs with
  | nil => exact bares_nil
  | cons c more ih => rw [bares_cons,ih,List.map_cons]

theorem bares_reverse (cs : List Component) : bares cs.reverse = (bares cs).reverse := by
  simp only [bares_map,List.map_reverse]

mutual
theorem bare_text : ∀ c : Component, c.bare.text = c.text
  | .leaf l => by rw [bare]; rfl
  | .block bracket opening inside closing => by
    simp only [bare,Component.text,bares_texts inside]
    cases closing <;> rfl
@[simp] theorem bares_texts : ∀ cs : List Component, texts (bares cs) = texts cs
  | [] => by rw [bares_nil]
  | c :: more => by rw [bares_cons,texts,texts,bare_text c,bares_texts more]
end

@[simp] theorem bare_isLeaf (t : Token) (c : Component) : c.bare.isLeaf t = c.isLeaf t := by
  cases c <;> rw [bare] <;> rfl
@[simp] theorem bare_isSpacing (c : Component) : c.bare.isSpacing = c.isSpacing := by cases c <;> rw [bare] <;> rfl
@[simp] theorem bare_isCurly (c : Component) : c.bare.isCurly = c.isCurly := by
  cases c with
  | leaf => rw [bare]; rfl
  | block bracket => cases bracket <;> rw [bare] <;> rfl

def Open.bare (o : Open) : Open := ⟨o.bracket,o.opening.bare,bares o.before⟩

theorem closeAll_bare (inner : List Component) (outer : List Open) :
    closeAll (bares inner) (outer.map Open.bare) = bares (closeAll inner outer) := by
  induction outer generalizing inner with
  | nil => rw [closeAll,List.map_nil,closeAll,bares_reverse]
  | cons o outer ih =>
    rw [List.map_cons,closeAll,closeAll,← ih,bares_cons,Component.bare,bares_reverse]
    rfl

theorem gather_bare (inner : List Component) (outer : List Open) (ls : List Lexeme) :
    gather (bares inner) (outer.map Open.bare) (ls.map Lexeme.bare) = bares (gather inner outer ls) := by
  induction ls generalizing inner outer with
  | nil => exact closeAll_bare inner outer
  | cons l more ih =>
    cases opens : l.token.opens? with
    | some bracket =>
      rw [gather_opening opens,← ih,bares_nil,List.map_cons,List.map_cons]
      exact gather_opening opens
    | none =>
      by_cases closes : ∃ o rest, outer = o :: rest ∧ l.token.closes? = some o.bracket
      · obtain ⟨o,rest,rfl,fits⟩ := closes
        rw [gather_closing opens fits,← ih,bares_cons,Component.bare,bares_reverse,List.map_cons,List.map_cons]
        exact gather_closing (o := o.bare) opens fits
      · have stays : ∀ o rest, outer = o :: rest → l.token.closes? ≠ some o.bracket :=
          fun o rest same fits => closes ⟨o,rest,same,fits⟩
        rw [gather_leaf opens stays,← ih,bares_cons,Component.bare,List.map_cons]
        refine gather_leaf opens fun o rest same => ?_
        cases outer with
        | nil => cases same
        | cons first later => cases same; exact stays first later rfl

end Component

-- The components of a text, wherever it stands.
def components (s : Text) : List Component := ofLexemes (lexemes s)

theorem components_bares (s : Text) : bares (ofText s) = components s := by
  rw [components,ofLexemes,lexemes,← bares_nil,← List.map_nil (f := Open.bare),gather_bare]
  rfl

namespace Read

@[simp] theorem bare_isSemicolon (c : Component) : isSemicolon c.bare = isSemicolon c := bare_isLeaf .semicolon c
@[simp] theorem bare_endsHead (c : Component) : endsHead c.bare = endsHead c := by simp [endsHead]
@[simp] theorem bare_isBetween (c : Component) : isBetween c.bare = isBetween c := by simp [isBetween]
@[simp] theorem bare_isCharset (c : Component) : isCharset c.bare = isCharset c := by
  cases c with
  | block => rw [bare]; rfl
  | leaf l =>
    obtain ⟨token,text,place⟩ := l
    rw [bare]
    cases token <;> rfl

theorem bares_takeWhile {p : Component → Bool} (same : ∀ c : Component, p c.bare = p c) (cs : List Component) :
    (bares cs).takeWhile p = bares (cs.takeWhile p) := by
  rw [bares_map,bares_map,List.takeWhile_map]
  exact congrArg (fun q => (cs.takeWhile q).map bare) (funext same)

theorem bares_dropWhile {p : Component → Bool} (same : ∀ c : Component, p c.bare = p c) (cs : List Component) :
    (bares cs).dropWhile p = bares (cs.dropWhile p) := by
  rw [bares_map,bares_map,List.dropWhile_map]
  exact congrArg (fun q => (cs.dropWhile q).map bare) (funext same)

theorem bares_front (same : ∀ c : Component, stop c.bare = stop c) (cs : List Component) :
    front stop (bares cs) = bares (front stop cs) := bares_takeWhile (fun c => by rw [same]) cs

theorem bares_back (same : ∀ c : Component, stop c.bare = stop c) (cs : List Component) :
    back stop (bares cs) = bares (back stop cs) := bares_dropWhile (fun c => by rw [same]) cs

theorem bares_skipSpacing (cs : List Component) : skipSpacing (bares cs) = bares (skipSpacing cs) :=
  bares_dropWhile bare_isSpacing cs

theorem bares_drop (n : Nat) (cs : List Component) : (bares cs).drop n = bares (cs.drop n) := by
  simp only [bares_map,List.map_drop]

def Attempt.bare : Attempt → Attempt
  | .entry e => .entry e
  | .failed _ source => .failed .start source

theorem nestedRule_bare (finish other : Place) (cs : List Component) :
    (nestedRule finish (bares cs)).1.bare = (nestedRule other cs).1.bare ∧
      (nestedRule finish (bares cs)).2 = bares (nestedRule other cs).2 := by
  unfold nestedRule
  rw [bares_back bare_endsHead,bares_front bare_endsHead]
  cases back endsHead cs with
  | nil => simp [Attempt.bare]
  | cons stop after =>
    cases stop with
    | leaf l => simp [bare,Attempt.bare]; rfl
    | block => simp [bare,verbatimBlock]

theorem nestedAtRule_bare (name : Text) (cs : List Component) :
    (nestedAtRule name (bares cs)).1 = (nestedAtRule name cs).1 ∧
      (nestedAtRule name (bares cs)).2 = bares (nestedAtRule name cs).2 := by
  unfold nestedAtRule
  rw [bares_back bare_endsHead,bares_front bare_endsHead]
  cases back endsHead cs with
  | nil => simp
  | cons stop after => cases stop <;> simp [bare,verbatimBlock]

theorem blame_bare (finish other : Place) (first : Component) (rest : List Component) (place elsewhere : Place) :
    (named.blame finish first.bare (bares rest) place).1.bare = (named.blame other first rest elsewhere).1.bare ∧
      (named.blame finish first.bare (bares rest) place).2 = bares (named.blame other first rest elsewhere).2 := by
  have whole := nestedRule_bare finish other (first :: rest)
  rw [bares_cons] at whole
  unfold named.blame
  generalize nestedRule finish (first.bare :: bares rest) = one at whole ⊢
  generalize nestedRule other (first :: rest) = two at whole ⊢
  obtain ⟨one,behind⟩ := one
  obtain ⟨two,after⟩ := two
  cases one <;> cases two <;> simp_all [Attempt.bare]

theorem named_bare (finish other : Place) (name : Text) (first : Component) (rest : List Component) :
    (named finish name first.bare (bares rest)).1.bare = (named other name first rest).1.bare ∧
      (named finish name first.bare (bares rest)).2 = bares (named other name first rest).2 := by
  unfold named
  rw [bares_skipSpacing]
  cases skipSpacing rest with
  | nil => exact blame_bare ..
  | cons next value =>
    simp only [bares_cons,bare_isLeaf,bare_isSemicolon]
    split
    · rw [bares_front bare_isSemicolon,bares_back bare_isSemicolon,bares_drop,declarationOf,declarationOf,bares_texts]
      exact ⟨rfl,rfl⟩
    · split <;> exact blame_bare ..

theorem attempt_bare (finish other : Place) (first : Component) (rest : List Component) :
    (attempt finish first.bare (bares rest)).1.bare = (attempt other first rest).1.bare ∧
      (attempt finish first.bare (bares rest)).2 = bares (attempt other first rest).2 := by
  have rule := nestedRule_bare finish other (first :: rest)
  rw [bares_cons] at rule
  cases first with
  | block => rw [bare] at rule ⊢; exact rule
  | leaf l =>
    have named := fun name => named_bare finish other name (.leaf l) rest
    rw [bare] at rule named ⊢
    obtain ⟨token,text,place⟩ := l
    cases token with
    | atKeyword name =>
      obtain ⟨same,after⟩ := nestedAtRule_bare name rest
      exact ⟨congrArg Attempt.bare (congrArg Attempt.entry same),after⟩
    | ident name => exact named name
    | _ => exact rule

theorem entries_skip (skipped : (first.isSpacing || isSemicolon first) = true) :
    entries selector finish (first :: rest) = entries selector finish rest := by
  rw [entries.eq_def]
  simp only [skipped,↓reduceIte]

theorem entries_entry (selector : Text) (shown : (first.isSpacing || isSemicolon first) = false)
    (read : (attempt finish first rest).1 = .entry e) : (entries selector finish (first :: rest)).1 =
      e :: (entries selector finish (attempt finish first rest).2).1 := by
  rw [entries.eq_def]
  simp only [shown,Bool.false_eq_true,↓reduceIte,read]

def keptText (source : Text) : Text := trimEnd isBlank (trimEnd (· = ';') (collapse source))

theorem entries_failed (selector : Text) (shown : (first.isSpacing || isSemicolon first) = false)
    (read : (attempt finish first rest).1 = .failed place source) : (entries selector finish (first :: rest)).1 =
      if (keptText source).isEmpty then (entries selector finish (attempt finish first rest).2).1
      else .verbatim (keptText source) :: (entries selector finish (attempt finish first rest).2).1 := by
  rw [entries.eq_def]
  cases blank : (keptText source).isEmpty with
  | true => rw [keptText] at blank; simp only [shown,read,blank]; rfl
  | false => rw [keptText] at blank; simp only [shown,read,blank]; rfl

theorem entries_bare (selector other : Text) (finish elsewhere : Place) (cs : List Component) :
    (entries other elsewhere (bares cs)).1 = (entries selector finish cs).1 := by
  induction size : cs.length using Nat.strongRecOn generalizing cs with
  | ind n ih =>
    cases cs with
    | nil => rw [bares_nil,entries,entries]
    | cons first rest =>
      rw [bares_cons]
      cases shown : first.isSpacing || isSemicolon first with
      | true =>
        rw [entries_skip shown,entries_skip (by simpa using shown)]
        exact ih _ (by simp [← size]) rest rfl
      | false =>
        have bareShown : (first.bare.isSpacing || isSemicolon first.bare) = false := by simpa using shown
        obtain ⟨same,after⟩ := attempt_bare elsewhere finish first rest
        have later := ih _ (by have := (attempt_suffix finish first rest).length_le; simp [← size]; omega)
          (attempt finish first rest).2 rfl
        cases read : (attempt finish first rest).1 with
        | entry e =>
          cases again : (attempt elsewhere first.bare (bares rest)).1 with
          | failed => rw [read,again] at same; cases same
          | entry d =>
            rw [read,again] at same
            cases same
            rw [entries_entry _ shown read,entries_entry _ bareShown again,after,later]
        | failed place source =>
          cases again : (attempt elsewhere first.bare (bares rest)).1 with
          | entry => rw [read,again] at same; cases same
          | failed there text =>
            rw [read,again] at same
            cases same
            rw [entries_failed _ shown read,entries_failed _ bareShown again,after,later]

-- The nodes that a shape gives: none or one.
def nodesOf : Shape → Sheet
  | .statement name params => [.statement name params]
  | .atBlock name params inside stop =>
    if isGroupName name then [.group name params (rules stop true inside).sheet]
    else [.block name params (collapse (texts inside))]
  | .styled selector inside stop => [.rule ⟨selector,(entries selector stop inside).1⟩]
  | .invalid .. => []

theorem rules_none (visible : cs.dropWhile isBetween = []) : (rules finish veryFirst cs).sheet = [] := by
  rw [rules.eq_def]
  split
  · rfl
  · rename_i same; rw [visible] at same; cases same

theorem rules_charset (visible : cs.dropWhile isBetween = c :: rest) (charset : isCharset c = true) :
    (rules finish true cs).sheet = (rules finish false ((back endsHead rest).drop 1)).sheet := by
  rw [rules.eq_def]
  split
  · rename_i same; rw [visible] at same; cases same
  · rename_i same
    rw [visible] at same
    cases same
    simp only [charset,Bool.and_self,↓reduceIte]

theorem rules_shape (visible : cs.dropWhile isBetween = c :: rest) (other : (veryFirst && isCharset c) = false) :
    (rules finish veryFirst cs).sheet =
      nodesOf (shape finish c rest).1 ++ (rules finish false (shape finish c rest).2).sheet := by
  rw [rules.eq_def]
  split
  · rename_i same; rw [visible] at same; cases same
  · rename_i same
    rw [visible] at same
    cases same
    simp only [other,Bool.false_eq_true,↓reduceIte]
    split
    · rename_i form; rw [form]; rfl
    · rename_i name params inside stop form
      rw [form,nodesOf]
      split <;> rfl
    · rename_i form; rw [form]; rfl
    · rename_i form; rw [form]; rfl

-- Shapes that differ in places only, the first without any inside.
inductive Shape.Like : Shape → Shape → Prop
  | statement (name params : Text) : Like (.statement name params) (.statement name params)
  | atBlock (name params : Text) (cs : List Component) (here there : Place) :
    Like (.atBlock name params (bares cs) here) (.atBlock name params cs there)
  | styled (selector : Text) (cs : List Component) (here there : Place) :
    Like (.styled selector (bares cs) here) (.styled selector cs there)
  | invalid (source : Text) (here there : Place) : Like (.invalid here source) (.invalid there source)

theorem atShape_bare (finish other : Place) (name : Text) (cs : List Component) :
    Shape.Like (atShape finish name (bares cs)).1 (atShape other name cs).1 ∧
      (atShape finish name (bares cs)).2 = bares (atShape other name cs).2 := by
  unfold atShape
  rw [bares_back bare_endsHead,bares_front bare_endsHead,bares_texts]
  cases back endsHead cs with
  | nil => rw [bares_nil]; exact ⟨.statement ..,bares_nil.symm⟩
  | cons stop after =>
    rw [bares_cons]
    cases stop with
    | leaf l => rw [bare]; exact ⟨.statement ..,rfl⟩
    | block => rw [bare]; exact ⟨.atBlock ..,rfl⟩

theorem styledShape_bare (finish other : Place) (cs : List Component) :
    Shape.Like (styledShape finish (bares cs)).1 (styledShape other cs).1 ∧
      (styledShape finish (bares cs)).2 = bares (styledShape other cs).2 := by
  unfold styledShape
  rw [bares_back bare_isCurly,bares_front bare_isCurly,bares_texts,bares_texts]
  cases back isCurly cs with
  | nil => rw [bares_nil]; exact ⟨.invalid ..,bares_nil.symm⟩
  | cons stop after =>
    rw [bares_cons]
    cases stop with
    | leaf l => rw [bare]; exact ⟨.invalid ..,bares_nil.symm⟩
    | block bracket opening inside closing =>
      rw [bare]
      dsimp only
      split
      · exact ⟨.invalid ..,rfl⟩
      · exact ⟨.styled ..,rfl⟩

theorem customProperty?_bare (c : Component) (cs : List Component) :
    customProperty? (c.bare :: bares cs) = (customProperty? (c :: cs)).map bares := by
  cases c with
  | block => rw [bare]; rfl
  | leaf l =>
    obtain ⟨token,text,place⟩ := l
    rw [bare,customProperty?,customProperty?,bares_skipSpacing,Lexeme.bare]
    cases token with
    | ident name =>
      cases skipSpacing cs with
      | nil => rfl
      | cons next value =>
        rw [bares_cons]
        dsimp only
        rw [bare_isLeaf]
        split <;> rfl
    | _ => rfl

theorem bares_length (cs : List Component) : (bares cs).length = cs.length := by
  rw [bares_map,List.length_map]

theorem bares_take (n : Nat) (cs : List Component) : (bares cs).take n = bares (cs.take n) := by
  simp only [bares_map,List.map_take]

theorem shape_bare (finish other : Place) (c : Component) (cs : List Component) :
    Shape.Like (shape finish c.bare (bares cs)).1 (shape other c cs).1 ∧
      (shape finish c.bare (bares cs)).2 = bares (shape other c cs).2 := by
  have styled := styledShape_bare finish other (c :: cs)
  rw [bares_cons] at styled
  unfold shape
  rw [customProperty?_bare]
  cases customProperty? (c :: cs) with
  | some value =>
    dsimp only [Option.map_some]
    rw [bares_back bare_isCurly,bares_drop,bares_length,bares_length,← bares_cons,bares_take,bares_texts]
    exact ⟨.invalid ..,rfl⟩
  | none =>
    dsimp only [Option.map_none]
    cases c with
    | block => rw [bare] at styled ⊢; exact styled
    | leaf l =>
      obtain ⟨token,text,place⟩ := l
      rw [bare,Lexeme.bare] at styled ⊢
      cases token with
      | atKeyword name => exact atShape_bare finish other name cs
      | _ => exact styled

theorem rules_bare (finish other : Place) (veryFirst : Bool) (cs : List Component) :
    (rules finish veryFirst (bares cs)).sheet = (rules other veryFirst cs).sheet := by
  induction size : weights cs using Nat.strongRecOn generalizing finish other veryFirst cs with
  | ind n ih =>
    have between : (bares cs).dropWhile isBetween = bares (cs.dropWhile isBetween) := bares_dropWhile bare_isBetween cs
    cases visible : cs.dropWhile isBetween with
    | nil => rw [rules_none visible,rules_none (by rw [between,visible,bares_nil])]
    | cons c rest =>
      rw [visible,bares_cons] at between
      have smaller := weights_suffix (visible ▸ List.dropWhile_suffix (l := cs) isBetween)
      have counted := weight_pos c
      simp only [weights] at smaller
      cases charset : veryFirst && isCharset c with
      | true =>
        obtain ⟨rfl,charset⟩ := Bool.and_eq_true_iff.mp charset
        rw [rules_charset visible charset,rules_charset between (by rwa [bare_isCharset]),bares_back bare_endsHead,bares_drop]
        have tail := weights_suffix ((List.drop_suffix 1 _).trans (back_suffix endsHead rest))
        exact ih _ (by omega) finish other false _ rfl
      | false =>
        rw [rules_shape visible charset,rules_shape between (by rwa [bare_isCharset])]
        obtain ⟨like,after⟩ := shape_bare finish other c rest
        have tail := weights_suffix (shape_suffix other c rest)
        rw [after,ih _ (by omega) finish other false _ rfl]
        refine congrArg (· ++ _) ?_
        have inner := shape_inside other c rest
        simp only [weights] at inner
        generalize (shape finish c.bare (bares rest)).1 = one at like ⊢
        generalize (shape other c rest).1 = two at like inner ⊢
        cases like with
        | statement | invalid => rfl
        | styled => rw [nodesOf,nodesOf,entries_bare]
        | atBlock name params inside here there =>
          simp only [Shape.inside] at inner
          rw [nodesOf,nodesOf,bares_texts,ih _ (by omega) here there true inside rfl]

theorem leadingCharset?_bare (cs : List Component) :
    leadingCharset? (bares cs) = (leadingCharset? cs).map fun found => (found.1,bares found.2) := by
  unfold leadingCharset?
  rw [bares_skipSpacing]
  cases skipSpacing cs with
  | nil => rw [bares_nil]; rfl
  | cons c rest =>
    rw [bares_cons]
    dsimp only
    rw [bare_isCharset,bares_front bare_isSemicolon,bares_back bare_isSemicolon,bares_drop,bares_texts]
    split <;> rfl

-- The sheet that components make up, wherever they stand.
def sheetFrom (cs : List Component) : Sheet :=
  match leadingCharset? cs with
  | some (params,rest) => .statement "charset" params :: (rules .start true rest).sheet
  | none => (rules .start true cs).sheet

end Read

theorem sheetOf_components (css : Text) : sheetOf css = Read.sheetFrom (components css) := by
  rw [← components_bares,Read.sheetFrom,Read.leadingCharset?_bare,sheetOf,read]
  dsimp only
  cases Read.leadingCharset? (ofText css) with
  | none => exact (Read.rules_bare ..).symm
  | some found => exact congrArg _ (Read.rules_bare ..).symm

end StyleTrim.Css
