import StyleTrim.Proofs.Pieces
namespace StyleTrim.Css.Read
open Text Component
variable {stop : Component → Bool} {c d e first : Component} {cs ds head rest more inside after : List Component}
  {finish place : Place} {selector name params : Text} {veryFirst : Bool} {l : Lexeme}

-- A reader that was stopped has not seen what comes behind.

theorem front_cut (free : ∀ c ∈ cs, stop c = false) (ends : stop d = true) (more : List Component) :
    front stop (cs ++ d :: more) = cs ∧ back stop (cs ++ d :: more) = d :: more := by
  unfold front back
  induction cs with
  | nil => simp [ends]
  | cons c cs ih =>
    have first := free c List.mem_cons_self
    have rest := ih fun e inside => free e (List.mem_cons_of_mem _ inside)
    simp [first,rest]

theorem front_free (free : ∀ c ∈ cs, stop c = false) : front stop cs = cs ∧ back stop cs = [] := by
  unfold front back
  induction cs with
  | nil => exact ⟨rfl,rfl⟩
  | cons c cs ih =>
    have first := free c List.mem_cons_self
    have rest := ih fun e inside => free e (List.mem_cons_of_mem _ inside)
    simp [first,rest]

-- Where a list is cut by the first component that satisfies `stop`, if it is.
theorem cut_cases (stop : Component → Bool) (cs : List Component) : (∀ c ∈ cs, stop c = false) ∨
    ∃ head d after, cs = head ++ d :: after ∧ (∀ c ∈ head, stop c = false) ∧ stop d = true := by
  induction cs with
  | nil => exact .inl nofun
  | cons c cs ih =>
    cases ends : stop c with
    | true => exact .inr ⟨[],c,cs,rfl,nofun,ends⟩
    | false =>
      rcases ih with free | ⟨head,d,after,rfl,free,stops⟩
      · exact .inl fun d inside => by
          rcases List.mem_cons.mp inside with rfl | inside
          · exact ends
          · exact free d inside
      · refine .inr ⟨c :: head,d,after,rfl,fun d inside => ?_,stops⟩
        rcases List.mem_cons.mp inside with rfl | inside
        · exact ends
        · exact free d inside

theorem semicolon_ends (semi : isSemicolon d = true) : endsHead d = true := by simp [endsHead,semi]

-- What is left for a reader that saw all of `rest`, or stopped before its end.
def Leaves (rest : List Component) (d : Component) (tail : List Component → List Component) : Prop :=
  (∀ more, tail more = more) ∨ ∃ after, after <:+ rest ∧ ∀ more, tail more = after ++ d :: more

theorem Leaves.cons (leaves : Leaves rest d tail) : Leaves (c :: rest) d tail := by
  rcases leaves with all | ⟨after,suffix,same⟩
  · exact .inl all
  · exact .inr ⟨after,suffix.trans (List.suffix_cons c rest),same⟩

theorem leaf_of_semicolon (semi : isSemicolon d = true) : ∃ l, d = .leaf l ∧ l.token = .semicolon := by
  cases d with
  | block => cases semi
  | leaf l => exact ⟨l,rfl,by simpa [isSemicolon,isLeaf] using semi⟩

theorem endsHead_cases (ends : endsHead e = true) (free : isSemicolon e = false) :
    ∃ opening inside closing, e = .block .curly opening inside closing := by
  rw [endsHead,free,Bool.false_or] at ends
  cases e with
  | leaf => cases ends
  | block bracket opening inside closing =>
    cases bracket with
    | curly => exact ⟨opening,inside,closing,rfl⟩
    | paren | square => cases ends

theorem nestedRule_cut (finish : Place) (free : ∀ c ∈ cs, isSemicolon c = false) (semi : isSemicolon d = true) :
    ∃ result tail, Leaves cs d tail ∧ ∀ more, nestedRule finish (cs ++ d :: more) = (result,tail more) := by
  rcases cut_cases endsHead cs with clear | ⟨head,e,after,rfl,clear,ends⟩
  · obtain ⟨l,rfl,_⟩ := leaf_of_semicolon semi
    refine ⟨.failed l.place (texts cs ++ l.text),id,.inl fun _ => rfl,fun more => ?_⟩
    obtain ⟨front,back⟩ := front_cut clear (semicolon_ends semi) more
    unfold nestedRule
    rw [front,back]
    rfl
  · obtain ⟨opening,inside,closing,rfl⟩ := endsHead_cases ends (free e (by simp))
    refine ⟨.entry (verbatimBlock (collapse (texts head)) inside),fun more => after ++ d :: more,
      .inr ⟨after,?_,fun _ => rfl⟩,fun more => ?_⟩
    · exact (List.suffix_cons _ after).trans (List.suffix_append head _)
    obtain ⟨front,back⟩ := front_cut clear ends (after ++ d :: more)
    unfold nestedRule
    rw [List.append_assoc,List.cons_append,front,back]

theorem nestedAtRule_cut (name : Text) (free : ∀ c ∈ cs, isSemicolon c = false) (semi : isSemicolon d = true) :
    ∃ result tail, Leaves cs d tail ∧ ∀ more, nestedAtRule name (cs ++ d :: more) = (result,tail more) := by
  rcases cut_cases endsHead cs with clear | ⟨head,e,after,rfl,clear,ends⟩
  · obtain ⟨l,rfl,_⟩ := leaf_of_semicolon semi
    refine ⟨.verbatim (headText (lower name) (collapse (texts cs))),id,.inl fun _ => rfl,fun more => ?_⟩
    obtain ⟨front,back⟩ := front_cut clear (semicolon_ends semi) more
    unfold nestedAtRule
    rw [front,back]
    rfl
  · obtain ⟨opening,inside,closing,rfl⟩ := endsHead_cases ends (free e (by simp))
    refine ⟨verbatimBlock (headText (lower name) (collapse (texts head))) inside,fun more => after ++ d :: more,
      .inr ⟨after,?_,fun _ => rfl⟩,fun more => ?_⟩
    · exact (List.suffix_cons _ after).trans (List.suffix_append head _)
    obtain ⟨front,back⟩ := front_cut clear ends (after ++ d :: more)
    unfold nestedAtRule
    rw [List.append_assoc,List.cons_append,front,back]

theorem blame_cut (finish place : Place) (free : ∀ c ∈ first :: rest, isSemicolon c = false) (semi : isSemicolon d = true) :
    ∃ result tail, Leaves (first :: rest) d tail ∧
      ∀ more, named.blame finish first (rest ++ d :: more) place = (result,tail more) := by
  obtain ⟨result,tail,leaves,read⟩ := nestedRule_cut finish free semi
  cases result with
  | entry e => exact ⟨_,tail,leaves,fun more => by unfold named.blame; rw [← List.cons_append,read]⟩
  | failed => exact ⟨_,tail,leaves,fun more => by unfold named.blame; rw [← List.cons_append,read]⟩

theorem skipSpacing_cut (spacing : isSpacing d = false) (more : List Component) :
    skipSpacing (rest ++ d :: more) = skipSpacing rest ++ d :: more := by
  unfold skipSpacing
  induction rest with
  | nil => simp [spacing]
  | cons c rest ih => cases skipped : isSpacing c <;> simp [skipped,ih]

theorem named_cut (finish : Place) (name : Text) (free : ∀ c ∈ first :: rest, isSemicolon c = false)
    (semi : isSemicolon d = true) : ∃ result tail, Leaves (first :: rest) d tail ∧
      ∀ more, named finish name first (rest ++ d :: more) = (result,tail more) := by
  have shown : isSpacing d = false := by obtain ⟨l,rfl,token⟩ := leaf_of_semicolon semi; simp [isSpacing,token]
  have other : d.isLeaf .colon = false := by obtain ⟨l,rfl,token⟩ := leaf_of_semicolon semi; simp [isLeaf,token]
  have spaced := skipSpacing_suffix rest
  cases skipped : skipSpacing rest with
  | nil =>
    obtain ⟨result,tail,leaves,read⟩ := blame_cut finish d.place free semi
    refine ⟨result,tail,leaves,fun more => ?_⟩
    unfold named
    rw [skipSpacing_cut shown,skipped,List.nil_append]
    simp only [other,semi,Bool.false_eq_true,↓reduceIte,read]
  | cons next value =>
    rw [skipped] at spaced
    have valueFree : ∀ c ∈ value, isSemicolon c = false := fun c inside =>
      free c (List.mem_cons_of_mem _ (spaced.subset (List.mem_cons_of_mem _ inside)))
    cases colon : next.isLeaf .colon with
    | true =>
      refine ⟨.entry (.declaration (declarationOf name value)),id,.inl fun _ => rfl,fun more => ?_⟩
      obtain ⟨front,back⟩ := front_cut valueFree semi more
      unfold named
      rw [skipSpacing_cut shown,skipped,List.cons_append]
      simp only [colon,↓reduceIte,front,back]
      rfl
    | false =>
      have nextFree := free next (List.mem_cons_of_mem _ (spaced.subset List.mem_cons_self))
      cases rest with
      | nil => cases skipped
      | cons c rest =>
        obtain ⟨result,tail,leaves,read⟩ := blame_cut finish c.place free semi
        refine ⟨result,tail,leaves,fun more => ?_⟩
        unfold named
        rw [skipSpacing_cut shown,skipped,List.cons_append]
        simp only [colon,nextFree,Bool.false_eq_true,↓reduceIte]
        exact read more

theorem attempt_cut (finish : Place) (free : ∀ c ∈ first :: rest, isSemicolon c = false) (semi : isSemicolon d = true) :
    ∃ result tail, Leaves (first :: rest) d tail ∧ ∀ more, attempt finish first (rest ++ d :: more) = (result,tail more) := by
  have rule := nestedRule_cut finish free semi
  cases first with
  | block => exact rule
  | leaf l =>
    have restFree : ∀ c ∈ rest, isSemicolon c = false := fun c inside => free c (List.mem_cons_of_mem _ inside)
    have name := fun n => named_cut finish n free semi
    have at' := fun n => nestedAtRule_cut n restFree semi
    obtain ⟨token,text,place⟩ := l
    cases token with
    | ident n => exact name n
    | atKeyword n =>
      obtain ⟨result,tail,leaves,read⟩ := at' n
      exact ⟨.entry result,tail,leaves.cons,fun more => by unfold attempt; simp only [read]⟩
    | _ => exact rule

theorem entries_semicolon (selector : Text) (finish : Place) (free : ∀ c ∈ cs, isSemicolon c = false)
    (semi : isSemicolon d = true) (more : List Component) : (entries selector finish (cs ++ d :: more)).1 =
      (entries selector finish (cs ++ [d])).1 ++ (entries selector finish more).1 := by
  induction size : cs.length using Nat.strongRecOn generalizing cs with
  | ind n ih =>
    have skip : ∀ more, entries selector finish (d :: more) = entries selector finish more := fun more =>
      entries_skip (by rw [semi,Bool.or_true])
    cases cs with
    | nil =>
      rw [List.nil_append,List.nil_append,skip,skip,entries]
      rfl
    | cons first rest =>
      have later : ∀ {after : List Component}, after <:+ rest → (entries selector finish (after ++ d :: more)).1 =
          (entries selector finish (after ++ [d])).1 ++ (entries selector finish more).1 := by
        intro after suffix
        have shorter := suffix.length_le
        exact ih after.length (by simp [← size]; omega) (fun c inside => free c (List.mem_cons_of_mem _ (suffix.subset inside))) rfl
      rw [List.cons_append,List.cons_append]
      cases shown : first.isSpacing || isSemicolon first with
      | true => rw [entries_skip shown,entries_skip shown,later List.suffix_rfl]
      | false =>
        obtain ⟨result,tail,leaves,read⟩ := attempt_cut finish free semi
        have behind : (entries selector finish (tail more)).1 =
            (entries selector finish (tail [])).1 ++ (entries selector finish more).1 := by
          rcases leaves with all | ⟨after,suffix,same⟩
          · rw [all,all,entries]; rfl
          · rw [same,same]
            refine later ((List.suffix_cons_iff.mp suffix).resolve_left fun whole => ?_)
            have bound := (attempt_suffix finish first (rest ++ [d])).length_le
            rw [read [],same,whole] at bound
            simp only [List.length_cons,List.length_append,List.length_nil] at bound
            omega
        cases result with
        | entry e =>
          have one := entries_entry selector shown (by rw [read more])
          have two := entries_entry selector shown (by rw [read []])
          rw [one,two,read,read,behind]
          rfl
        | failed place source =>
          have one := entries_failed selector shown (by rw [read more])
          have two := entries_failed selector shown (by rw [read []])
          rw [one,two,read,read,behind]
          split <;> rfl

theorem dropWhile_visible (shown : isBetween c = false) (more : List Component) :
    (c :: more).dropWhile isBetween = c :: more := by simp [shown]

theorem keyword_visible (keyword : l.token = .atKeyword name) : isBetween (.leaf l) = false := by
  simp [isBetween,isSpacing,isLeaf,keyword]

theorem isCharset_keyword (keyword : l.token = .atKeyword name) :
    isCharset (.leaf l) = sameIgnoringCase name "charset" := by
  obtain ⟨token,text,place⟩ := l
  cases keyword
  rfl

theorem shape_keyword (keyword : l.token = .atKeyword name) (finish : Place) (cs : List Component) :
    shape finish (.leaf l) cs = atShape finish name cs := by
  obtain ⟨token,text,place⟩ := l
  cases keyword
  rfl

theorem rules_statement (finish : Place) (keyword : l.token = .atKeyword name)
    (fresh : (veryFirst && sameIgnoringCase name "charset") = false) (free : ∀ c ∈ cs, endsHead c = false)
    (semi : isSemicolon d = true) (more : List Component) :
    (rules finish veryFirst (.leaf l :: (cs ++ d :: more))).sheet =
      .statement (lower name) (collapse (texts cs)) :: (rules finish false more).sheet := by
  obtain ⟨s,rfl,_⟩ := leaf_of_semicolon semi
  obtain ⟨front,back⟩ := front_cut free (semicolon_ends semi) more
  rw [rules_shape (dropWhile_visible (keyword_visible keyword) _) (by rwa [isCharset_keyword keyword]),
    shape_keyword keyword,atShape,front,back]
  rfl

theorem rules_atBlock (finish : Place) (keyword : l.token = .atKeyword name)
    (fresh : (veryFirst && sameIgnoringCase name "charset") = false) (free : ∀ c ∈ cs, endsHead c = false)
    (opening : Lexeme) (inside : List Component) (closing : Option Lexeme) (more : List Component) :
    (rules finish veryFirst (.leaf l :: (cs ++ .block .curly opening inside closing :: more))).sheet =
      nodesOf (.atBlock (lower name) (collapse (texts cs)) inside (finishOf finish closing)) ++
        (rules finish false more).sheet := by
  obtain ⟨front,back⟩ := front_cut (d := .block .curly opening inside closing) free (by simp [endsHead,isCurly]) more
  rw [rules_shape (dropWhile_visible (keyword_visible keyword) _) (by rwa [isCharset_keyword keyword]),
    shape_keyword keyword,atShape,front,back]

-- What a style rule does not begin with: an at-keyword, or the name and colon of a custom property.
def beginsStyled : List Component → Bool
  | [] => false
  | c :: cs => !isBetween c && (match c with
    | .leaf ⟨.atKeyword _,_,_⟩ => false
    | _ => true) && (customProperty? (c :: cs)).isNone

theorem customProperty?_cut (spacing : isSpacing d = false) (other : d.isLeaf .colon = false)
    (plain : customProperty? (c :: cs) = none) (more : List Component) : customProperty? (c :: (cs ++ d :: more)) = none := by
  cases c with
  | block => rfl
  | leaf l =>
    obtain ⟨token,text,place⟩ := l
    cases token with
    | ident name =>
      unfold customProperty? at plain ⊢
      dsimp only at plain ⊢
      rw [skipSpacing_cut spacing]
      cases skipped : skipSpacing cs with
      | nil => simp [other]
      | cons next value =>
        rw [skipped] at plain
        simp only [List.cons_append] at plain ⊢
        split at plain
        · cases plain
        · rename_i held; rw [if_neg held]
    | _ => rfl

theorem shape_styled (begins : beginsStyled (c :: rest) = true) (opening : Lexeme) (inside : List Component)
    (closing : Option Lexeme) (more : List Component) :
    shape finish c (rest ++ .block .curly opening inside closing :: more) =
      styledShape finish (c :: (rest ++ .block .curly opening inside closing :: more)) := by
  simp only [beginsStyled,Bool.and_eq_true,Option.isNone_iff_eq_none] at begins
  obtain ⟨⟨_,keyword⟩,plain⟩ := begins
  have block : isSpacing (.block .curly opening inside closing) = false := rfl
  unfold shape
  rw [customProperty?_cut block rfl plain more]
  cases c with
  | block => rfl
  | leaf l =>
    obtain ⟨token,text,place⟩ := l
    cases token with
    | atKeyword => cases keyword
    | _ => rfl

theorem isCharset_styled (begins : beginsStyled (c :: rest) = true) : isCharset c = false := by
  simp only [beginsStyled,Bool.and_eq_true] at begins
  obtain ⟨⟨_,keyword⟩,_⟩ := begins
  cases c with
  | block => rfl
  | leaf l =>
    obtain ⟨token,text,place⟩ := l
    cases token with
    | atKeyword => cases keyword
    | _ => rfl

theorem entries_wherever (selector other : Text) (finish place : Place) (cs : List Component) :
    (entries selector finish cs).1 = (entries other place cs).1 :=
  (entries_bare selector other finish place cs).symm.trans (entries_bare other other place place cs)

theorem rules_styled (finish : Place) (veryFirst : Bool) (begins : beginsStyled cs = true) (free : ∀ c ∈ cs, isCurly c = false)
    (selected : (collapse (texts cs)).isEmpty = false) (opening : Lexeme) (inside : List Component)
    (closing : Option Lexeme) (more : List Component) :
    (rules finish veryFirst (cs ++ .block .curly opening inside closing :: more)).sheet =
      .rule ⟨collapse (texts cs),(entries [] .start inside).1⟩ :: (rules finish false more).sheet := by
  cases cs with
  | nil => cases begins
  | cons c rest =>
    have shown : isBetween c = false := by
      simp only [beginsStyled,Bool.and_eq_true,Bool.not_eq_true'] at begins
      exact begins.1.1
    obtain ⟨front,back⟩ := front_cut (d := .block .curly opening inside closing) free rfl more
    rw [List.cons_append,rules_shape (dropWhile_visible shown _) (by rw [isCharset_styled begins,Bool.and_false]),
      shape_styled begins,styledShape,← List.cons_append,front,back]
    simp only [selected,Bool.false_eq_true,↓reduceIte,nodesOf]
    rw [entries_wherever _ [] _ .start]
    rfl

end StyleTrim.Css.Read
