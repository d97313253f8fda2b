import StyleTrim.Dom.Reader
import StyleTrim.Proofs.Resuming
import StyleTrim.Proofs.Seams
namespace StyleTrim.Css.Read
open Text Component
variable {c d : Component} {cs after : List Component} {s t y z : Text} {stage : Stage}

-- The texts of style elements are read as one. A text that leaves nothing open at its end is read as if
-- it stood alone, and so is what stands behind it, but for a character set.

namespace Stage

-- A text that is one rule, up to its end and no further.
structure Reads (stage : Stage) (e : Text) (c : Component) (cs : List Component) : Prop where
  whole : Whole none e (c :: cs)
  shown : isBetween c = false
  ends : ∃ head d, c :: cs = head ++ [d] ∧ (∀ x ∈ head, stage.ends c x = false) ∧ stage.ends c d = true

theorem Reads.some (reads : stage.Reads s c cs) : s ≠ [] := by
  rintro rfl
  have whole := components_whole reads.whole []
  rw [List.append_nil,components_nil,List.cons_append] at whole
  cases whole

theorem Reads.back (reads : stage.Reads s c cs) (more : List Component) :
    ∃ d, back (stage.ends c) (c :: (cs ++ more)) = d :: more := by
  obtain ⟨head,d,parts,free,stops⟩ := reads.ends
  refine ⟨d,?_⟩
  rw [← List.cons_append,parts,List.append_assoc,List.singleton_append]
  exact (front_cut free stops more).2

-- The rule is read the same whatever is behind it.
theorem Reads.sheet (reads : stage.Reads s c cs) (y : Text) :
    stage.sheet (components (s ++ y)) = stage.nodes c cs ++ (stage.past c).sheet (components y) := by
  obtain ⟨d,behind⟩ := reads.back (components y)
  obtain ⟨head,e,parts,free,stops⟩ := reads.ends
  rw [components_whole reads.whole,List.cons_append,sheet_step reads.shown,nodes_cut parts free stops,behind]
  rfl

end Stage

theorem Stage.Reads.ended (reads : stage.Reads s c cs) (some : y ≠ []) :
    ended stage (components (s ++ y)) = ended (stage.past c) (components y) := by
  obtain ⟨d,behind⟩ := reads.back (components y)
  have more : (cs ++ components y).isEmpty = false := by
    cases empty : (cs ++ components y).isEmpty with
    | false => rfl
    | true =>
      have none := (List.append_eq_nil_iff.mp (List.isEmpty_iff.mp empty)).2
      have text := components_texts y
      rw [none] at text
      exact absurd text.symm some
  rw [components_whole reads.whole,List.cons_append,ended_step reads.shown,behind,more,Bool.and_false,Bool.false_or]

namespace Stage

-- A gap is passed, and a mark is remembered.
theorem reach_token {ch : Char} {t : Token} {rest : Text} (token : Scan.token ch s = (t,rest)) (gap : t.isGap = true) :
    stage.reach (components (ch :: s)) =
      (if t = .commentOpen ∨ t = .commentClose then stage.marked else stage).reach (components rest) := by
  have first := lexemes_cons ch s
  rw [token] at first
  rw [components_leaf (Token.isGap_plain gap) first,reach]
  cases t <;> first | rfl | cases gap

theorem reach_blanks (s : Text) : stage.reach (components (s.dropWhile isAsciiBlank)) = stage.reach (components s) := by
  cases s with
  | nil => rfl
  | cons ch s =>
    cases blank : isAsciiBlank ch with
    | false => rw [List.dropWhile_cons_of_neg (by rw [blank]; exact Bool.false_ne_true)]
    | true =>
      have token : Scan.token ch s = (.blank,s.dropWhile isAsciiBlank) := by unfold Scan.token; rw [if_pos blank]
      rw [List.dropWhile_cons_of_pos blank,reach_token token rfl]
      rfl

-- What a text leaves to be read of the text behind it: that text itself, behind a gap or within a
-- comment, or a rule of its own first.
theorem reach_cases (stage : Stage) (s : Text) :
    (∃ now : Stage, ∀ y, stage.reach (components (s ++ y)) = now.reach (components y)) ∨
    (∀ y, '/' ∉ y → (stage.reach (components (s ++ y))).2 = []) ∨
    ∃ (now : Stage) (ch : Char) (t : Text), t.length < s.length ∧ (Scan.token ch t).1.isGap = false ∧
      ∀ y, stage.reach (components (s ++ y)) = now.reach (components (ch :: t ++ y)) := by
  induction size : s.length using Nat.strongRecOn generalizing stage s with
  | ind n ih =>
    -- What is behind a token is asked next, whatever follows.
    have next : ∀ (other : Stage) (rest : Text), rest.length < n →
        (∀ y, stage.reach (components (s ++ y)) = other.reach (components (rest ++ y))) →
        (∃ now : Stage, ∀ y, stage.reach (components (s ++ y)) = now.reach (components y)) ∨
        (∀ y, '/' ∉ y → (stage.reach (components (s ++ y))).2 = []) ∨
        ∃ (now : Stage) (ch : Char) (t : Text), t.length < n ∧ (Scan.token ch t).1.isGap = false ∧
          ∀ y, stage.reach (components (s ++ y)) = now.reach (components (ch :: t ++ y)) := by
      intro other rest shorter same
      simp only [same]
      rcases ih _ shorter other rest rfl with gap | open' | ⟨now,ch,t,short,shown,behind⟩
      · exact .inl gap
      · exact .inr (.inl open')
      · exact .inr (.inr ⟨now,ch,t,short.trans shorter,shown,behind⟩)
    cases s with
    | nil => exact .inl ⟨stage,fun _ => rfl⟩
    | cons ch s =>
      rw [List.length_cons] at size
      have origin := Scan.token_gap ch s
      generalize token : Scan.token ch s = step at origin
      cases origin with
      | blank blank =>
        refine next stage s (by omega) fun y => ?_
        have token : Scan.token ch (s ++ y) = (.blank,(s ++ y).dropWhile isAsciiBlank) := by
          unfold Scan.token; rw [if_pos blank]
        rw [List.cons_append,reach_token token rfl]
        exact reach_blanks (s ++ y)
      | comment r =>
        rw [List.length_cons] at size
        have behind : ∀ y, stage.reach (components ('/' :: '*' :: r ++ y)) =
            stage.reach (components (Scan.afterComment (r ++ y))) := fun y =>
          reach_token (s := '*' :: (r ++ y)) (t := .comment) rfl rfl
        rcases Scan.afterComment_append r with ends | ⟨_,runs⟩
        · refine next stage (Scan.afterComment r) ?_ fun y => ?_
          · have := (Scan.afterComment_suffix r).length_le
            omega
          · rw [behind,ends]
        · refine .inr (.inl fun y none => ?_)
          rw [behind,runs y none,components_nil]
          rfl
      | opened r =>
        simp only [List.length_cons] at size
        exact next stage.marked r (by omega) fun y =>
          reach_token (s := '!' :: '-' :: '-' :: (r ++ y)) (t := .commentOpen) rfl rfl
      | closed r =>
        simp only [List.length_cons] at size
        exact next stage.marked r (by omega) fun y =>
          reach_token (s := '-' :: '>' :: (r ++ y)) (t := .commentClose) rfl rfl
      | shown shown => exact .inr (.inr ⟨stage,ch,s,by omega,by rw [token]; exact shown,fun _ => rfl⟩)

end Stage

-- Whether a text begins with a character set, apart from blanks, comments and marks.
def opensCharset (s : Text) : Bool :=
  match (Stage.lead.reach (components s)).2 with
  | [] => false
  | c :: _ => isCharset c

-- Without a character set at its front a text is read the same wherever it stands.
theorem sheet_portable (other : opensCharset s = false) (stage : Stage) : stage.sheet (components s) = sheetOf s := by
  have plain : ∀ stage : Stage, stage.sheet (components s) = Stage.later.sheet (Stage.lead.reach (components s)).2 := by
    intro stage
    rw [← Stage.sheet_reach stage,Stage.reach_same stage .lead]
    unfold opensCharset at other
    cases reached : (Stage.lead.reach (components s)).2 with
    | nil => rw [Stage.sheet_nil,Stage.sheet_nil]
    | cons c rest =>
      rw [reached] at other
      have keeps : ∀ stage : Stage, stage.keeps c = false := fun stage => by
        rw [Stage.keeps,show isCharset c = false from other,Bool.and_false]
      have shown := Stage.reach_found reached
      simp only [Stage.sheet_step shown,Stage.nodes,Stage.past,Stage.ends,keeps,show isCharset c = false from other,
        Bool.and_false,Bool.false_eq_true,↓reduceIte]
  rw [sheetOf_components,plain stage]
  exact (plain .lead).symm

namespace Stage

-- Whether a rule ends in the text that begins with it.
def Splits (stage : Stage) (s : Text) : Prop := ∃ e t c cs, s = e ++ t ∧ stage.Reads e c cs

-- If none does, the first rule ends in the text behind it, or nowhere.
theorem unended (open' : ¬ stage.Splits s) (parts : components (s ++ y) = c :: cs) (shown : isBetween c = false) :
    (back (stage.ends c) (c :: cs)).drop 1 = [] ∨ ∃ d x ch z, back (stage.ends c) (c :: cs) = d :: components z ∧
      z ≠ [] ∧ y = x ++ ch :: z ∧ EndsWith d ch ∧ stage.ends c d = true := by
  rcases cut_cases (stage.ends c) (c :: cs) with free | ⟨head,d,after,whole,free,stops⟩
  · rw [(front_free free).2]
    exact .inl rfl
  · rw [whole] at parts ⊢
    rw [(front_cut free stops after).2]
    by_cases last : after = []
    · exact .inl (by rw [last]; rfl)
    · obtain ⟨one,u,ch,text,mark⟩ := whole_cut parts (ends_head stops) last
      have same : texts (head ++ [d]) ++ texts after = s ++ y := by
        rw [← components_texts (s ++ y),parts,← texts_append,List.append_assoc]
        rfl
      have behind : components (texts after) = after := by
        have all := components_whole one (texts after)
        rw [same,parts,List.append_cons] at all
        exact (List.append_cancel_left all).symm
      have reads : ∃ rest, stage.Reads (texts (head ++ [d])) c rest := by
        cases head with
        | nil =>
          obtain rfl : c = d := (List.cons.inj whole).1
          exact ⟨[],one,shown,[],c,rfl,free,stops⟩
        | cons first rest =>
          obtain rfl : c = first := (List.cons.inj whole).1
          exact ⟨rest ++ [d],one,shown,c :: rest,d,rfl,free,stops⟩
      obtain ⟨rest,reads⟩ := reads
      rcases List.append_eq_append_iff.mp same with ⟨t,rfl,_⟩ | ⟨x,front,rfl⟩
      · exact absurd ⟨_,t,c,rest,rfl,reads⟩ open'
      · rcases List.eq_nil_or_concat x with rfl | ⟨x,e,rfl⟩
        · exact absurd ⟨_,[],c,rest,by rw [front,List.append_nil,List.append_nil],reads⟩ open'
        · rw [text,List.concat_eq_append,← List.append_assoc] at front
          obtain ⟨_,same⟩ := List.append_inj' front rfl
          obtain rfl : ch = e := (List.cons.inj same).1
          refine .inr ⟨d,x,ch,texts after,by rw [behind],fun empty => last ?_,by simp,mark,stops⟩
          rw [← behind,empty,components_nil]

-- What a text begins with that does not begin with a gap.
theorem begins {e : Char} (shown : (Scan.token e s).1.isGap = false) : ∃ c cs, components (e :: s) = c :: cs ∧
    isBetween c = false ∧ (isKeyword c = true ↔ e = '@' ∧ Scan.startsName s = true) := by
  obtain ⟨c,cs,parts,token,_⟩ := components_first (lexemes_cons e s)
  refine ⟨c,cs,parts,?_,?_⟩
  · cases c with
    | leaf l => rw [isBetween_leaf]; exact (congrArg Token.isGap token).trans shown
    | block => rfl
  · rw [← Scan.token_keyword,← show c.token = (Scan.token e s).1 from token]
    cases c with
    | leaf l =>
      obtain ⟨t,text,place⟩ := l
      cases t <;> simp [isKeyword,Component.token,Token.kind]
    | block b opening inside closing =>
      have fits := (components_fit (e :: s)).1
      rw [parts] at fits
      have opens := fits.first.opens
      refine iff_of_false Bool.false_ne_true fun keyword => ?_
      rw [Component.token] at keyword
      cases token : opening.token <;> rw [token] at keyword opens <;> first | (cases opens; done) | cases keyword

end Stage

-- The selector of the last rule, if that is a style rule at the top level.
def lastSelector? (sheet : Sheet) : Option Text :=
  match sheet.getLast? with
  | some (.rule r) => some r.selector
  | _ => none

theorem lastSelector?_append (s : Sheet) {t : Sheet} (some : t ≠ []) : lastSelector? (s ++ t) = lastSelector? t := by
  rw [lastSelector?,List.getLast?_append_of_ne_nil s some,lastSelector?]

-- A text by which others are tested.
def probe : Text := ['b','\x7b','\x7d']

theorem probes : opensCharset probe = false ∧ opensCharset (';' :: probe) = false ∧ opensCharset ('@' :: 'a' :: ';' :: probe) = false ∧
    lastSelector? (sheetOf probe) = some ['b'] ∧ lastSelector? (sheetOf (';' :: probe)) = some [';','b'] ∧
    (sheetOf ('@' :: 'a' :: ';' :: probe)).length = 2 := by
  decide +kernel

theorem ended_semicolon (stage : Stage) : ended stage (components [';']) = true := by
  cases stage <;> decide +kernel

theorem mem_front {x : Text} {ch : Char} (parts : y = x ++ ch :: z) (some : z ≠ []) : ch ∈ y.dropLast := by
  rw [parts,List.dropLast_append_of_ne_nil (List.cons_ne_nil ch z),List.dropLast_cons_of_ne_nil some]
  exact List.mem_append_right x List.mem_cons_self

theorem text_semicolon (parts : components s = [c]) (semi : isSemicolon c = true) : s = [';'] := by
  obtain ⟨l,rfl,token⟩ := leaf_of_semicolon semi
  have spread := (components_fit s).2
  have text := components_texts s
  rw [parts] at spread text
  have genuine : Genuine l := lexemes_genuine s l (by rw [← spread]; exact List.mem_singleton_self l)
  rw [← text,← genuine.mark (show l.token.kind = .mark ';' by rw [token]; rfl)]
  simp [texts,Component.text]

namespace Stage

-- A text that its first rule does not end in is open.
theorem open_ended {e : Char} (shown : (Scan.token e t).1.isGap = false) (open' : ¬ stage.Splits (e :: t)) :
    ended stage (components (e :: t ++ [';'])) = false := by
  obtain ⟨c,cs,parts,visible,_⟩ := begins (Scan.shown_append (show Scan.endsGap ';' = true from rfl) shown [])
  rw [List.cons_append,parts,ended_step visible]
  have more : (isSemicolon c && cs.isEmpty) = false := by
    refine Bool.eq_false_iff.mpr fun alone => ?_
    obtain ⟨semi,empty⟩ := Bool.and_eq_true_iff.mp alone
    rw [List.isEmpty_iff.mp empty] at parts
    have short := congrArg List.length (text_semicolon parts semi)
    simp at short
  rw [more,Bool.false_or]
  rcases unended (s := e :: t) (y := [';']) open' parts visible with none | ⟨d,x,ch,z,_,some,same,_⟩
  · cases behind : back (stage.ends c) (c :: cs) with
    | nil => rfl
    | cons d after =>
      rw [behind] at none
      exact ended_none (by rw [show after = [] from none]; rfl)
  · exact absurd (mem_front same some) List.not_mem_nil

-- Behind an open at-rule a semicolon ends it instead of standing in front of a selector.
theorem open_keyword {e : Char} (shown : (Scan.token e t).1.isGap = false) (open' : ¬ stage.Splits (e :: t))
    (key : e = '@' ∧ Scan.startsName t = true) :
    stage.sheet (components (e :: t ++ ';' :: probe)) ≠ stage.sheet (components (e :: t)) ++ sheetOf (';' :: probe) := by
  intro same
  obtain ⟨plain,_,_,selector,marked,_⟩ := probes
  obtain ⟨c,cs,parts,visible,starts⟩ := begins (Scan.shown_append (show Scan.endsGap ';' = true from rfl) shown probe)
  have named := Scan.startsName_bounded (u := t) (.inr ⟨';',probe,rfl,rfl⟩)
  have keyword : isKeyword c = true := starts.mpr ⟨key.1,named.trans key.2⟩
  have last := congrArg lastSelector? same
  rw [lastSelector?_append _ (fun empty => by rw [empty] at marked; cases marked),marked,List.cons_append,parts,
    sheet_step visible] at last
  rcases unended (s := e :: t) open' parts visible with none | ⟨d,x,ch,z,behind,some,same,mark,_⟩
  · rw [none,sheet_nil,List.append_nil,lastSelector?] at last
    split at last
    · rename_i r found
      exact nodes_keyword keyword cs (List.mem_of_getLast? found)
    · cases last
  · obtain rfl : z = probe := by
      cases x with
      | nil => exact (List.cons.inj same).2.symm
      | cons f x =>
        have inside := mem_front (List.cons.inj same).2 some
        rcases mark with ⟨_,rfl⟩ | ⟨_,rfl⟩ <;> exact absurd inside (by decide)
    rw [behind,List.drop_one,List.tail_cons,sheet_portable plain,
      lastSelector?_append _ (fun empty => by rw [empty] at selector; cases selector),selector] at last
    cases last

-- Any other open rule goes on up to a block, and nothing of what is behind it stands by itself.
theorem open_styled {e : Char} (shown : (Scan.token e t).1.isGap = false) (open' : ¬ stage.Splits (e :: t))
    (key : ¬ (e = '@' ∧ Scan.startsName t = true)) :
    stage.sheet (components (e :: t ++ '@' :: 'a' :: ';' :: probe)) ≠
      stage.sheet (components (e :: t)) ++ sheetOf ('@' :: 'a' :: ';' :: probe) := by
  intro same
  obtain ⟨_,_,_,_,_,two⟩ := probes
  obtain ⟨c,cs,parts,visible,starts⟩ := begins (Scan.shown_append (show Scan.endsGap '@' = true from rfl) shown ('a' :: ';' :: probe))
  rw [Scan.startsName_at] at starts
  have other : isKeyword c = false := Bool.eq_false_iff.mpr fun named => key (starts.mp named)
  have keeps : stage.keeps c = false := Bool.eq_false_iff.mpr fun keeps => by
    rw [keeps_keyword keeps] at other
    cases other
  have ends : stage.ends c = isCurly := by simp [Stage.ends,keeps,other]
  have none : (back (stage.ends c) (c :: cs)).drop 1 = [] := by
    rcases unended (s := e :: t) open' parts visible with none | ⟨d,x,ch,z,_,some,same,mark,stops⟩
    · exact none
    · have inside := mem_front same some
      rcases mark with ⟨semi,_⟩ | ⟨_,rfl⟩
      · obtain ⟨l,rfl,_⟩ := leaf_of_semicolon semi
        rw [ends] at stops
        cases stops
      · exact absurd inside (by decide)
  have size := congrArg List.length same
  rw [List.cons_append,parts,sheet_step visible,none,sheet_nil,List.append_nil,List.length_append,two] at size
  have := stage.nodes_length c cs
  omega

-- There is a text that is not read by itself behind it.
theorem open_swallows {e : Char} (shown : (Scan.token e t).1.isGap = false) (open' : ¬ stage.Splits (e :: t)) :
    ∃ y, opensCharset y = false ∧ stage.sheet (components (e :: t ++ y)) ≠ stage.sheet (components (e :: t)) ++ sheetOf y := by
  obtain ⟨_,semicolon,keyword,_⟩ := probes
  by_cases key : e = '@' ∧ Scan.startsName t = true
  · exact ⟨_,semicolon,open_keyword shown open' key⟩
  · exact ⟨_,keyword,open_styled shown open' key⟩

-- What is left to be read of a text and of what is behind it.
inductive Left (stage : Stage) (s : Text) : Prop
  -- the text behind it alone
  | gap (now : Stage) (behind : ∀ y, stage.reach (components (s ++ y)) = now.reach (components y))
  -- a rule that ends, and more
  | rule (now : Stage) (e t : Text) (c : Component) (cs : List Component) (shorter : t.length < s.length) (reads : now.Reads e c cs)
    (behind : ∀ y, stage.reach (components (s ++ y)) = (now,c :: cs ++ components (t ++ y)))
  -- a rule or a comment that does not end
  | runs (unended : ended stage (components (s ++ [';'])) = false) (swallows : ∃ y, opensCharset y = false ∧
      stage.sheet (components (s ++ y)) ≠ stage.sheet (components s) ++ sheetOf y)

theorem left (stage : Stage) (s : Text) : stage.Left s := by
  have alone := List.append_nil s
  rcases stage.reach_cases s with ⟨now,gap⟩ | runs | ⟨now,e,t,short,shown,behind⟩
  · exact .gap now gap
  · refine .runs (ended_none (runs [';'] (by decide))) ⟨probe,probes.1,fun lost => ?_⟩
    have sheet : ∀ y, '/' ∉ y → stage.sheet (components (s ++ y)) = [] := fun y free => by
      rw [← stage.sheet_reach,runs y free,Stage.sheet_nil]
    have selector := probes.2.2.2.1
    rw [sheet probe (by decide),← alone,sheet [] List.not_mem_nil,List.nil_append] at lost
    rw [← lost] at selector
    cases selector
  · by_cases splits : now.Splits (e :: t)
    · obtain ⟨f,rest,c,cs,parts,reads⟩ := splits
      refine .rule now f rest c cs ?_ reads fun y => ?_
      · have length := congrArg List.length parts
        have := List.length_pos_of_ne_nil reads.some
        rw [List.length_cons,List.length_append] at length
        omega
      · rw [behind,parts,List.append_assoc,components_whole reads.whole,List.cons_append,reach_shown now reads.shown]
    · have sheet : ∀ y, stage.sheet (components (s ++ y)) = now.sheet (components (e :: t ++ y)) := fun y => by
        rw [← stage.sheet_reach,behind,now.sheet_reach]
      have whole := sheet []
      rw [List.append_nil,List.append_nil] at whole
      refine .runs ?_ ?_
      · rw [← ended_reach,behind,ended_reach]
        exact open_ended shown splits
      · simp only [sheet,whole]
        exact open_swallows shown splits

end Stage

-- A text is open at its end just when there is a text that is read in another way behind it.
theorem ended_iff (stage : Stage) (s : Text) : ended stage (components (s ++ [';'])) = true ↔
    ∀ y, opensCharset y = false → stage.sheet (components (s ++ y)) = stage.sheet (components s) ++ sheetOf y := by
  induction size : s.length using Nat.strongRecOn generalizing stage s with
  | ind n ih =>
    have alone := List.append_nil s
    cases stage.left s with
    | gap now gap =>
      refine iff_of_true ?_ fun y other => ?_
      · rw [← ended_reach,gap,ended_reach]
        exact ended_semicolon now
      · have sheet : ∀ y, stage.sheet (components (s ++ y)) = now.sheet (components y) := fun y => by
          rw [← stage.sheet_reach,gap,now.sheet_reach]
        rw [sheet,← alone,sheet,components_nil,Stage.sheet_nil,sheet_portable other,List.nil_append]
    | rule now e t c cs shorter reads behind =>
      have again : ∀ y, now.reach (components (e ++ y)) = (now,c :: cs ++ components y) := fun y => by
        rw [components_whole reads.whole,List.cons_append,Stage.reach_shown now reads.shown]
      have sheet : ∀ y, stage.sheet (components (s ++ y)) = now.nodes c cs ++ (now.past c).sheet (components (t ++ y)) := fun y => by
        rw [← stage.sheet_reach,behind,← again,now.sheet_reach,reads.sheet]
      have whole := sheet []
      rw [List.append_nil,List.append_nil] at whole
      rw [← ended_reach,behind,← again,ended_reach,reads.ended (List.append_ne_nil_of_right_ne_nil t (List.cons_ne_nil _ _))]
      simp only [sheet,whole,List.append_assoc,List.append_cancel_left_eq]
      exact ih _ (size ▸ shorter) _ t rfl
    | runs unended swallows =>
      obtain ⟨y,other,differs⟩ := swallows
      exact iff_of_false (by rw [unended]; exact Bool.false_ne_true) fun law => differs (law y other)

-- Whether a text leaves nothing open: a semicolon behind it stands by itself, outside all rules, strings
-- and comments.
def isComplete (s : Text) : Bool := ended .lead (components (s ++ [';']))

theorem isComplete_iff (s : Text) : isComplete s = true ↔
    ∀ y, opensCharset y = false → sheetOf (s ++ y) = sheetOf s ++ sheetOf y := by
  simp only [sheetOf_components]
  refine (ended_iff .lead s).trans ?_
  simp only [Stage.sheet,sheetOf_components]

namespace Stage

theorem reach_settled (settled : stage.marked = stage) (cs : List Component) : (stage.reach cs).1 = stage := by
  fun_induction reach stage cs with
  | case1 | case4 => rfl
  | case2 stage c cs _ ih => exact ih settled
  | case3 stage c cs _ _ ih => rw [ih (by rw [settled,settled]),settled]

-- A character set that stands first is left out behind a mark, but not behind a rule.
theorem sheet_charset (opens : opensCharset y = true) : Stage.first.sheet (components y) ≠ Stage.later.sheet (components y) := by
  intro same
  rw [← Stage.first.sheet_reach,← later.sheet_reach,reach_settled rfl,reach_settled rfl,reach_same .first .lead,
    reach_same later lead] at same
  unfold opensCharset at opens
  cases parts : (lead.reach (components y)).2 with
  | nil => rw [parts] at opens; cases opens
  | cons c rest =>
    rw [parts] at opens same
    have charset : isCharset c = true := opens
    have shown := reach_found parts
    obtain ⟨l,n,rfl,keyword,_⟩ := isCharset_iff charset
    obtain ⟨node,params,one,_⟩ := atShape_named .start n rest
    have size := congrArg List.length same
    simp [sheet_step shown,nodes,past,Stage.ends,keeps,charset,shape_keyword keyword,one] at size

end Stage

-- A text that begins with a character set is not read the same behind all that is complete.
theorem opensCharset_iff (y : Text) : opensCharset y = false ↔
    ∀ s, isComplete s = true → sheetOf (s ++ y) = sheetOf s ++ sheetOf y := by
  refine ⟨fun other s complete => (isComplete_iff s).mp complete y other,fun law => ?_⟩
  have mark : Stage.first.sheet (components y) = sheetOf y := by
    have behind := law ['<','!','-','-'] (by decide +kernel)
    rw [show sheetOf ['<','!','-','-'] = [] by decide +kernel,List.nil_append] at behind
    have passed : Stage.lead.reach (components ('<' :: '!' :: '-' :: '-' :: y)) = Stage.first.reach (components y) :=
      Stage.reach_token (t := .commentOpen) rfl rfl
    rw [← behind,sheetOf_components,← Stage.first.sheet_reach,← passed]
    exact Stage.lead.sheet_reach _
  have rule : Stage.later.sheet (components y) = sheetOf y := by
    have block : Stage.lead.Reads ['\x7b','\x7d'] (Css.curly []) [] :=
      ⟨.curly .nil,rfl,[],Css.curly [],rfl,nofun,rfl⟩
    have behind := law ['\x7b','\x7d'] (by decide +kernel)
    have alone := block.sheet []
    rw [components_nil,Stage.sheet_nil,List.append_nil,List.append_nil] at alone
    rw [sheetOf_components,sheetOf_components ['\x7b','\x7d']] at behind
    exact List.append_cancel_left (((block.sheet y).symm.trans behind).trans (congrArg (· ++ sheetOf y) alone))
  cases opens : opensCharset y with
  | false => rfl
  | true => exact absurd (mark.trans rule.symm) (Stage.sheet_charset opens)

theorem opensCharset_append (complete : isComplete t = true) (first : opensCharset t = false) (second : opensCharset y = false) :
    opensCharset (t ++ y) = false := by
  cases Stage.lead.left t with
  | gap now gap =>
    unfold opensCharset at second ⊢
    rw [gap,Stage.reach_same now .lead]
    exact second
  | rule now e s c cs shorter reads behind =>
    have alone := behind []
    rw [List.append_nil] at alone
    unfold opensCharset at first ⊢
    rw [alone] at first
    rw [behind]
    exact first
  | runs unended swallows =>
    rw [isComplete,unended] at complete
    cases complete

variable {texts : List Text}

theorem opensCharset_flatten (complete : ∀ t ∈ texts.dropLast, isComplete t = true) (plain : ∀ t ∈ texts, opensCharset t = false) :
    opensCharset texts.flatten = false := by
  induction texts with
  | nil => decide +kernel
  | cons t texts ih =>
    have first := plain t List.mem_cons_self
    rw [List.flatten_cons]
    cases texts with
    | nil => rwa [List.flatten_nil,List.append_nil]
    | cons u texts =>
      refine opensCharset_append (complete t List.mem_cons_self) first (ih ?_ ?_)
      · exact fun v inside => complete v (List.mem_cons_of_mem t inside)
      · exact fun v inside => plain v (List.mem_cons_of_mem t inside)

-- Texts of which all but the last are complete, and all but the first begin with no character set.
theorem sheetOf_flatten (complete : ∀ t ∈ texts.dropLast, isComplete t = true) (plain : ∀ t ∈ texts.tail, opensCharset t = false) :
    sheetOf texts.flatten = (texts.map sheetOf).flatten := by
  induction texts with
  | nil => rw [List.flatten_nil,sheetOf_components,components_nil]; exact Stage.lead.sheet_nil
  | cons t texts ih =>
    rw [List.map_cons,List.flatten_cons,List.flatten_cons]
    cases texts with
    | nil => rw [List.flatten_nil,List.append_nil]; exact (List.append_nil _).symm
    | cons u texts =>
      have rest : ∀ v ∈ (u :: texts).dropLast, isComplete v = true := fun v inside => complete v (List.mem_cons_of_mem t inside)
      rw [(isComplete_iff t).mp (complete t List.mem_cons_self) _ (opensCharset_flatten rest plain),
        ih rest fun v inside => plain v (List.mem_cons_of_mem u inside)]

end StyleTrim.Css.Read

namespace StyleTrim.Dom
open Text Css

-- The sheets of the author's style elements, each read by itself.
def customSheets (d : Dom) : Sheet := (d.customStyles.map fun id => sheetOf (d.textContent id)).flatten

-- No style element of the author is below another.
def StylesUnnested (d : Dom) : Prop :=
  ∀ id ∈ d.customStyles, ∀ other ∈ d.customStyles, other ∈ d.descendants id → other = id

instance (d : Dom) : Decidable d.StylesUnnested :=
  inferInstanceAs (Decidable (∀ id ∈ d.customStyles, ∀ other ∈ d.customStyles, other ∈ d.descendants id → other = id))

theorem customStyleText_apart {d : Dom} (complete : ∀ id ∈ d.customStyles.dropLast, Read.isComplete (d.textContent id) = true)
    (plain : ∀ id ∈ d.customStyles.tail, Read.opensCharset (d.textContent id) = false) :
    sheetOf d.customStyleText = d.customSheets := by
  rw [customStyleText,Read.sheetOf_flatten,List.map_map]
  · rfl
  · rw [← List.map_dropLast]
    exact List.forall_mem_map.mpr complete
  · rw [← List.map_tail]
    exact List.forall_mem_map.mpr plain

-- The author's style elements are read apart if all but the last are complete and all but the first begin
-- with no character set. Of one element by itself neither less nor more can be asked.
theorem style_elements_apart :
    (∀ d : Dom, (∀ id ∈ d.customStyles.dropLast, Read.isComplete (d.textContent id) = true) →
      (∀ id ∈ d.customStyles.tail, Read.opensCharset (d.textContent id) = false) →
      sheetOf d.customStyleText = d.customSheets) ∧
    (∀ s, Read.isComplete s = true ↔
      ∀ y, Read.opensCharset y = false → sheetOf (s ++ y) = sheetOf s ++ sheetOf y) ∧
    ∀ y, Read.opensCharset y = false ↔
      ∀ s, Read.isComplete s = true → sheetOf (s ++ y) = sheetOf s ++ sheetOf y :=
  ⟨fun _ => customStyleText_apart,Read.isComplete_iff,Read.opensCharset_iff⟩

def completeStyles : Dom := read "<style>@charset 'x';.a\x7bb:c\x7d/* d */ --></style><style>.d\x7be:f</style>"

theorem style_elements_apart_two : sheetOf completeStyles.customStyleText = completeStyles.customSheets ∧
    completeStyles.customSheets.length = 3 :=
  ⟨style_elements_apart.1 completeStyles (by decide +kernel) (by decide +kernel),by decide +kernel⟩

-- A rule without its brace, and a character set that does not come first.
def openStyle : Dom := read "<style>.a\x7bb:c</style><style>.d\x7be:f\x7d</style>"
def lateCharset : Dom := read "<style><!--</style><style>@charset 'x';</style>"

theorem open_style_swallows : (openStyle.StylesUnnested ∧ sheetOf openStyle.customStyleText ≠ openStyle.customSheets) ∧
    lateCharset.StylesUnnested ∧ sheetOf lateCharset.customStyleText ≠ lateCharset.customSheets := by
  have sizes : (sheetOf openStyle.customStyleText).length = 1 ∧ openStyle.customSheets.length = 2 ∧
      (sheetOf lateCharset.customStyleText).length = 0 ∧ lateCharset.customSheets.length = 1 := by decide +kernel
  refine ⟨⟨by decide +kernel,fun same => ?_⟩,by decide +kernel,fun same => ?_⟩
  · have := congrArg List.length same
    omega
  · have := congrArg List.length same
    omega

end StyleTrim.Dom
