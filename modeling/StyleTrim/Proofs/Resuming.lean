import Mathlib.Data.List.Basic
import Mathlib.Data.List.TakeWhile
import StyleTrim.Proofs.Reprinting
namespace StyleTrim.Css.Read
open Text Component
variable {stop : Component → Bool} {c d : Component} {cs head more value after : List Component} {finish : Place}
  {veryFirst : Bool}

-- A sheet is read rule by rule. Where the reading has come to decides about a character set only, so what
-- stands behind the end of a rule can be looked at by itself.

inductive Stage where
  -- blanks and comments only: a character set is kept, up to its semicolon
  | lead
  -- marks or the leading character set as well: a character set is passed over
  | first
  -- behind rules: a character set is an at-rule like any other
  | later
deriving DecidableEq

def isMark (c : Component) : Bool := c.isLeaf .commentOpen || c.isLeaf .commentClose

def isKeyword : Component → Bool
  | .leaf ⟨.atKeyword _,_,_⟩ => true
  | _ => false

namespace Stage

def marked : Stage → Stage
  | .lead => .first
  | stage => stage

-- Whether a rule is the leading character set.
def keeps (stage : Stage) (first : Component) : Bool := decide (stage = .lead) && isCharset first

def past (stage : Stage) (first : Component) : Stage := if stage.keeps first then .first else .later

-- What ends the rule that begins with a component.
def ends (stage : Stage) (first : Component) : Component → Bool :=
  if stage.keeps first then isSemicolon else if isKeyword first then endsHead else isCurly

-- Where the next rule begins.
def reach (stage : Stage) : List Component → Stage × List Component
  | [] => (stage,[])
  | c :: cs => if c.isSpacing then stage.reach cs else if isMark c then stage.marked.reach cs else (stage,c :: cs)

theorem reach_suffix (stage : Stage) (cs : List Component) : (stage.reach cs).2 <:+ cs := by
  fun_induction reach stage cs with
  | case1 | case4 => exact List.suffix_rfl
  | case2 stage c cs _ ih | case3 stage c cs _ _ ih => exact ih.trans (List.suffix_cons c cs)

-- What components are read as.
def sheet : Stage → List Component → Sheet
  | .lead, cs => sheetFrom cs
  | .first, cs => (rules .start true cs).sheet
  | .later, cs => (rules .start false cs).sheet

end Stage

variable {stage : Stage}

-- Whether all rules end, and a last semicolon stands by itself.
def ended (stage : Stage) (cs : List Component) : Bool :=
  match _reached : stage.reach cs with
  | (_,[]) => false
  | (now,c :: rest) =>
    isSemicolon c && rest.isEmpty || match _cut : back (now.ends c) (c :: rest) with
      | [] => false
      | _ :: after => ended (now.past c) after
termination_by cs.length
decreasing_by
  have reached := (stage.reach_suffix cs).length_le
  have behind := (_cut ▸ back_suffix (now.ends c) (c :: rest)).length_le
  simp only [_reached] at reached
  simp only [List.length_cons] at behind reached
  omega

theorem rules_between (gap : isBetween c = true) :
    (rules finish veryFirst (c :: cs)).sheet = (rules finish veryFirst cs).sheet := by
  have same : (c :: cs).dropWhile isBetween = cs.dropWhile isBetween := by simp [gap]
  cases visible : cs.dropWhile isBetween with
  | nil => rw [rules_none (same.trans visible),rules_none visible]
  | cons d rest =>
    cases charset : veryFirst && isCharset d with
    | true =>
      obtain ⟨rfl,charset⟩ := Bool.and_eq_true_iff.mp charset
      rw [rules_charset (same.trans visible) charset,rules_charset visible charset]
    | false => rw [rules_shape (same.trans visible) charset,rules_shape visible charset]

theorem leadingCharset?_spacing (spacing : c.isSpacing = true) : leadingCharset? (c :: cs) =
    leadingCharset? cs := by
  rw [leadingCharset?,skipSpacing,List.dropWhile_cons_of_pos spacing,leadingCharset?,skipSpacing]

theorem leadingCharset?_other (spacing : c.isSpacing = false) (other : isCharset c = false) :
    leadingCharset? (c :: cs) = none := by
  rw [leadingCharset?,skipSpacing,List.dropWhile_cons_of_neg (by rw [spacing]; exact Bool.false_ne_true)]
  dsimp only
  rw [other]
  rfl

theorem leadingCharset?_charset (charset : isCharset c = true) : leadingCharset? (c :: cs) =
    some (collapse (texts (front isSemicolon cs)),(back isSemicolon cs).drop 1) := by
  obtain ⟨l,n,rfl,keyword,_⟩ := isCharset_iff charset
  have shown : isSpacing (.leaf l) = false := by simp [isSpacing,keyword]
  rw [leadingCharset?,skipSpacing,List.dropWhile_cons_of_neg (by rw [shown]; exact Bool.false_ne_true)]
  dsimp only
  rw [charset]
  rfl

namespace Stage

theorem sheet_spacing (spacing : c.isSpacing = true) : stage.sheet (c :: cs) = stage.sheet cs := by
  have gap : isBetween c = true := by simp [isBetween,spacing]
  cases stage with
  | lead => simp only [sheet,sheetFrom,leadingCharset?_spacing spacing,rules_between gap]
  | first | later => exact rules_between gap

theorem sheet_mark (spacing : c.isSpacing = false) (mark : isMark c = true) :
    stage.sheet (c :: cs) = stage.marked.sheet cs := by
  have gap : isBetween c = true := by rw [isBetween,Bool.or_assoc]; exact Bool.or_eq_true_iff.mpr (.inr mark)
  have other : isCharset c = false := by
    refine Bool.eq_false_iff.mpr fun charset => ?_
    obtain ⟨l,n,rfl,keyword,_⟩ := isCharset_iff charset
    simp [isMark,isLeaf,keyword] at mark
  cases stage with
  | lead => simp only [sheet,sheetFrom,leadingCharset?_other spacing other,rules_between gap,marked]
  | first | later => exact rules_between gap

theorem sheet_reach (stage : Stage) (cs : List Component) :
    (stage.reach cs).1.sheet (stage.reach cs).2 = stage.sheet cs := by
  fun_induction reach stage cs with
  | case1 | case4 => rfl
  | case2 stage c cs spacing ih => exact ih.trans (sheet_spacing spacing).symm
  | case3 stage c cs spacing mark ih => exact ih.trans (sheet_mark (by simpa using spacing) mark).symm

theorem sheet_nil : stage.sheet [] = [] := by
  cases stage with
  | lead => exact rules_none rfl
  | first | later => exact rules_none rfl

theorem isBetween_eq (c : Component) : isBetween c = (c.isSpacing || isMark c) := by rw [isBetween,isMark,Bool.or_assoc]

theorem reach_shown (stage : Stage) (shown : isBetween c = false) (cs : List Component) :
    stage.reach (c :: cs) = (stage,c :: cs) := by
  rw [isBetween_eq,Bool.or_eq_false_iff] at shown
  rw [reach,shown.1,shown.2]
  rfl

theorem reach_same (stage other : Stage) (cs : List Component) : (stage.reach cs).2 = (other.reach cs).2 := by
  induction cs generalizing stage other with
  | nil => rfl
  | cons c cs ih =>
    rw [reach,reach]
    split
    · exact ih stage other
    · split
      · exact ih stage.marked other.marked
      · rfl

theorem reach_found (reached : (stage.reach cs).2 = c :: after) : isBetween c = false := by
  fun_induction reach stage cs with
  | case1 => cases reached
  | case2 _ _ _ _ ih | case3 _ _ _ _ _ ih => exact ih reached
  | case4 stage d cs spacing mark =>
    cases (List.cons.inj reached).1
    rw [isBetween_eq,Bool.or_eq_false_iff]
    exact ⟨by simpa using spacing,by simpa using mark⟩

end Stage

theorem ended_none (reached : (stage.reach cs).2 = []) : ended stage cs = false := by
  rw [ended.eq_def]
  split
  · rfl
  · rename_i same
    rw [same] at reached
    cases reached

theorem ended_step (shown : isBetween c = false) (cs : List Component) : ended stage (c :: cs) =
    (isSemicolon c && cs.isEmpty || match back (stage.ends c) (c :: cs) with
      | [] => false
      | _ :: after => ended (stage.past c) after) := by
  have reached := stage.reach_shown shown cs
  rw [ended.eq_def]
  split
  · rename_i same
    rw [reached] at same
    cases same
  · rename_i same
    rw [reached] at same
    cases same
    refine congrArg _ ?_
    split
    · rename_i same; rw [same]
    · rename_i same; rw [same]

theorem ended_reach (stage : Stage) (cs : List Component) : ended (stage.reach cs).1 (stage.reach cs).2 = ended stage cs := by
  cases reached : (stage.reach cs).2 with
  | nil => rw [ended_none reached,ended_none rfl]
  | cons c rest =>
    have again := (stage.reach cs).1.reach_shown (Stage.reach_found reached) rest
    rw [ended.eq_def,ended.eq_def stage cs]
    rw [again,show stage.reach cs = ((stage.reach cs).1,c :: rest) from Prod.ext rfl reached]

theorem back_free (free : ∀ c ∈ cs, stop c = false) (more : List Component) : back stop (cs ++ more) = back stop more := by
  unfold back
  induction cs with
  | nil => rfl
  | cons c cs ih =>
    rw [List.cons_append,List.dropWhile_cons_of_pos (by rw [free c List.mem_cons_self]; rfl)]
    exact ih fun d inside => free d (List.mem_cons_of_mem _ inside)

theorem isKeyword_iff : isKeyword c = true ↔ ∃ l n, c = .leaf l ∧ l.token = .atKeyword n := by
  constructor
  · intro keyword
    cases c with
    | block => cases keyword
    | leaf l =>
      obtain ⟨token,text,place⟩ := l
      cases token with
      | atKeyword n => exact ⟨_,n,rfl,rfl⟩
      | _ => cases keyword
  · rintro ⟨⟨token,text,place⟩,n,rfl,same⟩
    cases same
    rfl

theorem isKeyword_charset (charset : isCharset c = true) : isKeyword c = true := by
  obtain ⟨l,n,rfl,keyword,_⟩ := isCharset_iff charset
  exact isKeyword_iff.mpr ⟨l,n,rfl,keyword⟩

theorem isKeyword_head (keyword : isKeyword c = true) : endsHead c = false := by
  obtain ⟨l,n,rfl,same⟩ := isKeyword_iff.mp keyword
  simp [endsHead,isSemicolon,isLeaf,isCurly,same]

theorem shape_other (other : isKeyword c = false) (plain : customProperty? (c :: cs) = none) (finish : Place) :
    shape finish c cs = styledShape finish (c :: cs) := by
  unfold shape
  rw [plain]
  cases c with
  | block => rfl
  | leaf l =>
    obtain ⟨token,text,place⟩ := l
    cases token with
    | atKeyword => cases other
    | _ => rfl

theorem customProperty?_parts (found : customProperty? (c :: cs) = some value) : isKeyword c = false ∧
    (∃ head, c :: cs = head ++ value ∧ ∀ d ∈ head, isCurly d = false) ∧
    ∀ more, customProperty? (c :: (cs ++ more)) = some (value ++ more) := by
  cases c with
  | block => cases found
  | leaf l =>
    obtain ⟨token,text,place⟩ := l
    cases token with
    | ident name =>
      unfold customProperty? at found ⊢
      dsimp only at found ⊢
      have parts := List.takeWhile_append_dropWhile (p := isSpacing) (l := cs)
      change cs.takeWhile isSpacing ++ skipSpacing cs = cs at parts
      cases spaced : skipSpacing cs with
      | nil => rw [spaced] at found; cases found
      | cons next behind =>
        rw [spaced] at found parts
        dsimp only at found
        split at found
        · rename_i custom
          cases found
          refine ⟨rfl,⟨.leaf ⟨.ident name,text,place⟩ :: (cs.takeWhile isSpacing ++ [next]),?_,?_⟩,fun more => ?_⟩
          · rw [List.cons_append,List.append_assoc,List.singleton_append,parts]
          · intro d inside
            rcases List.mem_cons.mp inside with rfl | inside
            · rfl
            · rcases List.mem_append.mp inside with spacing | same
              · have := List.mem_takeWhile_imp spacing
                cases d with
                | leaf => rfl
                | block => cases this
              · rw [List.mem_singleton.mp same]
                cases next with
                | leaf => rfl
                | block => simp [isLeaf] at custom
          · have front : skipSpacing (cs ++ more) = next :: (value ++ more) := by
              have dark : isSpacing next = false := by
                have := List.head?_dropWhile_not isSpacing cs
                rw [show cs.dropWhile isSpacing = next :: value from spaced] at this
                simpa using this
              rw [← parts,List.append_assoc,skipSpacing,List.dropWhile_append_of_pos fun d inside => List.mem_takeWhile_imp inside]
              simp [dark]
            rw [front]
            dsimp only
            rw [if_pos custom]
        · cases found
    | _ => cases found

theorem shape_behind (finish : Place) (c : Component) (cs : List Component) :
    (shape finish c cs).2 = (back (if isKeyword c then endsHead else isCurly) (c :: cs)).drop 1 := by
  cases keyword : isKeyword c with
  | true =>
    obtain ⟨l,n,rfl,same⟩ := isKeyword_iff.mp keyword
    have past : back endsHead ([.leaf l] ++ cs) = back endsHead cs := back_free (by simpa using isKeyword_head keyword) cs
    rw [if_pos rfl,show Component.leaf l :: cs = [.leaf l] ++ cs from rfl,past,shape_keyword same,atShape]
    cases back endsHead cs with
    | nil => rfl
    | cons d after => cases d <;> rfl
  | false =>
    rw [if_neg Bool.false_ne_true]
    cases plain : customProperty? (c :: cs) with
    | some value =>
      obtain ⟨_,⟨head,whole,free⟩,_⟩ := customProperty?_parts plain
      rw [whole,back_free free]
      unfold shape
      rw [plain]
    | none =>
      rw [shape_other keyword plain,styledShape]
      cases stopped : back isCurly (c :: cs) with
      | nil => rfl
      | cons d after =>
        have curly : isCurly d = true := by
          have := List.head?_dropWhile_not (fun c => !isCurly c) (c :: cs)
          rw [show (c :: cs).dropWhile (fun c => !isCurly c) = d :: after from stopped] at this
          simpa using this
        cases d with
        | leaf => cases curly
        | block => exact (apply_ite Prod.snd _ _ _).trans (ite_self _)

-- What an at-rule is does not depend on what is behind its end.
theorem atShape_cut (free : ∀ x ∈ cs, endsHead x = false) (stops : endsHead d = true) (finish : Place) (n : Text)
    (more : List Component) : (atShape finish n (cs ++ d :: more)).1 = (atShape finish n (cs ++ [d])).1 := by
  obtain ⟨front,back⟩ := front_cut free stops more
  obtain ⟨front',back'⟩ := front_cut free stops []
  rw [atShape,atShape,front,back,front',back']
  cases d <;> rfl

-- A rule that ends in a block, and is no custom property up to there, is none.
theorem customProperty?_braced (plain : customProperty? (c :: cs) = none) (parts : c :: cs = head ++ [d])
    (curly : isCurly d = true) (more : List Component) : customProperty? (c :: (cs ++ more)) = none := by
  cases head with
  | nil =>
    obtain ⟨rfl,rfl⟩ := List.cons.inj parts
    cases c with
    | leaf => cases curly
    | block => rfl
  | cons first rest =>
    obtain ⟨rfl,whole⟩ : c = first ∧ cs = rest ++ [d] := List.cons.inj parts
    subst whole
    obtain ⟨spacing,colon⟩ : isSpacing d = false ∧ d.isLeaf .colon = false := by
      cases d with
      | leaf => cases curly
      | block => exact ⟨rfl,rfl⟩
    have alone : customProperty? (c :: rest) = none := by
      cases found : customProperty? (c :: rest) with
      | none => rfl
      | some value => rw [(customProperty?_parts found).2.2 [d]] at plain; cases plain
    rw [List.append_assoc]
    exact customProperty?_cut spacing colon alone more

theorem shape_cut (other : isKeyword c = false) (parts : c :: cs = head ++ [d]) (free : ∀ x ∈ head, isCurly x = false)
    (stops : isCurly d = true) (finish : Place) (more : List Component) :
    nodesOf (shape finish c (cs ++ more)).1 = nodesOf (shape finish c cs).1 := by
  cases plain : customProperty? (c :: cs) with
  | some value =>
    obtain ⟨_,_,same⟩ := customProperty?_parts plain
    unfold shape
    rw [plain,same]
    rfl
  | none =>
    obtain ⟨front,back⟩ := front_cut free stops more
    obtain ⟨front',back'⟩ := front_cut free stops []
    rw [shape_other other (customProperty?_braced plain parts stops more),shape_other other plain,← List.cons_append,parts,
      List.append_assoc,List.singleton_append,styledShape,styledShape,front,back,front',back']
    cases d with
    | leaf => cases stops
    | block => dsimp only; split <;> rfl

namespace Stage

-- What the rule that begins with a component gives.
def nodes (stage : Stage) (first : Component) (rest : List Component) : Sheet :=
  if stage.keeps first then [.statement "charset" (collapse (texts (front isSemicolon rest)))]
  else if decide (stage = .first) && isCharset first then []
  else nodesOf (shape .start first rest).1

theorem ends_head {x : Component} (ends : stage.ends c x = true) : endsHead x = true := by
  unfold Stage.ends at ends
  split at ends
  · exact semicolon_ends ends
  · split at ends
    · exact ends
    · rw [endsHead,ends,Bool.or_true]

theorem keeps_keyword (keeps : stage.keeps c = true) : isKeyword c = true :=
  isKeyword_charset (Bool.and_eq_true_iff.mp keeps).2

theorem ends_keyword (keyword : isKeyword c = true) : stage.ends c c = false :=
  Bool.eq_false_iff.mpr fun ends => by
    have head := ends_head ends
    rw [isKeyword_head keyword] at head
    cases head

-- A rule is read, and then the list behind its end.
theorem sheet_step (shown : isBetween c = false) (cs : List Component) :
    stage.sheet (c :: cs) = stage.nodes c cs ++ (stage.past c).sheet ((back (stage.ends c) (c :: cs)).drop 1) := by
  have visible := dropWhile_visible shown cs
  have spacing : c.isSpacing = false := by
    rw [isBetween_eq,Bool.or_eq_false_iff] at shown
    exact shown.1
  have plain : ∀ veryFirst, (veryFirst && isCharset c) = false → (rules .start veryFirst (c :: cs)).sheet =
      nodesOf (shape .start c cs).1 ++ later.sheet ((back (if isKeyword c then endsHead else isCurly) (c :: cs)).drop 1) := by
    intro veryFirst other
    rw [rules_shape visible other,shape_behind]
    rfl
  cases charset : isCharset c with
  | false =>
    have keeps : stage.keeps c = false := by rw [Stage.keeps,charset,Bool.and_false]
    simp only [nodes,past,Stage.ends,keeps,charset,Bool.and_false,Bool.false_eq_true,↓reduceIte]
    cases stage with
    | lead => rw [sheet,sheetFrom,leadingCharset?_other spacing charset]; exact plain true (by rw [charset]; rfl)
    | first => exact plain true (by rw [charset]; rfl)
    | later => exact plain false rfl
  | true =>
    have keyword := isKeyword_charset charset
    have behind : ∀ stop, stop c = false → back stop (c :: cs) = back stop cs := fun stop free =>
      show back stop ([c] ++ cs) = _ from back_free (by simpa using free) cs
    have head := isKeyword_head keyword
    cases stage with
    | lead =>
      have keeps : lead.keeps c = true := by rw [Stage.keeps,charset]; rfl
      have semi : isSemicolon c = false := by rw [endsHead,Bool.or_eq_false_iff] at head; exact head.1
      simp only [nodes,past,Stage.ends,keeps,↓reduceIte,behind isSemicolon semi]
      rw [sheet,sheetFrom,leadingCharset?_charset charset]
      rfl
    | first =>
      have keeps : first.keeps c = false := rfl
      simp only [nodes,past,Stage.ends,keeps,charset,keyword,decide_true,Bool.and_self,Bool.false_eq_true,↓reduceIte,
        behind endsHead head]
      exact rules_charset visible charset
    | later =>
      have keeps : later.keeps c = false := rfl
      simp only [nodes,past,Stage.ends,keeps,reduceCtorEq,decide_false,Bool.false_and,Bool.false_eq_true,↓reduceIte]
      exact plain false rfl

theorem nodes_length (stage : Stage) (c : Component) (cs : List Component) : (stage.nodes c cs).length ≤ 1 := by
  unfold nodes
  split
  · exact Nat.le_refl 1
  · split
    · exact Nat.zero_le 1
    · cases (shape .start c cs).1 with
      | atBlock => rw [nodesOf]; split <;> exact Nat.le_refl 1
      | statement | styled => exact Nat.le_refl 1
      | invalid => exact Nat.zero_le 1

-- At-rules give no style rules.
theorem nodes_keyword (keyword : isKeyword c = true) (cs : List Component) {r : Rule} : .rule r ∉ stage.nodes c cs := by
  unfold nodes
  split
  · simp
  · split
    · exact List.not_mem_nil
    · obtain ⟨l,n,rfl,same⟩ := isKeyword_iff.mp keyword
      obtain ⟨node,params,one,at'⟩ := atShape_named .start n cs
      rw [shape_keyword same,one,List.mem_singleton]
      rintro rfl
      cases at'

-- What a rule gives does not depend on what is behind its end.
theorem nodes_cut (parts : c :: cs = head ++ [d]) (free : ∀ x ∈ head, stage.ends c x = false) (stops : stage.ends c d = true)
    (more : List Component) : stage.nodes c (cs ++ more) = stage.nodes c cs := by
  -- An at-rule does not end at its own keyword.
  have begins : isKeyword c = true → ∃ rest, head = c :: rest ∧ cs = rest ++ [d] := by
    intro keyword
    cases head with
    | nil =>
      obtain ⟨rfl,_⟩ := List.cons.inj parts
      rw [ends_keyword keyword] at stops
      cases stops
    | cons first rest =>
      obtain ⟨rfl,same⟩ := List.cons.inj parts
      exact ⟨rest,rfl,same⟩
  unfold nodes
  cases keeps : stage.keeps c with
  | true =>
    obtain ⟨rest,rfl,rfl⟩ := begins (keeps_keyword keeps)
    simp only [Stage.ends,keeps,↓reduceIte] at free stops ⊢
    have clear : ∀ x ∈ rest, isSemicolon x = false := fun x inside => free x (List.mem_cons_of_mem _ inside)
    rw [List.append_assoc,List.singleton_append,(front_cut clear stops more).1,(front_cut clear stops []).1]
  | false =>
    simp only [Stage.ends,keeps,Bool.false_eq_true,↓reduceIte] at free stops ⊢
    refine congrArg (fun nodes => if decide (stage = .first) && isCharset c then [] else nodes) ?_
    cases keyword : isKeyword c with
    | true =>
      obtain ⟨rest,rfl,rfl⟩ := begins keyword
      obtain ⟨l,n,rfl,same⟩ := isKeyword_iff.mp keyword
      simp only [keyword,↓reduceIte] at free stops
      rw [List.append_assoc,List.singleton_append,shape_keyword same,shape_keyword same]
      exact congrArg nodesOf (atShape_cut (fun x inside => free x (List.mem_cons_of_mem _ inside)) stops .start n more)
    | false =>
      simp only [keyword,Bool.false_eq_true,↓reduceIte] at free stops
      exact shape_cut keyword parts free stops .start more

end Stage

end StyleTrim.Css.Read
