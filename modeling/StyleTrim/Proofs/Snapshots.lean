import StyleTrim.Proofs.ClassTokens
import StyleTrim.Proofs.Legibility
import StyleTrim.Proofs.Levels
import StyleTrim.Proofs.Spacing
namespace StyleTrim
open Text

-- What an oracle answers that is asked about the markup of a page.

-- A word in which no further separator occurs stays one when there are more of them.
theorem Text.words_coarse {p q : Char → Bool} (more : ∀ c, p c = true → q c = true) {s t : Text} (word : t ∈ words p s)
    (solid : ∀ c ∈ t, q c = false) : t ∈ words q s := by
  rcases split_or_solid p s with ⟨u,c,v,rfl,cuts⟩ | whole
  · rw [words_append cuts] at word
    rw [words_append (more c cuts)]
    rcases List.mem_append.mp word with first | later
    · have : u.length < (u ++ c :: v).length := by simp
      exact List.mem_append_left _ (words_coarse more first solid)
    · have : v.length < (u ++ c :: v).length := by simp [Nat.lt_add_left]
      exact List.mem_append_right _ (words_coarse more later solid)
  · have same := mem_words_solid whole word
    rw [same] at word solid
    have filled : s ≠ [] := by
      rintro rfl
      cases word
    rw [same,words_single solid filled]
    exact List.mem_singleton_self s
termination_by s.length

namespace Css

-- A character that a name is written with, and that parts no classes.
def isNamePart (c : Char) : Bool := Scan.isNameChar c && c ≠ '\x00' && !isBlank c

-- A name that is written as it is, and is a single class.
def isPlainName (s : Text) : Bool := s.head?.any Scan.isNameStart && s.all isNamePart

theorem plain_solid {s : Text} (plain : isPlainName s = true) : ∀ c ∈ s, isBlank c = false := by
  intro c inside
  rw [isPlainName,Bool.and_eq_true,List.all_eq_true] at plain
  have part := plain.2 c inside
  rw [isNamePart,Bool.and_eq_true,Bool.not_eq_true'] at part
  exact part.2

-- What may follow a name here.
def EndsName (z : Text) : Prop := z = [] ∨ ∃ v, z = ' ' :: v

variable {s t z name : Text} {c : Char} {p : Place}

namespace Scan

theorem name_plain (plain : s.all isNamePart = true) (ends_ : EndsName z) : Scan.name (s ++ z) = (s,z) := by
  induction s with
  | nil =>
    rcases ends_ with rfl | ⟨v,rfl⟩
    · rw [List.nil_append,Scan.name]
    · rw [List.nil_append,Scan.name]
      rfl
  | cons c s ih =>
    simp only [List.all_cons,isNamePart,Bool.and_eq_true,decide_eq_true_eq] at plain
    obtain ⟨⟨⟨part,whole⟩,_⟩,more⟩ := plain
    have escape : c ≠ '\\' := by
      rintro rfl
      exact absurd part (by decide)
    rw [List.cons_append,Scan.name,if_neg escape,if_pos part,ih more,meant,if_neg whole]
    rfl

theorem digit_nameStart (digit : isDigit c = true) : isNameStart c = false := by
  simp only [isDigit,Bool.and_eq_true,decide_eq_true_eq] at digit
  have low : 48 ≤ c.toNat := digit.1
  have high : c.toNat ≤ 57 := digit.2
  clear digit
  have same := Char.ofNat_toNat c
  generalize c.toNat = n at low high same
  subst same
  interval_cases n <;> rfl

theorem start_plain (start : isNameStart c = true) : isAsciiBlank c = false ∧ isDigit c = false := by
  constructor
  · cases blank : isAsciiBlank c with
    | false => rfl
    | true =>
      have other := ascii_nameChar blank
      rw [isNameChar,start] at other
      cases other
  · cases digit : isDigit c with
    | false => rfl
    | true =>
      rw [digit_nameStart digit] at start
      cases start

theorem lexFrom_first {k : Token} (read : Scan.token c s = (k,z)) (p : Place) :
    ∃ l q, lexFrom p (c :: s) = l :: lexFrom q z ∧ l.token = k := by
  have lexed := lexFrom.eq_2 p c s
  rw [read] at lexed
  exact ⟨_,_,lexed,rfl⟩

-- A plain name is read whole.
theorem lexFrom_plain (plain : isPlainName s = true) (ends_ : EndsName z) (p : Place) :
    ∃ l q, lexFrom p (s ++ z) = l :: lexFrom q z ∧ l.token = .ident s := by
  rw [isPlainName,Bool.and_eq_true] at plain
  obtain ⟨start,parts⟩ := plain
  cases s with
  | nil => cases start
  | cons c s =>
    have start : isNameStart c = true := start
    obtain ⟨dark,digit⟩ := start_plain start
    have read : Scan.token c (s ++ z) = (.ident (c :: s),z) := by
      unfold Scan.token
      rw [if_neg (by simp [dark]),if_neg (by simp [digit]),if_pos start]
      refine identLike_plain (name_plain parts ends_) ?_
      rcases ends_ with rfl | ⟨v,rfl⟩ <;> nofun
    exact lexFrom_first read p

end Scan

theorem lex_tag (plain : isPlainName t = true) : ∃ l, lex t = [l] ∧ l.token = .ident t := by
  obtain ⟨l,q,lexed,token⟩ := Scan.lexFrom_plain plain (.inl rfl) .start
  rw [List.append_nil,lexFrom] at lexed
  exact ⟨l,lexed,token⟩

theorem lex_classIn (tag : isPlainName t = true) (plain : isPlainName name = true) : ∃ l₁ l₂ l₃ l₄,
    lex (t ++ " ." ++ name) = [l₁,l₂,l₃,l₄] ∧ l₁.token = .ident t ∧ l₂.token = .blank ∧ l₃.token = .delim '.' ∧
      l₄.token = .ident name := by
  obtain ⟨l₁,q₁,first,token₁⟩ := Scan.lexFrom_plain tag (z := ' ' :: '.' :: name) (.inr ⟨_,rfl⟩) .start
  have digit : Scan.startsNumber ('.' :: name) = false := by
    have start := plain
    rw [isPlainName,Bool.and_eq_true] at start
    cases name with
    | nil => rfl
    | cons c name => exact (Scan.start_plain (c := c) start.1).2
  have point : Scan.token '.' name = (.delim '.',name) := by
    show (if Scan.startsNumber ('.' :: name) then _ else _) = _
    rw [digit,if_neg Bool.false_ne_true]
  have blank : Scan.token ' ' ('.' :: name) = (.blank,'.' :: name) := rfl
  obtain ⟨l₂,q₂,second,token₂⟩ := Scan.lexFrom_first blank q₁
  obtain ⟨l₃,q₃,third,token₃⟩ := Scan.lexFrom_first point q₂
  obtain ⟨l₄,q₄,last,token₄⟩ := Scan.lexFrom_plain plain (.inl rfl) q₃
  rw [List.append_nil,lexFrom] at last
  refine ⟨l₁,l₂,l₃,l₄,?_,token₁,token₂,token₃,token₄⟩
  rw [lex,List.append_assoc,← last,← third,← second]
  exact first

namespace Query

-- One branch without blocks.
theorem read?_leaves (cs : List Component) {chain : Chain} (whole : Component.ofText s = cs) (plain : withoutComments cs = cs)
    (single : branches cs = [cs]) (flat : Component.depths cs = 0)
    (reads : ∀ read, whole? (Query.chain ⟨true,true⟩ read cs) = .ok chain) : read? s = some [chain] := by
  rw [read?,whole,plain,flat]
  simp only [argument,single,strictly,reads,List.mapM_cons,List.mapM_nil]
  rfl

theorem simples_missing {limits : Limits} {read : ReadArgument} {cs : List Component} (missing : simplePart limits read cs = .missing) :
    simples limits read cs = .ok ([],cs) := by
  rw [simples]
  split
  · rfl
  all_goals
    rename_i other
    rw [missing] at other
    cases other

theorem simples_found {limits : Limits} {read : ReadArgument} {cs rest : List Component} {tests : List Test}
    (found : simplePart limits read cs = .found tests rest) :
    simples limits read cs = (simples limits read rest).map fun more => (tests ++ more.1,more.2) := by
  rw [simples]
  split
  · rename_i other
    rw [found] at other
    cases other
  · rename_i other
    rw [found] at other
    cases other
  · rename_i same
    rw [found] at same
    cases same
    rfl

theorem simples_nil (limits : Limits) (read : ReadArgument) : simples limits read [] = .ok ([],[]) := simples_missing rfl

theorem simples_blank {l : Lexeme} (blank : l.token = .blank) (cs : List Component) (limits : Limits) (read : ReadArgument) :
    simples limits read (.leaf l :: cs) = .ok ([],.leaf l :: cs) :=
  simples_missing (by simp [simplePart,Component.token,blank])

theorem simples_class {l₁ l₂ : Lexeme} (point : l₁.token = .delim '.') (ident : l₂.token = .ident name) (limits : Limits)
    (read : ReadArgument) : simples limits read [.leaf l₁,.leaf l₂] = .ok ([.hasClass name],[]) := by
  have found : simplePart limits read [.leaf l₁,.leaf l₂] = .found [.hasClass name] [] := by
    simp [simplePart,Component.token,point,ident]
  rw [simples_found found,simples_nil]
  rfl

theorem read?_tag (plain : isPlainName t = true) : read? t = some [.only [.tag t]] := by
  obtain ⟨l,lexed,token⟩ := lex_tag plain
  refine read?_leaves [.leaf l] ?_ ?_ ?_ rfl fun read => ?_
  · rw [Component.ofText,lexed]
    simp [Component.ofLexemes,Component.gather,token,Token.opens?,Component.closeAll]
  · simp [withoutComments,Component.isLeaf,token]
  · simp [branches,Component.isLeaf,token]
  · simp [Query.chain,chainFrom,compound,Component.skipSpacing,Component.isSpacing,typePart,Component.token,token,isBar,simples_nil,
      Except.map,relation?,mark?,whole?]

theorem read?_classIn (tag : isPlainName t = true) (plain : isPlainName name = true) :
    read? (t ++ " ." ++ name) = some [.link (.only [.tag t]) .descendant [.hasClass name]] := by
  obtain ⟨l₁,l₂,l₃,l₄,lexed,token₁,token₂,token₃,token₄⟩ := lex_classIn tag plain
  refine read?_leaves [.leaf l₁,.leaf l₂,.leaf l₃,.leaf l₄] ?_ ?_ ?_ rfl fun read => ?_
  · rw [Component.ofText,lexed]
    simp [Component.ofLexemes,Component.gather,token₁,token₂,token₃,token₄,Token.opens?,Component.closeAll]
  · simp [withoutComments,Component.isLeaf,token₁,token₂,token₃,token₄]
  · simp [branches,Component.isLeaf,token₁,token₂,token₃,token₄]
  · simp [Query.chain,chainFrom,compound,Component.skipSpacing,Component.isSpacing,typePart,Component.token,token₁,token₂,token₃,
      isBar,Component.isLeaf,simples_blank token₂,simples_class token₃ token₄,Except.map,relation?,mark?,whole?]

variable {f : Html.Focus}

theorem finds_tag : finds [.only [.tag t]] f = f.hasTag t := by
  simp [finds,anyEnds,Chain.ends,allHold,Test.holds]

theorem finds_classIn : finds [.link (.only [.tag t]) .descendant [.hasClass name]] f =
    (f.hasClass name && f.ancestors.any (·.hasTag t)) := by
  have all : (f.ancestors.takeWhile fun _ => !false) = f.ancestors := by
    have whole : (f.ancestors ++ []).takeWhile (fun _ => !false) = f.ancestors ++ [].takeWhile _ :=
      List.takeWhile_append_of_pos fun _ _ => rfl
    rwa [List.append_nil,List.takeWhile_nil,List.append_nil] at whole
  cases has : f.hasClass name <;>
    simp only [finds,anyEnds,Chain.ends,allHold,Test.holds,has,Relation.leftsOfAll,Relation.lefts,all,List.filter_cons,List.filter_nil,
      List.foldl_cons,List.foldl_nil,isAmong,List.any_nil,Bool.and_true,Bool.and_false,Bool.or_false,Bool.true_and,Bool.false_and,
      Bool.false_eq_true,if_true,if_false,List.nil_append]

end Query

end Css

namespace Figure

-- An element with the tags of those it lies in, nearest first.
structure Sight where
  tag : Text
  attributes : List Attribute
  above : List Text
deriving DecidableEq

mutual
-- The elements in document order.
def sights (above : List Text) : Figure → List Sight
  | .document children => sightsIn above children
  | .element tag attributes children => ⟨tag,attributes,above⟩ :: sightsIn (tag :: above) children
  | _ => []
def sightsIn (above : List Text) : List Figure → List Sight
  | [] => []
  | t :: more => sights above t ++ sightsIn above more
end

theorem sightsIn_append (above : List Text) (ts us : List Figure) : sightsIn above (ts ++ us) = sightsIn above ts ++ sightsIn above us := by
  induction ts with
  | nil => rfl
  | cons t more ih => rw [List.cons_append,sightsIn,sightsIn,ih,List.append_assoc]

mutual
theorem sights_seen? (above : List Text) (t : Figure) : sightsIn above (seen? t).toList = sights above t := by
  match t with
  | .document children =>
    rw [sights,← sights_seen above children]
    exact List.append_nil _
  | .element tag attributes children =>
    rw [sights,← sights_seen (tag :: above) children]
    exact List.append_nil _
  | .text value => cases value <;> rfl
  | .doctype _ | .comment _ => rfl
-- Texts that cannot be seen make no difference to the elements.
theorem sights_seen (above : List Text) (ts : List Figure) : sightsIn above (seen ts) = sightsIn above ts := by
  match ts with
  | [] => rfl
  | t :: more => rw [seen,sightsIn_append,sights_seen? above t,sights_seen above more,sightsIn]
end

-- The tags that an element has around it, up to the first template.
def Sight.reach (s : Sight) : List Text := s.above.takeWhile fun tag => tag != ("template" : Text)

def Sight.hasClass (s : Sight) (name : Text) : Bool :=
  (s.attributes.find? (·.name == ("class" : Text))).any fun a => (words isAsciiBlank a.value).contains name

end Figure

namespace Html.Focus
variable {f : Focus} {above : List Text}

def tags (fs : List Focus) : List Text := fs.map (·.name.tag)

-- The tags around an element as they are known on a page: nothing is known beyond a template.
def Known (above up : List Text) : Prop := ∃ beyond, above = up ++ beyond ∧ ∀ tag ∈ beyond.head?, tag = ("template" : Text)

-- The element of a page that an element of a document is seen as.
structure Shows (s : Figure.Sight) (f : Focus) : Prop where
  tag : f.name.tag = s.tag
  attributes : f.properties.map Dom.attributeOf = s.attributes
  above : Known s.above (tags f.ancestors)

theorem Known.inside {tag : Text} (known : Known above (tags f.ancestors)) (same : f.name.tag = tag) :
    Known (tag :: above) (tags (f :: f.ancestors)) := by
  obtain ⟨beyond,whole,template⟩ := known
  refine ⟨beyond,?_,template⟩
  rw [whole,← same]
  rfl

mutual
theorem all_shows {f : Focus} {above : List Text} (t : Tree) (sound : t.isSound = true) (own : f.tree = t) (known : Known above (tags f.ancestors)) :
    List.Forall₂ Shows (Figure.sights above t.figure) (all f t) := by
  match t with
  | .doctype _ | .text _ | .comment _ => exact .nil
  | .element serial name properties contents children =>
    simp only [Tree.isSound,Bool.and_eq_true,Bool.or_eq_true] at sound
    obtain ⟨⟨named,inner⟩,below⟩ := sound
    have first : Shows ⟨name.tag,properties.map Dom.attributeOf,above⟩ f :=
      ⟨by rw [Focus.name,own],by rw [Focus.properties,own],known⟩
    rw [all,Tree.figure,Figure.sights,Figure.sightsIn_append]
    refine .cons first (List.rel_append ?_ ?_)
    · rcases named with none | template
      · rw [List.isEmpty_iff.mp none]
        exact .nil
      · refine allIn_shows contents [] inner fun t b a => ⟨rfl,name.tag :: above,rfl,?_⟩
        rintro _ ⟨⟩
        exact congrArg Name.tag (Builder.isHtml_iff.mp template)
    · exact allIn_shows children [] below fun t b a => ⟨rfl,known.inside (by rw [Focus.name,own])⟩
theorem allIn_shows {put : Place} {above : List Text} (trees before : List Tree) (sound : Tree.allSound trees = true)
    (placed : ∀ t b a, (put t b a).tree = t ∧ Known above (tags (put t b a).ancestors)) :
    List.Forall₂ Shows (Figure.sightsIn above (Tree.figures trees)) (allIn put before trees) := by
  match trees with
  | [] => exact .nil
  | t :: after =>
    rw [Tree.allSound,Bool.and_eq_true] at sound
    rw [Tree.figures,Figure.sightsIn,allIn]
    obtain ⟨own,known⟩ := placed t before after
    exact List.rel_append (all_shows t sound.1 own known) (allIn_shows after (t :: before) sound.2 placed)
end

theorem hasTag_eq {t : Text} (low : lower t = t) (f : Focus) : f.hasTag t = (f.name.tag == t) := by
  rw [hasTag,named,low,ite_self]

theorem Shows.hasTag {s : Figure.Sight} {t : Text} (shows : Shows s f) (low : lower t = t) : f.hasTag t = (s.tag == t) := by
  rw [hasTag_eq low,shows.tag]

theorem countP_tag {ss : List Figure.Sight} {fs : List Focus} {t : Text} (shown : List.Forall₂ Shows ss fs) (low : lower t = t) :
    fs.countP (·.hasTag t) = (ss.map (·.tag)).count t := by
  induction shown with
  | nil => rfl
  | cons one _ ih => rw [List.countP_cons,List.map_cons,List.count_cons,ih,one.hasTag low]

theorem exists_shown {ss : List Figure.Sight} {fs : List Focus} {s : Figure.Sight} (shown : List.Forall₂ Shows ss fs) (inside : s ∈ ss) :
    ∃ f ∈ fs, Shows s f := by
  induction shown with
  | nil => cases inside
  | cons one _ ih =>
    rcases List.mem_cons.mp inside with rfl | later
    · exact ⟨_,List.mem_cons_self,one⟩
    · obtain ⟨f,listed,shows⟩ := ih later
      exact ⟨f,List.mem_cons_of_mem _ listed,shows⟩

-- What stands around an element below the first template is around it on the page.
theorem Known.reach {s : Figure.Sight} {up : List Text} {t : Text} (known : Known s.above up) (reached : t ∈ s.reach) : t ∈ up := by
  obtain ⟨beyond,whole,template⟩ := known
  rw [Figure.Sight.reach,whole] at reached
  clear whole
  induction up with
  | nil =>
    cases beyond with
    | nil => cases reached
    | cons tag more =>
      rw [template tag rfl,List.nil_append,List.takeWhile_cons_of_neg (by simp)] at reached
      cases reached
  | cons tag up ih =>
    rw [List.cons_append,List.takeWhile_cons] at reached
    split at reached
    · exact (List.mem_cons.mp reached).elim (fun same => same ▸ List.mem_cons_self) fun later => List.mem_cons_of_mem tag (ih later)
    · cases reached

theorem class_name {p : Property} (named : p.fullName = ("class" : Text)) : p.name = ("class" : Text) := by
  rw [Property.fullName] at named
  split at named
  · exact named
  · rename_i mark _
    have colon : ':' ∈ mark ++ ':' :: p.name := by simp
    rw [named] at colon
    exact absurd colon (by decide)

theorem Shows.hasClass {s : Figure.Sight} {name : Text} (shows : Shows s f) (plain : Css.isPlainName name = true)
    (has : s.hasClass name = true) : f.hasClass name = true := by
  obtain ⟨a,first,word⟩ := (Option.any_eq_true _ _).mp has
  have inside := List.mem_of_find?_eq_some first
  have named : a.name = ("class" : Text) := beq_iff_eq.mp (List.find?_some (p := fun a : StyleTrim.Attribute => a.name == ("class" : Text)) first)
  rw [← shows.attributes] at inside
  obtain ⟨p,listed,rfl⟩ := List.mem_map.mp inside
  refine List.any_eq_true.mpr ⟨p,listed,?_⟩
  rw [class_name named,beq_self_eq_true,Bool.true_and,List.contains_iff_mem]
  exact words_coarse (fun _ => Css.blank_of_ascii) (List.contains_iff_mem.mp word) (Css.plain_solid plain)

end Html.Focus

namespace Dom
variable {d : Dom} {t name : Text}

-- The page that is read from the markup of a legible document has the elements of that document, with all that is around them.
theorem page_shows (legible : Figure.Legible (Figure.seen d.figures)) : ∃ fs, (Html.Page.read d.markup).elements.Perm fs ∧
    List.Forall₂ Html.Focus.Shows (Figure.sightsIn [] d.figures) fs := by
  obtain ⟨same,sound,none⟩ := (markup_read legible).2 .page
  refine ⟨_,List.mergeSort_perm _ _,?_⟩
  rw [none,List.flatMap_nil,List.append_nil,← Figure.sights_seen,← same]
  exact Html.Focus.allIn_shows _ [] sound fun _ _ _ => ⟨rfl,[],rfl,nofun⟩

theorem count_tag (legible : Figure.Legible (Figure.seen d.figures)) (plain : Css.isPlainName t = true) (low : lower t = t) :
    (Oracle.ofMarkup .document d.markup).count t = some (((Figure.sightsIn [] d.figures).map (·.tag)).count t) := by
  obtain ⟨fs,among,shown⟩ := page_shows legible
  have finds : Css.Query.finds [.only [.tag t]] = (·.hasTag t) := funext fun _ => Css.Query.finds_tag
  rw [Oracle.ofMarkup,Oracle.ofPage]
  simp only [Css.Query.read?_tag plain,Option.map_some,Css.Query.on,finds]
  rw [← List.countP_eq_length_filter,among.countP_eq,Html.Focus.countP_tag shown low]

theorem count_classIn (legible : Figure.Legible (Figure.seen d.figures)) (tag : Css.isPlainName t = true) (low : lower t = t)
    (plain : Css.isPlainName name = true) {s : Figure.Sight} (inside : s ∈ Figure.sightsIn [] d.figures)
    (has : s.hasClass name = true) (reached : t ∈ s.reach) :
    ∃ n, (Oracle.ofMarkup .document d.markup).count (t ++ " ." ++ name) = some (n + 1) := by
  obtain ⟨fs,among,shown⟩ := page_shows legible
  obtain ⟨f,listed,shows⟩ := Html.Focus.exists_shown shown inside
  have around : f.ancestors.any (·.hasTag t) = true := by
    obtain ⟨g,above,tag⟩ := List.mem_map.mp (shows.above.reach reached)
    refine List.any_eq_true.mpr ⟨g,above,?_⟩
    rw [Html.Focus.hasTag_eq low,tag,beq_self_eq_true]
  have found : f ∈ (Html.Page.read d.markup).elements.filter
      (Css.Query.finds [.link (.only [.tag t]) .descendant [.hasClass name]]) := by
    refine List.mem_filter.mpr ⟨among.mem_iff.mpr listed,?_⟩
    rw [Css.Query.finds_classIn,shows.hasClass plain has,around]
    rfl
  obtain ⟨n,length⟩ := Nat.exists_eq_add_one.mpr (List.length_pos_of_mem found)
  refine ⟨n,?_⟩
  rw [Oracle.ofMarkup,Oracle.ofPage]
  simp only [Css.Query.read?_classIn tag plain,Option.map_some,Css.Query.on]
  rw [length]

end Dom

namespace Document

-- The oracle that selectors are put to answers about the drawn page: it has the same tree before it, counts its elements, and
-- finds a class below a tag.
theorem snapshot_answers {page : Dom} {room : Nat} (level : Level) (raw : Text) (drawn : Amp.drawPageTo room (Dom.read raw) = some page)
    (legible : Figure.Legible (Figure.seen page.figures)) :
    Html.Tree.figures (Html.build .page page.markup).trees = Figure.seen page.figures ∧
    (∃ fs, (Html.Page.read page.markup).elements.Perm fs ∧ List.Forall₂ Html.Focus.Shows (Figure.sightsIn [] page.figures) fs) ∧
    ∃ p, prepare room level raw = some p ∧ ∀ t, Css.isPlainName t = true → lower t = t →
      p.oracle.count t = some (((Figure.sightsIn [] page.figures).map (·.tag)).count t) ∧
      ∀ s ∈ Figure.sightsIn [] page.figures, t ∈ s.reach → ∀ name, Css.isPlainName name = true → s.hasClass name = true →
        ∃ n, p.oracle.count (t ++ " ." ++ name) = some (n + 1) := by
  have asked : (Prepared.of level page).oracle = Oracle.ofMarkup .document page.markup := rfl
  refine ⟨((Dom.markup_read legible).2 .page).1,Dom.page_shows legible,_,prepare_drawn drawn level,fun t plain low => ?_⟩
  rw [asked]
  refine ⟨Dom.count_tag legible plain low,fun s inside reached name single has => ?_⟩
  exact Dom.count_classIn legible plain low single inside has reached

-- A component that draws two boxes around its text.
def fittedPage : Text := "<div><amp-fit-text>x</amp-fit-text></div>"

def fittedLayout : Html.Layout where
  before := []
  doctype := none
  behind := []
  attributes := []
  preface := []
  headAttributes := []
  head := []
  between := []
  bodyAttributes := []
  body := [.element "div" [] [.element "amp-fit-text" [] [.element "div" [⟨"class","i-amphtml-fit-text-content"⟩]
    [.element "div" [⟨"class","i-amphtml-fit-text-content-inner"⟩] [.text "x"]]]]]
  postscript := []
  after := []

theorem fitted_drawn : ∃ page, Amp.drawPageTo 1 (Dom.read fittedPage) = some page ∧ Figure.seen page.figures = fittedLayout.figures := by
  have seen : (Amp.drawPageTo 1 (Dom.read fittedPage)).map (fun page => Figure.seen page.figures) = some fittedLayout.figures := by
    rw [show fittedPage = _ from chars_of_literal rfl]
    decide +kernel
  exact Option.map_eq_some_iff.mp seen

theorem snapshot_answers_fitted : ∃ page, Amp.drawPageTo 1 (Dom.read fittedPage) = some page ∧ Figure.Legible (Figure.seen page.figures) ∧
    ∃ p, prepare 1 .document fittedPage = some p ∧ p.oracle.count "div" = some 3 ∧
      ∃ n, p.oracle.count "div .i-amphtml-fit-text-content" = some (n + 1) := by
  obtain ⟨page,drawn,figures⟩ := fitted_drawn
  have legible : Figure.Legible (Figure.seen page.figures) := ⟨fittedLayout,by decide +kernel,figures.symm⟩
  obtain ⟨_,_,p,prepared,answers⟩ := snapshot_answers .document fittedPage drawn legible
  obtain ⟨counts,finds⟩ := answers "div" (by decide +kernel) (by decide +kernel)
  rw [← Figure.sights_seen,figures] at counts finds
  refine ⟨page,drawn,legible,p,prepared,counts,?_⟩
  exact finds ⟨"div",[⟨"class","i-amphtml-fit-text-content"⟩],["amp-fit-text","div","body","html"]⟩
    (by decide +kernel) (by decide +kernel) "i-amphtml-fit-text-content" (by decide +kernel) (by decide +kernel)

end Document
end StyleTrim
