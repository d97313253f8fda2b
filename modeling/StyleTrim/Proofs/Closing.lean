import StyleTrim.Proofs.Wording
namespace StyleTrim.Html
open Text

-- What an end tag does to the innermost element.

-- The classes of tags that the rules of the body go by at the end of an element.
inductive Ending where
  | template
  | body
  | html
  | enclosing
  | form
  | paragraph
  | item
  | term
  | heading
  | formatting
  | object
  | lineBreak
  | other
deriving DecidableEq

namespace Ending

def tags : Ending → List String
  | template => ["template"]
  | body => ["body"]
  | html => ["html"]
  | enclosing => ["address","article","aside","blockquote","button","center","details","dialog","dir",
      "div","dl","fieldset","figcaption","figure","footer","header","hgroup","listing","main","menu","nav",
      "ol","pre","search","section","summary","ul"]
  | form => ["form"]
  | paragraph => ["p"]
  | item => ["li"]
  | term => ["dd","dt"]
  | heading => Name.headings
  | formatting => ["a","b","big","code","em","font","i","nobr","s","small","strike","strong","tt","u"]
  | object => ["applet","marquee","object"]
  | lineBreak => ["br"]
  | other => []

def ordered : List Ending :=
  [template,body,html,enclosing,form,paragraph,item,term,heading,formatting,object,lineBreak]

def of (tag : Text) : Ending := classOf tags ordered other tag

-- The end tags that close the innermost element, if it is of their name, and do nothing else.
def pops : Ending → Bool
  | enclosing | paragraph | item | term | heading | other => true
  | _ => false

end Ending

namespace Kind
variable {tag : Text} {words : List String}

def pops : Kind → Bool
  | block | heading | preformatted | item | term | button | option | ruby | rubyText | other => true
  | _ => false

def formats : Kind → Bool
  | link | formatting | unbroken => true
  | _ => false

-- Elements that change the mode as long as they are innermost.
def setsMode : Kind → Bool
  | html | head | body | frameset | table | select | part => true
  | _ => false

-- The tags of those of the kinds for which something holds.
def tagsWhere (q : Kind → Bool) : List String := (telling.filter q).flatMap tags

-- A tag of a kind for which it does not hold is none of them.
theorem apart {q : Kind → Bool} (not : q (of tag) = false) (known : words ⊆ tagsWhere q) : isOneOf tag words = false := by
  rw [isOneOf,List.contains_eq_mem,decide_eq_false_iff_not]
  intro inside
  obtain ⟨w,listed,rfl⟩ := List.mem_map.mp inside
  obtain ⟨k,among,isTag⟩ := List.mem_flatMap.mp (known listed)
  obtain ⟨tells,holds⟩ := List.mem_filter.mp among
  have isKind : of w.toList = k := by
    rw [of_iff tells,isOneOf,List.contains_iff_mem]
    exact List.mem_map_of_mem isTag
  rw [isKind,holds] at not
  cases not

-- How an end tag is read by the kind of its start tag.
def endsAs (k : Kind) (e : Ending) : Bool :=
  (!k.pops || e.pops) && (!k.formats || e = .formatting) && (k ≠ form || e = .form) && (k ≠ object || e = .object)

theorem endsAs_of (tag : Text) : (of tag).endsAs (Ending.of tag) = true := by
  have known : (ordered.all fun k => (ofStrings k.tags).all fun w => k.endsAs (Ending.of w)) = true := by decide +kernel
  have others : (Ending.ordered.all fun e => (ofStrings e.tags).all fun w => (of w ≠ other : Bool)) = true := by decide +kernel
  have named : ∀ e : Ending, e ≠ .other → e ∈ Ending.ordered := by
    intro e
    cases e <;> decide
  have member : ∀ {words : List String}, isOneOf tag words = true → tag ∈ ofStrings words := by
    intro words inside
    rwa [isOneOf,List.contains_iff_mem] at inside
  by_cases unknown : of tag = other
  · by_cases last : Ending.of tag = .other
    · rw [unknown,last]
      rfl
    · have inside := member (classOf_mem rfl last)
      exact absurd unknown (of_decide_eq_true (List.all_eq_true.mp (List.all_eq_true.mp others _ (named _ last)) tag inside))
  · have inside := member (of_mem rfl unknown)
    exact List.all_eq_true.mp (List.all_eq_true.mp known _ (mem_ordered _ unknown)) tag inside

theorem ending_of (tag : Text) : ((of tag).pops = true → (Ending.of tag).pops = true) ∧
    ((of tag).formats = true → Ending.of tag = .formatting) ∧ (of tag = form → Ending.of tag = .form) ∧
    (of tag = object → Ending.of tag = .object) := by
  have read := endsAs_of tag
  simp only [endsAs,Bool.and_eq_true,Bool.or_eq_true,Bool.not_eq_true',decide_eq_true_eq] at read
  obtain ⟨⟨⟨pops,formats⟩,form⟩,object⟩ := read
  refine ⟨fun holds => pops.resolve_left ?_,fun holds => formats.resolve_left ?_,fun same => form.resolve_left (· same),
    fun same => object.resolve_left (· same)⟩
  · simp [holds]
  · simp [holds]

end Kind

namespace Builder
variable {b b' b₂ : Builder} {p q : Place} {n : Name} {id : NodeId} {outer : List NodeId} {tag : Text} {ts : List Figure}

-- The innermost element of a state, with its name.
structure Tops (b : Builder) (id : NodeId) (outer : List NodeId) (n : Name) : Prop where
  opened : b.opened = id :: outer
  named : b.name id = n

theorem Tops.currentIs (tops : b.Tops id outer n) (q : Name → Bool) : b.currentIs q = q n := by
  rw [Builder.currentIs,current?,tops.opened]
  exact congrArg q tops.named

theorem Tops.inScope (tops : b.Tops id outer ⟨.html,tag⟩) (limit : Name → Bool) : b.inScope limit tag = true := by
  rw [Builder.inScope,tops.opened,reaches,isHtml,tops.named,isHtml_iff.mpr rfl]
  rfl

theorem Tops.popTo {q : Name → Bool} (tops : b.Tops id outer n) (holds : q n = true) : b.popTo q = b := by
  rw [Builder.popTo,tops.opened,List.dropWhile_cons_of_neg (by simp [tops.named,holds]),← tops.opened]

theorem Tops.pop (tops : b.Tops id outer n) : b.pop = {b with opened := outer} := by
  rw [Builder.pop,tops.opened]
  rfl

theorem Tops.popThrough {q : Name → Bool} (tops : b.Tops id outer n) (holds : q n = true) :
    b.popThrough q = {b with opened := outer} := by
  rw [Builder.popThrough,tops.popTo holds,tops.pop]

theorem Tops.popThroughHtml (tops : b.Tops id outer ⟨.html,tag⟩) : b.popThroughHtml tag = {b with opened := outer} :=
  tops.popThrough (isHtml_iff.mpr rfl)

theorem Tops.closeOther (tops : b.Tops id outer ⟨.html,tag⟩) : b.closeOther tag = {b with opened := outer} := by
  have found : b.isHtml tag id = true := by rw [isHtml,tops.named,isHtml_iff.mpr rfl]
  rw [Builder.closeOther,tops.opened,List.dropWhile_cons_of_neg (by simp [found])]
  simp only [found,if_true]

-- An element whose end may not be left out stays open.
theorem Tops.closeImplied {except : Text} (tops : b.Tops id outer n) (stays : (n.isIn Name.impliedEnds && !n.isHtml except) = false) :
    b.closeImplied except = b := by
  rw [Builder.closeImplied,tops.opened,List.dropWhile_cons_of_neg (by simp [isHtml,tops.named,stays]),← tops.opened]

-- An element that sets no mode leaves it to those around it.
def Stays (n : Name) : Prop := n.space ≠ .html ∨ (Kind.of n.tag).setsMode = false

-- The tags of the elements that change the mode.
def modal : List String := Kind.tagsWhere Kind.setsMode

theorem Stays.not_modal (stays : Stays n) {words : List String} (known : words ⊆ modal) : n.isIn words = false := by
  rcases stays with foreign | html
  · simp [Name.isIn,foreign]
  · rw [Name.isIn,Kind.apart html known,Bool.and_false]

theorem isHtml_isIn (word : String) (n : Name) : n.isHtml word = n.isIn [word] := by
  rw [Bool.eq_iff_iff]
  simp [Name.isHtml,Name.isIn,isOneOf,ofStrings]

theorem modeOf_stays {outer : List Name} (stays : Stays n) : modeOf (n :: outer) = modeOf outer := by
  by_cases html : n.space = .html
  · have not : ∀ word ∈ ["select","tr","caption","colgroup","table","template","head","body","frameset","html"],
        n.isHtml word = false := fun word inside => by
      have known : ["select","tr","caption","colgroup","table","template","head","body","frameset","html"] ⊆ modal := by decide
      rw [isHtml_isIn,stays.not_modal (by simpa using known inside)]
    have cell : n.isCell = false := stays.not_modal (by decide)
    have rows : n.isIn ["tbody","thead","tfoot"] = false := stays.not_modal (by decide)
    simp only [List.forall_mem_cons] at not
    obtain ⟨select,row,caption,colgroup,table,template,head,body,frameset,root,_⟩ := not
    rw [modeOf,if_neg (not_not_intro html)]
    simp only [select,cell,row,rows,caption,colgroup,table,template,head,body,frameset,root,Bool.false_and,Bool.false_eq_true,if_false]
  · rw [modeOf,if_pos html]

-- The rule of the body for an end tag of a class.
def endOf (b : Builder) (n : Text) : Ending → Ruled
  | .template => b.closeTemplate.done
  | .body => done (if b.inScope Name.limitsScope "body" then b.enter .afterBody else b)
  | .html => if b.inScope Name.limitsScope "body" then b.again .afterBody else b.done
  | .enclosing => done (if b.inScope Name.limitsScope n then b.popThroughHtml n else b)
  | .form =>
    if b.inTemplate then
      done (if b.inScope Name.limitsScope "form" then b.popThroughHtml "form" else b)
    else match b.form with
      | none => b.done
      | some id =>
        let b := {b with form := none}
        done (if b.reaches Name.limitsScope (· = id) b.opened then (b.closeImplied []).close id else b)
  | .paragraph => (if b.inScope Name.limitsButtonScope "p" then b else b.insertNamed "p").closeParagraph.done
  | .item => done (if b.inScope Name.limitsListScope n then b.popThroughHtml n else b)
  | .term => done (if b.inScope Name.limitsScope n then b.popThroughHtml n else b)
  | .heading =>
    let isHeading := fun id => (b.name id).isIn Name.headings
    done (if b.reaches Name.limitsScope isHeading b.opened then b.popThrough (Name.isIn Name.headings) else b)
  | .formatting => (b.adopt n).done
  | .object => done (if b.inScope Name.limitsScope n then (b.popThroughHtml n).clearToMarker else b)
  | .lineBreak => (b.voidElement ⟨n,[],false⟩).blockFrameset.done
  | .other => (b.closeOther n).done

theorem bodyEnd_ending (b : Builder) (n : Text) : b.bodyEnd n = b.endOf n (Ending.of n) := by
  rw [Ending.of,classOf_fold (b.endOf n)]
  rfl

theorem Tops.bodyEnd_pops (tops : b.Tops id outer ⟨.html,tag⟩) (pops : (Kind.of tag).pops = true) :
    b.bodyEnd tag = ({b with opened := outer},.done) := by
  have ends := (Kind.ending_of tag).1 pops
  rw [bodyEnd_ending]
  have named : ∀ words : List String, Ending.of tag ≠ .other → (Ending.of tag).tags = words → isOneOf tag words = true :=
    fun _ known same => same ▸ classOf_mem rfl known
  cases ending : Ending.of tag with
  | enclosing | item | term => simp only [endOf,tops.inScope,tops.popThroughHtml,if_true,done]
  | paragraph =>
    have paragraph : tag = "p" := by simpa [isOneOf,ofStrings] using named ["p"] (by simp [ending]) (by rw [ending]; rfl)
    subst paragraph
    simp only [endOf,closeParagraph,tops.inScope,tops.popThroughHtml,if_true,done]
  | heading =>
    have heading : (⟨.html,tag⟩ : Name).isIn Name.headings = true := by
      rw [Name.isIn,named Name.headings (by simp [ending]) (congrArg Ending.tags ending)]
      rfl
    have reached : b.reaches Name.limitsScope (fun id => (b.name id).isIn Name.headings) b.opened = true := by
      rw [tops.opened,reaches,tops.named,heading]
      rfl
    simp only [endOf,reached,tops.popThrough heading,if_true,done]
  | other => simp only [endOf,tops.closeOther,done]
  | template | body | html | form | formatting | object | lineBreak =>
    rw [ending] at ends
    cases ends

-- A formatting element with nothing special in it is closed and no longer listed.
theorem Tops.adopt {t : Tag} {rest : List Formatting} (tops : b.Tops id outer ⟨.html,tag⟩)
    (listed : b.formatting = .element id t :: rest) (named : t.name = tag) (fresh : ∀ f ∈ rest, f.node? ≠ some id) :
    b.adopt tag = {b with opened := outer, formatting := rest} := by
  have top : b.isHtml tag id = true := by rw [isHtml,tops.named,isHtml_iff.mpr rfl]
  have listing : b.isFormatting id = true := by
    rw [isFormatting,listed]
    simp [Formatting.node?]
  have entry : b.entriesToMarker = .element id t :: rest.takeWhile (·.node?.isSome) := by
    rw [entriesToMarker,listed,List.takeWhile_cons_of_pos (by rfl)]
  have forgotten : ({b with opened := outer} : Builder).forget id = {b with opened := outer, formatting := rest} := by
    have kept : b.formatting.filter (fun f => decide (f.node? ≠ some id)) = rest := by
      rw [listed,List.filter_cons_of_neg (by simp [Formatting.node?])]
      exact List.filter_eq_self.mpr fun f inside => by simpa using fresh f inside
    rw [forget]
    simp only [kept]
  have reached : b.reaches Name.limitsScope (fun o => decide (o = id)) b.opened = true := by
    rw [tops.opened,reaches]
    simp
  have once : b.adoptOnce tag = ({b with opened := outer, formatting := rest},false) := by
    have front : b.opened.takeWhile (fun o => decide (o ≠ id)) = [] := by simp [tops.opened]
    have back : (b.opened.dropWhile (fun o => decide (o ≠ id))).drop 1 = outer := by simp [tops.opened]
    have open_ : b.opened.contains id = true := by simp [tops.opened]
    rw [adoptOnce,entry,List.find?_cons_of_pos (by simp [named])]
    simp only [open_,reached,front,back,Bool.not_true,Bool.false_eq_true,if_false,List.reverse_nil,List.find?_nil,forgotten]
  rw [Builder.adopt,current?,tops.opened]
  simp only [List.head?_cons,top,listing,Bool.not_true,Bool.and_false,Bool.false_eq_true,if_false]
  rw [adoptRounds,once]

theorem Tops.bodyEnd_formats {t : Tag} {rest : List Formatting} (tops : b.Tops id outer ⟨.html,tag⟩)
    (formats : (Kind.of tag).formats = true) (listed : b.formatting = .element id t :: rest) (named : t.name = tag)
    (fresh : ∀ f ∈ rest, f.node? ≠ some id) : b.bodyEnd tag = ({b with opened := outer, formatting := rest},.done) := by
  rw [bodyEnd_ending,(Kind.ending_of tag).2.1 formats,endOf,tops.adopt listed named fresh,done]

theorem clearToMarker_marked {rest : List Formatting} (marked : b.formatting = .marker :: rest) :
    b.clearToMarker = {b with formatting := rest} := by
  rw [clearToMarker,marked]
  rfl

theorem Tops.bodyEnd_object {rest : List Formatting} (tops : b.Tops id outer ⟨.html,tag⟩) (kind : Kind.of tag = .object)
    (marked : b.formatting = .marker :: rest) : b.bodyEnd tag = ({b with opened := outer, formatting := rest},.done) := by
  have cleared : ({b with opened := outer} : Builder).clearToMarker = {b with opened := outer, formatting := rest} :=
    clearToMarker_marked marked
  rw [bodyEnd_ending,(Kind.ending_of tag).2.2.2 kind,endOf]
  simp only [tops.inScope,tops.popThroughHtml,cleared,if_true,done]

theorem form_tag (kind : Kind.of tag = .form) : tag = "form" := by
  have inside := Kind.of_mem kind (by decide)
  simpa [Kind.tags,isOneOf,ofStrings] using inside

theorem Tops.bodyEnd_form (tops : b.Tops id outer ⟨.html,tag⟩) (kind : Kind.of tag = .form) (distinct : id ∉ outer)
    (pointed : b.inTemplate = false → b.form = some id) :
    b.bodyEnd tag = ({b with opened := outer, form := if b.inTemplate then b.form else none},.done) := by
  cases form_tag kind
  rw [bodyEnd_ending,(Kind.ending_of _).2.2.1 kind,endOf]
  cases template : b.inTemplate with
  | true => simp only [tops.inScope,tops.popThroughHtml,if_true,done]
  | false =>
    have reached : ({b with form := none} : Builder).reaches Name.limitsScope (fun o => decide (o = id)) b.opened = true := by
      rw [tops.opened,reaches]
      simp
    have cleared : ({b with form := none} : Builder).closeImplied [] = {b with form := none} :=
      Tops.closeImplied ⟨tops.opened,tops.named⟩ (by decide +kernel)
    have closed : b.opened.filter (fun o => decide (o ≠ id)) = outer := by
      rw [tops.opened,List.filter_cons_of_neg (by simp)]
      refine List.filter_eq_self.mpr fun o inside => ?_
      have other : o ≠ id := fun same => distinct (same ▸ inside)
      simpa using other
    simp only [pointed template,Bool.false_eq_true,if_false,reached,cleared,if_true,close,closed,done]

theorem ground_stays {g : Ground} (stays : Stays n) (names : q.names = n :: p.names) (ground : p.ground? = some g)
    (byMode : g = .flow ∨ g = .select) : q.ground? = some g := by
  have current : ∀ test : Name → Bool, q.currentIs test = test n := by
    intro test
    rw [Place.currentIs,Place.current?,names]
    rfl
  have table : n.isHtml "table" = false := by rw [isHtml_isIn,stays.not_modal (by decide)]
  have row : n.isHtml "tr" = false := by rw [isHtml_isIn,stays.not_modal (by decide)]
  have columns : n.isHtml "colgroup" = false := by rw [isHtml_isIn,stays.not_modal (by decide)]
  have rows : n.isIn ["tbody","tfoot","thead"] = false := stays.not_modal (by decide)
  unfold Place.ground?
  simp only [current,table,row,rows,columns,Bool.false_eq_true,if_false,names,modeOf_stays stays]
  have mode := modeOf_ground ground
  rcases byMode with rfl | rfl
  · rcases mode with mode | mode | mode | mode <;> rw [mode]
  · rcases mode with mode | mode <;> rw [mode]

theorem Stands.settledIn (stands : Stands q b) (stays : Stays n) (names : q.names = n :: p.names) : b.mode ≠ .inTemplate := by
  intro mode
  have template := stands.unsettled mode
  rw [Place.currentIs,Place.current?,names] at template
  have other : n.isHtml "template" = false := by rw [isHtml_isIn,stays.not_modal (by decide)]
  rw [List.head?_cons,Option.any_some,other] at template
  cases template

theorem Stands.plainEnd (stands : Stands q b) (tops : b.Tops id outer n) (html : n.space = .html) (t : Text) :
    b.isForeign (.endTag t) = false := by
  rw [stands.foreignEnd,← stands.current,tops.currentIs]
  simp [html]

-- The end tag of an element that leaves the mode to those around it.
theorem Stands.yields_bodyEnd (stands : Stands q b) (tops : b.Tops id outer ⟨.html,tag⟩) (names : q.names = ⟨.html,tag⟩ :: p.names)
    (ground : p.ground? = some .flow) (stays : (Kind.of tag).setsMode = false) (ruled : b.bodyEnd tag = (b',.done)) :
    Yields 1 (.endTag tag) b (b',.done) := by
  have plain := stands.plainEnd tops rfl tag
  rcases stands.modes (ground_stays (.inr stays) names ground (.inl rfl)) with mode | mode | mode | mode
  · exact yields_done plain mode ruled
  · have cells : isOneOf tag ["td","th"] = false := Kind.apart stays (by decide)
    have ignored : isOneOf tag ["body","caption","col","colgroup","html"] = false := Kind.apart stays (by decide)
    have parts : isOneOf tag ["table","tbody","tfoot","thead","tr"] = false := Kind.apart stays (by decide)
    refine yields_done plain mode ?_
    simp only [rules,inCell,cells,ignored,parts,Bool.false_eq_true,if_false]
    exact ruled
  · have caption : isOneOf tag ["caption"] = false := Kind.apart stays (by decide)
    have table : isOneOf tag ["table"] = false := Kind.apart stays (by decide)
    have ignored : isOneOf tag ["body","col","colgroup","html","tbody","td","tfoot","th","thead","tr"] = false :=
      Kind.apart stays (by decide)
    refine yields_done plain mode ?_
    simp only [rules,inCaption,caption,table,ignored,Bool.false_eq_true,if_false]
    exact ruled
  · exact absurd mode (stands.settledIn (.inr stays) names)

theorem lowerChar_twice (c : Char) : lowerChar (lowerChar c) = lowerChar c := by
  have low : ∀ k < 26, isAsciiUpper (lowerChar (Char.ofNat (65 + k))) = false := by decide
  cases upper : isAsciiUpper c with
  | false => simp [lowerChar,upper]
  | true =>
    simp only [isAsciiUpper,Bool.and_eq_true,decide_eq_true_eq] at upper
    have above : 65 ≤ c.toNat := upper.1
    have below : c.toNat ≤ 90 := upper.2
    have read := low (c.toNat - 65) (by omega)
    rw [Nat.add_sub_cancel' above,Char.ofNat_toNat] at read
    rw [lowerChar,read]
    rfl

theorem lower_twice (s : Text) : lower (lower s) = lower s := by
  simp [lower,lowerChar_twice]

-- A name is written in its own letter case, and the same up to that.
theorem same_foreignTag (space : Space) (t : Text) : sameIgnoringCase (foreignTag space t) t = true := by
  rw [foreignTag]
  split
  · rw [recased]
    cases found : svgTags.lookup t with
    | none => exact beq_iff_eq.mpr rfl
    | some name =>
      obtain ⟨front,back,same,_⟩ := List.lookup_eq_some_iff.mp found
      have entry : (t,name) ∈ svgTags := by
        rw [same]
        simp
      obtain ⟨_,_,pair⟩ := List.mem_map.mp entry
      cases pair
      exact beq_iff_eq.mpr (lower_twice _).symm
  · exact beq_iff_eq.mpr rfl

theorem Stands.yields_foreignEnd (stands : Stands q b) (tops : b.Tops id outer n) (foreign : n.space ≠ .html) (inner : outer ≠ [])
    (same : sameIgnoringCase n.tag tag = true) (stays : isOneOf tag ["br","p"] = false) :
    Yields 1 (.endTag tag) b ({b with opened := outer},.done) := by
  refine yields_foreign ?_ ?_ nofun
  · rw [stands.foreignEnd,← stands.current,tops.currentIs]
    simp [foreign]
  · obtain ⟨next,further,rfl⟩ := List.exists_cons_of_ne_nil inner
    rw [Builder.foreign,stays,if_neg Bool.false_ne_true,tops.opened,Builder.foreignEnd]
    · simp only [tops.named,same,Bool.not_true,Bool.false_and,Bool.false_eq_true,if_false,if_true,done]
    · exact fun absurdly => by cases absurdly

end Builder
end StyleTrim.Html
