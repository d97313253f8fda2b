import StyleTrim.Proofs.Restyling
import StyleTrim.Proofs.Views
namespace StyleTrim
open Text

-- Documents that are the same after they were printed and read, and what a reader finds in them.

namespace Figure
variable {raw : Bool} {t : Figure} {ts us : List Figure}

mutual
-- Nodes as far as they can be seen. An empty text cannot.
def seen? : Figure → Option Figure
  | .document children => some (.document (seen children))
  | .text value => if value.isEmpty then none else some (.text value)
  | .element tag attributes children => some (.element tag attributes (seen children))
  | .doctype name => some (.doctype name)
  | .comment value => some (.comment value)
def seen : List Figure → List Figure
  | [] => []
  | t :: more => (seen? t).toList ++ seen more
end

mutual
-- What cannot be seen is not printed.
theorem markup_seen? (raw : Bool) (t : Figure) : markupAll raw (seen? t).toList = t.markup raw := by
  match t with
  | .document children =>
    rw [markup_document,← markup_seen false children]
    exact List.append_nil _
  | .text [] => cases raw <;> rfl
  | .text (_ :: _) => exact List.append_nil _
  | .element tag attributes children =>
    rw [markup_element,← markup_seen (Dom.isRawText tag) children]
    exact List.append_nil _
  | .doctype _ | .comment _ => exact List.append_nil _
theorem markup_seen (raw : Bool) (ts : List Figure) : markupAll raw (seen ts) = markupAll raw ts := by
  match ts with
  | [] => rfl
  | t :: more => rw [seen,markupAll_append,markup_seen? raw t,markup_seen raw more,markupAll_cons]
end

-- Nodes that make up a legible document.
def Legible (ts : List Figure) : Prop := ∃ l : Html.Layout, l.isLegible = true ∧ l.figures = ts

end Figure

-- A legible document is read again from its markup, by every reader and with nothing besides it.
theorem Dom.markup_read {d : Dom} (legible : Figure.Legible (Figure.seen d.figures)) :
    (read d.markup).figures = Figure.seen d.figures ∧ ∀ conventions,
      Html.Tree.figures (Html.build conventions d.markup).trees = Figure.seen d.figures ∧
      Html.Tree.allSound (Html.build conventions d.markup).trees = true ∧
      (Html.build conventions d.markup).loose = [] := by
  obtain ⟨l,legible,same⟩ := legible
  have written : d.markup = Figure.markupAll false l.figures := by rw [markup_figures,same,Figure.markup_seen]
  have built := Html.build_layout legible
  rw [← written,same] at built
  exact ⟨(ofTrees_figures _).trans (built .document).1,built⟩

namespace Figure
variable {raw : Bool} {t : Figure} {ts us : List Figure}

def isStyle (tag : Text) (attributes : List Attribute) : Bool :=
  tag == ("style" : Text) && !attributes.any (·.name == ("amp-boilerplate" : Text)) &&
    !attributes.any (·.name == ("amp-keyframes" : Text))

mutual
def content : Figure → Text
  | .document children | .element _ _ children => contents children
  | .text value => value
  | _ => []
def contents : List Figure → Text
  | [] => []
  | t :: more => content t ++ contents more
end

mutual
-- The texts of the author's style elements, in document order.
def styles : Figure → List Text
  | .document children => stylesIn children
  | .element tag attributes children =>
    (if isStyle tag attributes then [contents children] else []) ++ stylesIn children
  | _ => []
def stylesIn : List Figure → List Text
  | [] => []
  | t :: more => styles t ++ stylesIn more
end

theorem contents_append (ts us : List Figure) : contents (ts ++ us) = contents ts ++ contents us := by
  induction ts with
  | nil => rfl
  | cons t more ih => rw [List.cons_append,contents,contents,ih,List.append_assoc]

theorem stylesIn_append (ts us : List Figure) : stylesIn (ts ++ us) = stylesIn ts ++ stylesIn us := by
  induction ts with
  | nil => rfl
  | cons t more ih => rw [List.cons_append,stylesIn,stylesIn,ih,List.append_assoc]

mutual
theorem contents_seen? (t : Figure) : contents (seen? t).toList = content t := by
  match t with
  | .document children | .element _ _ children =>
    rw [content,← contents_seen children]
    exact List.append_nil _
  | .text [] => rfl
  | .text (_ :: _) => exact List.append_nil _
  | .doctype _ | .comment _ => rfl
theorem contents_seen (ts : List Figure) : contents (seen ts) = contents ts := by
  match ts with
  | [] => rfl
  | t :: more => rw [seen,contents_append,contents_seen? t,contents_seen more,contents]
end

mutual
-- Texts that cannot be seen make no difference to the style sheets.
theorem styles_seen? (t : Figure) : stylesIn (seen? t).toList = styles t := by
  match t with
  | .document children =>
    rw [styles,← styles_seen children]
    exact List.append_nil _
  | .element tag attributes children =>
    rw [styles,← styles_seen children,← contents_seen children]
    exact List.append_nil _
  | .text value => cases value <;> rfl
  | .doctype _ | .comment _ => rfl
theorem styles_seen (ts : List Figure) : stylesIn (seen ts) = stylesIn ts := by
  match ts with
  | [] => rfl
  | t :: more => rw [seen,stylesIn_append,styles_seen? t,styles_seen more,stylesIn]
end

end Figure

namespace Dom
variable {d d' : Dom} {m n p : NodeId} {h : Nat} {ids : List NodeId} {payload : Payload}

-- Only the document and its elements have children.
structure Proper (d : Dom) : Prop where
  forest : d.Forest
  top : d.Current root
  document : d.node? root = some ⟨.document,[]⟩
  bearing : ∀ n p, d.Current n → d.parent? n = some p → p = root ∨ d.isElement p = true

theorem isElement_node (same : d'.node? n = d.node? n) : d'.isElement n = d.isElement n := by
  rw [isElement,isElement,tag?,tag?,same]

theorem Proper.leaf (proper : d.Proper) (there : d.Current n) (inner : n ≠ root) (plain : d.isElement n = false) : d.children n = [] := by
  refine List.eq_nil_iff_forall_not_mem.mpr fun c child => ?_
  obtain ⟨current,linked⟩ := proper.forest.down there child
  rcases proper.bearing c n current linked with same | element
  · exact inner same
  · rw [plain] at element
    cases element

theorem Joined.proper (joined : Joined d d' p n payload) (proper : d.Proper) (parent : d.Current p)
    (bears : p = root ∨ d.isElement p = true) : d'.Proper := by
  have old : ∀ m, d.Current m → m = root ∨ d.isElement m = true → m = root ∨ d'.isElement m = true := by
    intro m there bears
    rwa [isElement_node (joined.node m there)]
  refine ⟨joined.forest,(joined.current root).mpr (.inl proper.top),?_,fun m q there linked => ?_⟩
  · rw [joined.node root proper.top,proper.document]
  · rcases (joined.current m).mp there with before | rfl
    · rw [joined.parent m before] at linked
      exact old q (proper.forest.up before linked).1 (proper.bearing m q before linked)
    · cases Option.some.inj (linked.symm.trans joined.newParent)
      exact old p parent bears

mutual
theorem plant_proper {d : Dom} {p : NodeId} (t : Html.Tree) (proper : d.Proper) (free : d.free = []) (parent : d.Current p)
    (bears : p = root ∨ d.isElement p = true) : (d.plant p t).Proper := by
  cases t with
  | doctype name => exact (put_joined proper.forest parent _).proper proper parent bears
  | text value => exact (put_joined proper.forest parent _).proper proper parent bears
  | comment value => exact (put_joined proper.forest parent _).proper proper parent bears
  | element _ name properties contents children =>
    have joined := put_joined proper.forest parent (.element name.tag (properties.map attributeOf))
    have opened := joined.grown free
    have new := (joined.current _).mpr (.inr rfl)
    have filled := plantAll_grown contents opened.forest opened.free new
    have element : (d.put p (.element name.tag (properties.map attributeOf))).isElement
        (d.create (.element name.tag (properties.map attributeOf))).2 = true := by
      rw [isElement,tag?,joined.newNode]
      rfl
    rw [plant]
    refine plantAll_proper children ?_ filled.free (filled.current _ new) (.inr ((isElement_node (filled.node _ new)).trans element))
    exact plantAll_proper contents (joined.proper proper parent bears) opened.free new (.inr element)
theorem plantAll_proper {d : Dom} {p : NodeId} (trees : List Html.Tree) (proper : d.Proper) (free : d.free = []) (parent : d.Current p)
    (bears : p = root ∨ d.isElement p = true) : (d.plantAll p trees).Proper := by
  cases trees with
  | nil => exact proper
  | cons t more =>
    have first := plant_grown t proper.forest free parent
    rw [plantAll]
    refine plantAll_proper more (plant_proper t proper free parent bears) first.free (first.current p parent) ?_
    rwa [isElement_node (first.node p parent)]
end

theorem read_proper (source : Text) : (read source).Proper := by
  refine plantAll_proper _ ⟨empty_forest,empty_current.mpr rfl,rfl,fun n p there linked => ?_⟩ rfl (empty_current.mpr rfl) (.inl rfl)
  rw [empty_current.mp there] at linked
  cases linked

theorem Replacing.proper {d₁ d₂ : Dom} {first text : NodeId} {extra : List NodeId} {css : Text}
    (r : Replacing d d₁ d₂ first text extra css) (proper : d.Proper) : d₂.Proper := by
  obtain ⟨left,before,other⟩ := r.first_remains
  have forest := r.cleared.forest
  have under : ∀ m q, d₂.Current m → d₂.parent? m = some q → q ≠ text := by
    rintro m _ there linked rfl
    have child := (forest.up there linked).2
    rw [r.cleared.children _ (forest.up there linked).1,r.texted.newChildren] at child
    cases child
  have top : root ≠ text := by
    intro same
    have above := (r.above (a := root) left other).mpr (r.isStyle List.mem_cons_self).1.2
    rw [above_kept forest r.cleared.parent left,same] at above
    exact r.texted.under before other above
  refine ⟨forest,r.root_remains,?_,fun m q there linked => ?_⟩
  · rw [(r.node r.root_remains top).1,proper.document]
  · obtain ⟨upper,_⟩ := forest.up there linked
    have kept := (r.node upper (under m q there linked)).1
    rw [isElement_node kept]
    by_cases new : m = text
    · rw [new,r.cleared.parent text (new ▸ there),r.texted.newParent] at linked
      cases linked
      refine .inr ?_
      rw [isElement,(r.isStyle List.mem_cons_self).2.1]
      rfl
    · rw [(r.node there new).2] at linked
      have old := ((r.texted.current m).mp ((r.cleared.current m).mp there).1).resolve_right new
      exact proper.bearing m q old.1 linked

-- What is gathered from nodes in document order, from each by itself.
theorem flatMap_figures {α : Type} {f : Figure → List α} {fs : List Figure → List α} {g : NodeId → List α}
    (nil : fs [] = []) (cons : ∀ t more, fs (t :: more) = f t ++ fs more)
    (each : ∀ n ∈ ids, g n = ((d.figure? h n).map f).getD []) : ids.flatMap g = fs (ids.filterMap (d.figure? h)) := by
  induction ids with
  | nil => exact nil.symm
  | cons n ids ih =>
    rw [List.flatMap_cons,List.filterMap_cons,each n List.mem_cons_self,ih fun m later => each m (List.mem_cons_of_mem n later)]
    cases d.figure? h n with
    | none => rfl
    | some t => exact (cons t _).symm

-- A node that is no element and not the document is a leaf.
theorem Proper.cases (proper : d.Proper) (there : d.Current n) : ∃ kind attributes, d.node? n = some ⟨kind,attributes⟩ ∧
    (kind = .document ∨ (∃ tag, kind = .element tag) ∨ (kind ≠ .document ∧ ∀ tag, kind ≠ .element tag) ∧ d.children n = []) := by
  obtain ⟨⟨kind,attributes⟩,found⟩ := Option.isSome_iff_exists.mp there.node?
  refine ⟨kind,attributes,found,?_⟩
  by_cases document : kind = .document
  · exact .inl document
  · by_cases element : ∃ tag, kind = .element tag
    · exact .inr (.inl element)
    · refine .inr (.inr ⟨⟨document,fun tag same => element ⟨tag,same⟩⟩,proper.leaf there ?_ ?_⟩)
      · rintro rfl
        cases Option.some.inj (found.symm.trans proper.document)
        exact document rfl
      · rw [isElement,tag?,found]
        cases kind with
        | element tag => exact absurd ⟨tag,rfl⟩ element
        | _ => rfl

-- What is gathered below a node, if each node adds its own to what is below it.
theorem Proper.gather {α : Type} (proper : d.Proper) (f : Figure → List α) (fs : List Figure → List α) (own : NodeId → List α)
    (nil : fs [] = []) (cons : ∀ t more, fs (t :: more) = f t ++ fs more)
    (each : ∀ n h, d.Current n → d.Shallower n (h + 1) →
      ((d.figure? (h + 1) n).map f).getD [] = own n ++ fs ((d.children n).filterMap (d.figure? h)))
    (there : d.Current n) (shallow : d.Shallower n h) : (d.below h n).flatMap own = ((d.figure? h n).map f).getD [] := by
  induction h generalizing n with
  | zero => exact absurd (shallow n 0 there rfl) (Nat.lt_irrefl 0)
  | succ h ih =>
    rw [each n h there shallow,Dom.below,List.flatMap_cons,List.flatMap_assoc]
    refine congrArg (own n ++ ·) (flatMap_figures nil cons fun c child => ?_)
    obtain ⟨current,linked⟩ := proper.forest.down there child
    exact ih current (shallow.child linked)

theorem Proper.content (proper : d.Proper) (there : d.Current n) (shallow : d.Shallower n h) :
    ((d.below h n).filterMap d.textOf?).flatten = ((d.figure? h n).map Figure.content).getD [] := by
  have spread : ((d.below h n).filterMap d.textOf?).flatten = (d.below h n).flatMap fun m => (d.textOf? m).getD [] := by
    generalize d.below h n = ids
    induction ids with
    | nil => rfl
    | cons m ids ih =>
      rw [List.filterMap_cons,List.flatMap_cons,← ih]
      cases d.textOf? m <;> rfl
  rw [spread]
  refine proper.gather Figure.content Figure.contents (fun m => (d.textOf? m).getD []) rfl (fun _ _ => rfl) (fun m k there _ => ?_) there shallow
  obtain ⟨kind,attributes,found,bears⟩ := proper.cases there
  rw [textOf?,figure?,found]
  rcases bears with rfl | ⟨tag,rfl⟩ | ⟨⟨document,element⟩,none⟩
  · rfl
  · rfl
  · rw [none]
    cases kind with
    | document => exact absurd rfl document
    | element tag => exact absurd rfl (element tag)
    | text value => exact (List.append_nil value).symm
    | _ => rfl

-- The document as a whole.
theorem Proper.figure_root (proper : d.Proper) : d.figure? d.height root = some (.document d.figures) := by
  rw [← figure?_deep proper.forest proper.top (proper.forest.shallower root) 1,figure?,proper.document]
  rfl

def isStyled (d : Dom) (n : NodeId) : Bool :=
  match d.node? n with
  | some ⟨.element tag,attributes⟩ => Figure.isStyle tag attributes
  | _ => false

theorem hasAttribute_found {kind : NodeKind} {attributes : List Attribute} (found : d.node? n = some ⟨kind,attributes⟩) (name : Text) :
    d.hasAttribute n name = attributes.any (·.name == name) := by
  rw [hasAttribute,attribute?,found,Option.bind_some,Option.isSome_map,Bool.eq_iff_iff,List.find?_isSome,List.any_eq_true]

theorem customStyles_styled (d : Dom) : d.customStyles = (d.descendants root).filter d.isStyled := by
  rw [customStyles,elementsByTag,elements,elementsUnder,List.filter_filter,List.filter_filter]
  refine List.filter_congr fun n _ => ?_
  rw [isStyled,isElement,tag?]
  cases found : d.node? n with
  | none => rw [Option.bind_none,Option.isSome_none,Bool.and_false]
  | some p =>
    obtain ⟨kind,attributes⟩ := p
    rw [hasAttribute_found found,hasAttribute_found found,Option.bind_some]
    cases kind with
    | element tag =>
      have known : decide (some tag = some ("style" : Text)) = (tag == ("style" : Text)) := by
        rw [Bool.eq_iff_iff,decide_eq_true_eq,beq_iff_eq,Option.some.injEq]
      show ((_ && _ && decide (some tag = some _)) && true) = Figure.isStyle tag attributes
      rw [known,Bool.and_true,Bool.and_comm,← Bool.and_assoc]
      rfl
    | _ => exact Bool.and_false _

theorem Proper.styles (proper : d.Proper) : d.customStyles.map d.textContent = Figure.stylesIn d.figures := by
  have spread : d.customStyles.map d.textContent = (d.below d.height root).flatMap fun n =>
      if d.isStyled n then [d.textContent n] else [] := by
    rw [customStyles_styled,descendants]
    generalize d.below d.height root = ids
    induction ids with
    | nil => rfl
    | cons n ids ih =>
      rw [List.filter_cons,List.flatMap_cons,← ih]
      cases d.isStyled n <;> rfl
  have whole := proper.gather Figure.styles Figure.stylesIn (fun n =>
      if d.isStyled n then [d.textContent n] else []) rfl (fun _ _ => rfl) (fun n h there shallow => ?_) proper.top
    (proper.forest.shallower root)
  · rw [spread,whole,proper.figure_root]
    rfl
  · obtain ⟨kind,attributes,found,bears⟩ := proper.cases there
    rw [isStyled,figure?,found]
    rcases bears with rfl | ⟨tag,rfl⟩ | ⟨⟨document,element⟩,none⟩
    · rfl
    · have inner : d.textContent n = Figure.contents ((d.children n).filterMap (d.figure? h)) := by
        have deep := proper.content there (proper.forest.shallower n)
        rw [textContent,descendants,deep,← figure?_deep proper.forest there (proper.forest.shallower n) (h + 1),Nat.add_comm,
          figure?_deep proper.forest there shallow,figure?,found]
        rfl
      rw [inner]
      rfl
    · rw [none]
      cases kind with
      | document => exact absurd rfl document
      | element tag => exact absurd rfl (element tag)
      | _ => rfl

end Dom

-- The style sheet of a legible document is the one that is read from its markup, in as many elements.
theorem Dom.markup_styles {d : Dom} (proper : d.Proper) (legible : Figure.Legible (Figure.seen d.figures)) :
    (read d.markup).customStyles.map (read d.markup).textContent = d.customStyles.map d.textContent := by
  rw [(read_proper _).styles,(markup_read legible).1,Figure.styles_seen,proper.styles]

end StyleTrim
