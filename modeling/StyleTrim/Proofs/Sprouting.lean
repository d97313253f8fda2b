import StyleTrim.Html.Tree
import StyleTrim.Proofs.Figures
namespace StyleTrim.Html
open Text

-- How a store of nodes grows by what is read at one place.

mutual
-- Whether only templates have contents beside their children.
def Tree.isSound : Tree → Bool
  | .element _ name _ contents children =>
    (contents.isEmpty || name.isHtml "template") && Tree.allSound contents && Tree.allSound children
  | _ => true
def Tree.allSound : List Tree → Bool
  | [] => true
  | t :: more => Tree.isSound t && Tree.allSound more
end

mutual
-- A tree stands at a node. All of it was made after `first`, and children after their parents.
inductive Holds (cells : Array Cell) : Nat → Nat → Figure → Prop
  | doctype {first id : Nat} : first ≤ id → cells[id]? = some ⟨.doctype name,parent,[]⟩ → Holds cells first id (.doctype name)
  | text {first id : Nat} : first ≤ id → cells[id]? = some ⟨.text value.reverse,parent,[]⟩ → Holds cells first id (.text value)
  | comment {first id : Nat} : first ≤ id → cells[id]? = some ⟨.comment value,parent,[]⟩ → Holds cells first id (.comment value)
  | element {first id : Nat} : first ≤ id → cells[id]? = some ⟨.element name properties none,parent,ids.reverse⟩ →
      HoldsAll cells (id + 1) ids children → Holds cells first id (.element name.tag (properties.map Dom.attributeOf) children)
  | template {first id : Nat} : name.isHtml "template" = true → first ≤ contents → contents < id →
      cells[id]? = some ⟨.element name properties (some contents),parent,[]⟩ →
      cells[contents]? = some ⟨.document,above,ids.reverse⟩ → HoldsAll cells (id + 1) ids children →
      Holds cells first id (.element name.tag (properties.map Dom.attributeOf) children)
inductive HoldsAll (cells : Array Cell) : Nat → List Nat → List Figure → Prop
  | nil {first : Nat} : HoldsAll cells first [] []
  | cons {first id : Nat} : Holds cells first id t → HoldsAll cells first ids ts → HoldsAll cells first (id :: ids) (t :: ts)
end

variable {cells cells' cells'' : Array Cell} {host id first k : Nat} {t : Figure} {ts us : List Figure} {ids : List Nat}

theorem Holds.first_le (held : Holds cells first id t) : first ≤ id := by
  cases held with
  | doctype from_ | text from_ | comment from_ | element from_ => exact from_
  | template _ from_ order => exact Nat.le_trans from_ (Nat.le_of_lt order)

theorem Holds.lower {first' : Nat} (held : Holds cells first id t) (before : first' ≤ first) : Holds cells first' id t := by
  cases held with
  | doctype from_ found => exact .doctype (Nat.le_trans before from_) found
  | text from_ found => exact .text (Nat.le_trans before from_) found
  | comment from_ found => exact .comment (Nat.le_trans before from_) found
  | element from_ found inner => exact .element (Nat.le_trans before from_) found inner
  | template named from_ order found contents inner => exact .template named (Nat.le_trans before from_) order found contents inner

mutual
-- Later growth elsewhere leaves a tree as it is.
theorem Holds.later {first id : Nat} {t : Figure} (held : Holds cells first id t)
    (kept : ∀ k cell, first ≤ k → cells[k]? = some cell → cells'[k]? = some cell) : Holds cells' first id t := by
  match t, held with
  | _, .doctype from_ found => exact .doctype from_ (kept _ _ from_ found)
  | _, .text from_ found => exact .text from_ (kept _ _ from_ found)
  | _, .comment from_ found => exact .comment from_ (kept _ _ from_ found)
  | .element _ _ children, .element from_ found inner =>
    exact .element from_ (kept _ _ from_ found)
      (inner.later fun k cell after => kept k cell (Nat.le_trans from_ (Nat.le_of_succ_le after)))
  | .element _ _ children, .template named from_ order found contents inner =>
    have before := Nat.le_trans from_ (Nat.le_of_lt order)
    exact .template named from_ order (kept _ _ before found) (kept _ _ from_ contents)
      (inner.later fun k cell after => kept k cell (Nat.le_trans before (Nat.le_of_succ_le after)))
theorem HoldsAll.later {first : Nat} {ids : List Nat} {ts : List Figure} (held : HoldsAll cells first ids ts)
    (kept : ∀ k cell, first ≤ k → cells[k]? = some cell → cells'[k]? = some cell) : HoldsAll cells' first ids ts := by
  match ts, held with
  | [], .nil => exact .nil
  | t :: ts, .cons one more => exact .cons (one.later kept) (more.later kept)
end

theorem HoldsAll.lower {first' : Nat} (held : HoldsAll cells first ids ts) (before : first' ≤ first) :
    HoldsAll cells first' ids ts := by
  induction ts generalizing ids with
  | nil =>
    cases held
    exact .nil
  | cons t more ih =>
    cases held with
    | cons one rest => exact .cons (one.lower before) (ih rest)

theorem HoldsAll.append {more : List Nat} (front : HoldsAll cells first ids ts) (back : HoldsAll cells first more us) :
    HoldsAll cells first (ids ++ more) (ts ++ us) := by
  induction ts generalizing ids with
  | nil =>
    cases front
    exact back
  | cons t rest ih =>
    cases front with
    | cons one others => exact .cons one (ih others)

theorem content?_found {b : Builder} {cell : Cell} (found : b.cells[id]? = some cell) : b.content? id = some cell.content := by
  rw [Builder.content?,Builder.cell?,found]
  rfl

theorem childrenOf_found {b : Builder} {content : Content} {parent : Option Nat}
    (found : b.cells[id]? = some ⟨content,parent,ids.reverse⟩) : b.childrenOf id = ids := by
  rw [Builder.childrenOf,Builder.cell?,found]
  exact List.reverse_reverse ids

mutual
-- A tree that stands at a node is the one that is read off there.
theorem Holds.tree {b : Builder} {first id : Nat} {t : Figure} (held : Holds b.cells first id t) (height : Nat)
    (low : b.cells.size ≤ id + height) : (b.tree? height id).map Tree.figure = some t := by
  have high : ∀ cell, b.cells[id]? = some cell → ∃ h, height = h + 1 := by
    intro cell found
    have inside := (Array.getElem?_eq_some_iff.mp found).1
    exact ⟨height - 1,by omega⟩
  match t, held with
  | _, .doctype _ found =>
    obtain ⟨h,rfl⟩ := high _ found
    rw [Builder.tree?,content?_found found]
    rfl
  | _, .text _ found =>
    obtain ⟨h,rfl⟩ := high _ found
    rw [Builder.tree?,content?_found found]
    exact congrArg (fun value => some (Figure.text value)) (List.reverse_reverse _)
  | _, .comment _ found =>
    obtain ⟨h,rfl⟩ := high _ found
    rw [Builder.tree?,content?_found found]
    rfl
  | .element _ _ children, .element _ found inner =>
    obtain ⟨h,rfl⟩ := high _ found
    have below := inner.trees h (by omega)
    simp [Builder.tree?,content?_found found,childrenOf_found found,Tree.figure,Tree.figures,below]
  | .element _ _ children, .template _ _ order found contents inner =>
    obtain ⟨h,rfl⟩ := high _ found
    have below := inner.trees h (by omega)
    have none : b.childrenOf id = [] := childrenOf_found found
    simp [Builder.tree?,content?_found found,none,Tree.figure,Tree.figures,childrenOf_found contents,below]
theorem HoldsAll.trees {b : Builder} {first : Nat} {ids : List Nat} {ts : List Figure} (held : HoldsAll b.cells first ids ts)
    (height : Nat) (low : b.cells.size ≤ first + height) : Tree.figures (ids.filterMap (b.tree? height)) = ts := by
  match ts, held with
  | [], .nil => rfl
  | t :: more, .cons one others =>
    have after := one.first_le
    obtain ⟨tree,read,same⟩ := Option.map_eq_some_iff.mp (one.tree height (by omega))
    rw [List.filterMap_cons_some read,Tree.figures,same,others.trees height low]
end

mutual
-- What stands at a node is a tree in which only templates have contents.
theorem Holds.isSound {b : Builder} {first id : Nat} {t : Figure} (held : Holds b.cells first id t) (height : Nat) :
    (b.tree? height id).all Tree.isSound = true := by
  cases height with
  | zero => rfl
  | succ height =>
    match t, held with
    | _, .doctype _ found | _, .text _ found | _, .comment _ found =>
      rw [Builder.tree?,content?_found found]
      rfl
    | .element _ _ children, .element _ found inner =>
      simp [Builder.tree?,content?_found found,childrenOf_found found,Tree.isSound,Tree.allSound,inner.allSound height]
    | .element _ _ children, .template named _ _ found contents inner =>
      have none : b.childrenOf id = [] := childrenOf_found found
      simp only [Builder.tree?,content?_found found,none,Tree.isSound,Tree.allSound,childrenOf_found contents,named,
        inner.allSound height,Option.all_some,Option.map_some,Option.getD_some,List.filterMap_nil,Bool.or_true,Bool.and_true]
theorem HoldsAll.allSound {b : Builder} {first : Nat} {ids : List Nat} {ts : List Figure} (held : HoldsAll b.cells first ids ts)
    (height : Nat) : Tree.allSound (ids.filterMap (b.tree? height)) = true := by
  match ts, held with
  | [], .nil => rfl
  | t :: more, .cons one others =>
    have first := one.isSound height
    have rest := others.allSound height
    rw [List.filterMap_cons]
    split
    · exact rest
    · rename_i read
      rw [read,Option.all_some] at first
      rw [Tree.allSound,first,rest]
      rfl
end

-- The content of the nodes there are is kept.
def Keeps (cells cells' : Array Cell) : Prop :=
  ∀ k : Nat, k < cells.size → (cells'[k]?).map (·.content) = (cells[k]?).map (·.content)

-- No element is outside of the document.
def Linked (cells : Array Cell) : Prop :=
  ∀ (k : Nat) name properties contents children, cells[k]? ≠ some ⟨.element name properties contents,none,children⟩

-- A store to which trees were added as the last children of one node.
structure Sprouts (cells cells' : Array Cell) (host : Nat) (ts : List Figure) : Prop where
  size : cells.size ≤ cells'.size
  linked : Linked cells → Linked cells'
  kept : ∀ k : Nat, k < cells.size → k ≠ host → cells'[k]? = cells[k]?
  host : ∃ cell ids, cells[host]? = some cell ∧ cells'[host]? = some {cell with lastFirst := ids.reverse ++ cell.lastFirst} ∧
    HoldsAll cells' cells.size ids ts

theorem Sprouts.refl {cell : Cell} (found : cells[host]? = some cell) : Sprouts cells cells host [] :=
  ⟨Nat.le_refl _,id,fun _ _ _ => rfl,cell,[],found,found,.nil⟩

theorem Sprouts.host_lt (grown : Sprouts cells cells' host ts) : host < cells.size := by
  obtain ⟨cell,_,found,_⟩ := grown.host
  exact (Array.getElem?_eq_some_iff.mp found).1

theorem Sprouts.keeps (grown : Sprouts cells cells' host ts) : Keeps cells cells' := by
  intro k old
  by_cases same : k = host
  · obtain ⟨cell,ids,before,after,_⟩ := grown.host
    rw [same,before,after]
    rfl
  · rw [grown.kept k old same]

theorem Sprouts.trans (first : Sprouts cells cells' host ts) (second : Sprouts cells' cells'' host us) :
    Sprouts cells cells'' host (ts ++ us) := by
  obtain ⟨cell,ids,before,after,held⟩ := first.host
  obtain ⟨cell',ids',before',after',held'⟩ := second.host
  cases Option.some.inj (after.symm.trans before')
  refine ⟨Nat.le_trans first.size second.size,second.linked ∘ first.linked,?_,cell,ids ++ ids',before,?_,?_⟩
  · intro k old other
    rw [second.kept k (Nat.lt_of_lt_of_le old first.size) other,first.kept k old other]
  · rw [after']
    simp
  · refine HoldsAll.append (held.later ?_) (held'.lower first.size)
    intro k cell new found
    have inside := (Array.getElem?_eq_some_iff.mp found).1
    have other : k ≠ host := Nat.ne_of_gt (Nat.lt_of_lt_of_le first.host_lt new)
    rw [second.kept k inside other,found]

-- A store with one more node, which is the last child of `host` and has no children so far. The
-- contents of a template are made before it.
structure Planted (cells cells' : Array Cell) (host id : Nat) (content : Content) : Prop where
  fresh : cells.size ≤ id
  size : cells'.size = id + 1
  linked : Linked cells → Linked cells'
  kept : ∀ k : Nat, k < cells.size → k ≠ host → cells'[k]? = cells[k]?
  last : ∃ cell, cells[host]? = some cell ∧ cells'[host]? = some {cell with lastFirst := id :: cell.lastFirst}
  new : cells'[id]? = some ⟨content,some host,[]⟩

theorem Planted.host_lt (planted : Planted cells cells' host id content) : host < cells.size := by
  obtain ⟨cell,found,_⟩ := planted.last
  exact (Array.getElem?_eq_some_iff.mp found).1

theorem Planted.keeps (planted : Planted cells cells' host id content) : Keeps cells cells' := by
  intro k old
  by_cases same : k = host
  · obtain ⟨cell,before,after⟩ := planted.last
    rw [same,before,after]
    rfl
  · rw [planted.kept k old same]

theorem Planted.sprouts (planted : Planted cells cells' host id content) (held : Holds cells' cells.size id t) :
    Sprouts cells cells' host [t] := by
  obtain ⟨cell,before,after⟩ := planted.last
  refine ⟨?_,planted.linked,planted.kept,cell,[id],before,after,.cons held .nil⟩
  rw [planted.size]
  exact Nat.le_succ_of_le planted.fresh

-- What grows below a new node makes one tree of it.
theorem Planted.around {name : Name} {properties : List Property}
    (planted : Planted cells cells' host id (.element name properties none)) (grown : Sprouts cells' cells'' id ts) :
    Sprouts cells cells'' host [.element name.tag (properties.map Dom.attributeOf) ts] := by
  obtain ⟨cell,before,after⟩ := planted.last
  obtain ⟨root,ids,new,filled,held⟩ := grown.host
  have old := planted.fresh
  have size := planted.size
  have below := planted.host_lt
  cases Option.some.inj (planted.new.symm.trans new)
  have filled : cells''[id]? = some ⟨.element name properties none,some host,ids.reverse⟩ := by
    rw [filled]
    simp
  refine ⟨?_,grown.linked ∘ planted.linked,?_,cell,[id],before,?_,.cons (.element old filled (held.lower (Nat.le_of_eq size.symm))) .nil⟩
  · have later := grown.size
    omega
  · intro k inside other
    rw [grown.kept k (by omega) (by omega),planted.kept k inside other]
  · rw [grown.kept host (by omega) (by omega),after]
    rfl

theorem Planted.aroundContents {name : Name} {properties : List Property} {contents : Nat}
    (planted : Planted cells cells' host id (.element name properties (some contents)))
    (named : name.isHtml "template" = true) (fresh : cells.size ≤ contents)
    (order : contents < id) (empty : cells'[contents]? = some ⟨.document,none,[]⟩) (grown : Sprouts cells' cells'' contents ts) :
    Sprouts cells cells'' host [.element name.tag (properties.map Dom.attributeOf) ts] := by
  obtain ⟨cell,before,after⟩ := planted.last
  obtain ⟨root,ids,new,filled,held⟩ := grown.host
  have size := planted.size
  have below := planted.host_lt
  cases Option.some.inj (empty.symm.trans new)
  have filled : cells''[contents]? = some ⟨.document,none,ids.reverse⟩ := by
    rw [filled]
    simp
  have found : cells''[id]? = some ⟨.element name properties (some contents),some host,[]⟩ := by
    rw [grown.kept id (by omega) (by omega),planted.new]
  refine ⟨?_,grown.linked ∘ planted.linked,?_,cell,[id],before,?_,.cons (.template named fresh order found filled (held.lower (Nat.le_of_eq size.symm))) .nil⟩
  · have later := grown.size
    omega
  · intro k inside other
    rw [grown.kept k (by omega) (by omega),planted.kept k inside other]
  · rw [grown.kept host (by omega) (by omega),after]
    rfl

end StyleTrim.Html
