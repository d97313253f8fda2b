import StyleTrim.Proofs.Sprouting
namespace StyleTrim.Html.Builder
open Text
variable {b b' : Builder} {cells cells' : Array Cell} {host id : Nat} {content : Content} {n : Name}
  {properties : List Property} {ts : List Figure}

-- Where a new node goes, and what the store is then.

theorem name_eq (b : Builder) (id : Nat) :
    b.name id = match (b.cells[id]?).map (·.content) with
      | some (.element name _ _) => name
      | _ => ⟨.html,[]⟩ := by
  rw [Builder.name,cell?]
  cases found : b.cells[id]? with
  | none => rfl
  | some cell =>
    obtain ⟨content,parent,children⟩ := cell
    cases content <;> rfl

theorem contentsOf_eq (b : Builder) (id : Nat) :
    b.contentsOf id = match (b.cells[id]?).map (·.content) with
      | some (.element _ _ (some contents)) => contents
      | _ => id := by
  rw [contentsOf,cell?]
  cases found : b.cells[id]? with
  | none => rfl
  | some cell =>
    obtain ⟨content,parent,children⟩ := cell
    cases content with
    | element name properties contents => cases contents <;> rfl
    | _ => rfl

theorem keeps_name (kept : Keeps b.cells b'.cells) (old : id < b.cells.size) : b'.name id = b.name id := by
  rw [name_eq,name_eq,kept id old]

theorem keeps_contentsOf (kept : Keeps b.cells b'.cells) (old : id < b.cells.size) : b'.contentsOf id = b.contentsOf id := by
  rw [contentsOf_eq,contentsOf_eq,kept id old]

theorem keeps_names {ids : List NodeId} (kept : Keeps b.cells b'.cells) (old : ∀ id ∈ ids, id < b.cells.size) :
    ids.map b'.name = ids.map b.name :=
  List.map_congr_left fun id inside => keeps_name kept (old id inside)

-- Where the next node goes when nothing is out of place.
def site (b : Builder) : NodeId :=
  match b.current? with
  | some id => if b.isHtml "template" id then b.contentsOf id else id
  | none => root

theorem keeps_site (kept : Keeps b.cells b'.cells) (same : b'.opened = b.opened)
    (old : ∀ id ∈ b.opened, id < b.cells.size) : b'.site = b.site := by
  rw [Builder.site,Builder.site,current?,current?,same]
  cases opened : b.opened with
  | nil => rfl
  | cons id outer =>
    have inside : id < b.cells.size := old id (opened ▸ List.mem_cons_self)
    have template : b'.isHtml "template" id = b.isHtml "template" id := congrArg _ (keeps_name kept inside)
    simp only [List.head?_cons,template,keeps_contentsOf kept inside]

theorem site_cons {outer : List NodeId} (opened : b.opened = id :: outer) :
    b.site = if b.isHtml "template" id then b.contentsOf id else id := by
  rw [site,current?,opened]
  rfl

theorem spot_eq (settled : b.fostering = false) (current : b.opened ≠ []) : b.spot (b.current?.getD root) = .inside b.site := by
  obtain ⟨id,outer,opened⟩ := List.exists_cons_of_ne_nil current
  have target : b.current?.getD root = id := by
    rw [current?,opened]
    rfl
  rw [target,site_cons opened,spot,settled,Bool.false_and,if_neg Bool.false_ne_true]
  split <;> rfl

-- The newest node of a store, linked to an older one. What was made between them is no element.
theorem attach_newest {cell : Cell} (found : b.cells[host]? = some cell) (newest : b.cells[id]? = some ⟨content,none,[]⟩)
    (size : b.cells.size = id + 1) (few : cells.size ≤ id) (below : host < cells.size)
    (same : ∀ k : Nat, k < cells.size → b.cells[k]? = cells[k]?)
    (between : ∀ k : Nat, cells.size ≤ k → k < id → b.cells[k]? = some ⟨.document,none,[]⟩) :
    ∃ cells', b.attach host id = {b with cells := cells'} ∧ Planted cells cells' host id content ∧
      ∀ k : Nat, k ≠ host → k ≠ id → cells'[k]? = b.cells[k]? := by
  have alone : b.detach id = b := by
    rw [detach,cell?,newest]
    rfl
  have apart : host ≠ id := by omega
  refine ⟨((b.update host fun c => {c with lastFirst := id :: c.lastFirst}).update id fun c => {c with parent := some host}).cells,
    ?_,?_,?_⟩
  · rw [attach,alone]
    rfl
  · refine ⟨few,?_,?_,?_,⟨cell,?_,?_⟩,?_⟩
    · simpa [update] using size
    · intro linked k name properties contents children loose
      by_cases isNew : k = id
      · subst isNew
        simp [update,Array.getElem?_modify,apart,newest] at loose
      · by_cases isHost : k = host
        · subst isHost
          simp only [update,Array.getElem?_modify,Ne.symm apart,found,if_true,if_false,Option.map_some,Option.some.injEq] at loose
          cases cell
          cases loose
          exact linked k _ _ _ _ ((same k below).symm.trans found)
        · simp only [update,Array.getElem?_modify,Ne.symm isNew,Ne.symm isHost,if_false] at loose
          by_cases old : k < cells.size
          · exact linked k _ _ _ _ ((same k old).symm.trans loose)
          · by_cases inside : k < id
            · rw [between k (Nat.le_of_not_lt old) inside] at loose
              cases loose
            · rw [Array.getElem?_eq_none (by omega)] at loose
              cases loose
    · intro k old other
      have younger : id ≠ k := by omega
      simp [update,Array.getElem?_modify,younger,Ne.symm other,same k old]
    · rw [← same host below,found]
    · simp [update,Array.getElem?_modify,Ne.symm apart,found]
    · simp [update,Array.getElem?_modify,apart,newest]
  · intro k notHost notNew
    simp [update,Array.getElem?_modify,Ne.symm notHost,Ne.symm notNew]

theorem add_old (b : Builder) (content : Content) {k : Nat} (old : k < b.cells.size) :
    (b.add content).1.cells[k]? = b.cells[k]? := by
  simp [add,Array.getElem?_push,Nat.ne_of_lt old]

theorem add_keeps (b : Builder) (content : Content) : Keeps b.cells (b.add content).1.cells := by
  intro k old
  rw [add_old b content old]

theorem addTo_planted {cell : Cell} (found : b.cells[host]? = some cell) (content : Content) :
    ∃ cells', (b.add content).1.attach host b.cells.size = {b with cells := cells'} ∧
      Planted b.cells cells' host b.cells.size content := by
  have below := (Array.getElem?_eq_some_iff.mp found).1
  have newest : (b.add content).1.cells[b.cells.size]? = some ⟨content,none,[]⟩ := by simp [add]
  obtain ⟨cells',same,planted,_⟩ := attach_newest ((add_old b content below).trans found) newest (by simp [add]) (Nat.le_refl _) below (fun k old => add_old b content old)
    fun k old young => absurd (Nat.lt_of_le_of_lt old young) (Nat.lt_irrefl _)
  exact ⟨cells',same,planted⟩

-- A state in which the next node has its place: among the children of the current element, or of
-- the contents of a current template.
structure Placed (b : Builder) : Prop where
  settled : b.fostering = false
  current : b.opened ≠ []
  old : ∀ id ∈ b.opened, id < b.cells.size
  host : ∃ cell, b.cells[b.site]? = some cell

theorem Placed.spot (placed : Placed b) : b.spot (b.current?.getD root) = .inside b.site :=
  spot_eq placed.settled placed.current

theorem Placed.add (placed : Placed b) (content : Content) : Placed (b.add content).1 ∧ (b.add content).1.site = b.site := by
  have same : (b.add content).1.site = b.site := keeps_site (add_keeps b content) rfl placed.old
  obtain ⟨cell,found⟩ := placed.host
  refine ⟨⟨placed.settled,placed.current,?_,cell,?_⟩,same⟩
  · intro id inside
    have old := placed.old id inside
    simp only [Builder.add,Array.size_push]
    exact Nat.lt_succ_of_lt old
  · rw [same,add_old b content (Array.getElem?_eq_some_iff.mp found).1,found]

theorem insertNode_planted (placed : Placed b) (n : Name) (properties : List Property) (plain : n.isHtml "template" = false) :
    ∃ cells', b.insertNode n properties = ({b with cells := cells'},b.cells.size) ∧
      Planted b.cells cells' b.site b.cells.size (.element n properties none) := by
  obtain ⟨cell,found⟩ := placed.host
  obtain ⟨cells',same,planted⟩ := addTo_planted found (.element n properties none)
  obtain ⟨placed',site⟩ := placed.add (.element n properties none)
  refine ⟨cells',?_,planted⟩
  have created : b.create n properties = b.add (.element n properties none) := by
    rw [create,plain]
    rfl
  rw [insertNode,created]
  simp only [placed'.spot,site,putNode]
  exact Prod.ext same rfl

theorem insertComment_planted (placed : Placed b) (value : Text) :
    ∃ cells', b.insertComment value = {b with cells := cells'} ∧
      Planted b.cells cells' b.site b.cells.size (.comment value) := by
  obtain ⟨cell,found⟩ := placed.host
  obtain ⟨cells',same,planted⟩ := addTo_planted found (.comment value)
  obtain ⟨placed',site⟩ := placed.add (.comment value)
  refine ⟨cells',?_,planted⟩
  rw [insertComment]
  simp only [placed'.spot,site,putNode]
  exact same

theorem insertTemplate_planted (placed : Placed b) (n : Name) (properties : List Property) (template : n.isHtml "template" = true) :
    ∃ cells', b.insertNode n properties = ({b with cells := cells'},b.cells.size + 1) ∧
      Planted b.cells cells' b.site (b.cells.size + 1) (.element n properties (some b.cells.size)) ∧
      cells'[b.cells.size]? = some ⟨.document,none,[]⟩ := by
  obtain ⟨cell,found⟩ := placed.host
  have below := (Array.getElem?_eq_some_iff.mp found).1
  obtain ⟨placed₁,site₁⟩ := placed.add .document
  obtain ⟨placed₂,site₂⟩ := placed₁.add (.element n properties (some b.cells.size))
  have created : b.create n properties =
      (((b.add .document).1.add (.element n properties (some b.cells.size))).1,b.cells.size + 1) := by
    rw [create,if_pos template]
    simp [add]
  have old : ∀ k : Nat, k < b.cells.size →
      ((b.add .document).1.add (.element n properties (some b.cells.size))).1.cells[k]? = b.cells[k]? := by
    intro k inside
    rw [add_old _ _ (by simp [add]; omega),add_old _ _ inside]
  have newest : ((b.add .document).1.add (.element n properties (some b.cells.size))).1.cells[b.cells.size + 1]? =
      some ⟨.element n properties (some b.cells.size),none,[]⟩ := by
    rw [show b.cells.size + 1 = (b.add .document).1.cells.size by simp [add]]
    exact Array.getElem?_push_size
  have between : ∀ k : Nat, b.cells.size ≤ k → k < b.cells.size + 1 →
      ((b.add .document).1.add (.element n properties (some b.cells.size))).1.cells[k]? = some ⟨.document,none,[]⟩ := by
    intro k after before
    cases Nat.le_antisymm (Nat.le_of_lt_succ before) after
    rw [add_old _ _ (by simp [add])]
    simp [add]
  obtain ⟨cells',same,planted,other⟩ := attach_newest ((old _ below).trans found) newest (by simp [add])
    (Nat.le_succ _) below old between
  refine ⟨cells',?_,planted,?_⟩
  · rw [insertNode,created]
    simp only [placed₂.spot,site₂,site₁,putNode]
    exact Prod.ext same rfl
  · rw [other _ (by omega) (by omega),between _ (Nat.le_refl _) (Nat.lt_succ_self _)]

-- Text that was begun at a place, backwards.
theorem insertChar_first (placed : Placed b) (c : Char) {cell : Cell} (found : b.cells[b.site]? = some cell)
    (noText : ∀ id ∈ cell.lastFirst.head?, ∀ backwards parent children, b.cells[id]? ≠ some ⟨.text backwards,parent,children⟩) :
    ∃ cells', b.insertChar c = {b with cells := cells'} ∧ Planted b.cells cells' b.site b.cells.size (.text [c]) := by
  obtain ⟨cells',same,planted⟩ := addTo_planted found (.text [c])
  refine ⟨cells',?_,planted⟩
  have fresh : b.extend? ((b.cell? b.site).bind (·.lastFirst.head?)) c = none := by
    rw [cell?,found,Option.bind_some]
    cases last : cell.lastFirst.head? with
    | none => rfl
    | some id =>
      rw [extend?]
      simp only [cell?]
      split
      · rename_i backwards parent children text
        exact absurd text (noText id last backwards parent children)
      · rfl
  rw [insertChar,placed.spot,putChar,attachChar,fresh]
  exact same

theorem insertChar_more (placed : Placed b) (c : Char) {backwards : Text} (planted : Planted cells b.cells b.site id (.text backwards)) :
    ∃ cells', b.insertChar c = {b with cells := cells'} ∧ Planted cells cells' b.site id (.text (c :: backwards)) := by
  obtain ⟨cell,before,after⟩ := planted.last
  have below := planted.host_lt
  have fresh := planted.fresh
  have apart : id ≠ b.site := by omega
  refine ⟨b.cells.modify id fun cell => {cell with content := .text (c :: backwards)},?_,fresh,?_,?_,?_,⟨cell,before,?_⟩,?_⟩
  · have extends_ : b.extend? ((b.cell? b.site).bind (·.lastFirst.head?)) c =
        some (b.update id fun cell => {cell with content := .text (c :: backwards)}) := by
      rw [cell?,after,Option.bind_some,List.head?_cons,extend?,cell?,planted.new]
    rw [insertChar,placed.spot,putChar,attachChar,extends_]
    rfl
  · simpa using planted.size
  · intro linked k name properties contents children loose
    by_cases isNew : k = id
    · subst isNew
      simp [Array.getElem?_modify,planted.new] at loose
    · simp only [Array.getElem?_modify,Ne.symm isNew,if_false] at loose
      exact planted.linked linked k _ _ _ _ loose
  · intro k old other
    have younger : id ≠ k := by omega
    simp [Array.getElem?_modify,younger,planted.kept k old other]
  · simp [Array.getElem?_modify,apart,after]
  · simp [Array.getElem?_modify,planted.new]

-- The last child of the place is no text that a character would go on with.
def Unjoined (b : Builder) : Prop := ∀ cell, b.cells[b.site]? = some cell → ∀ id ∈ cell.lastFirst.head?,
  ∀ backwards parent children, b.cells[id]? ≠ some ⟨.text backwards,parent,children⟩

theorem Placed.plant {cells : Array Cell} (placed : Placed b) (planted : Planted b.cells cells b.site id content) :
    Placed {b with cells := cells} ∧ Builder.site {b with cells := cells} = b.site := by
  have same : Builder.site {b with cells := cells} = b.site := keeps_site planted.keeps rfl placed.old
  obtain ⟨cell,_,after⟩ := planted.last
  refine ⟨⟨placed.settled,placed.current,fun id inside => ?_,_,same ▸ after⟩,same⟩
  refine Nat.lt_of_lt_of_le (placed.old id inside) ?_
  show b.cells.size ≤ cells.size
  rw [planted.size]
  exact Nat.le_succ_of_le planted.fresh

theorem Placed.grow {cells : Array Cell} (placed : Placed b) (grown : Sprouts b.cells cells b.site ts) :
    Placed {b with cells := cells} ∧ Builder.site {b with cells := cells} = b.site := by
  have same : Builder.site {b with cells := cells} = b.site := keeps_site grown.keeps rfl placed.old
  obtain ⟨cell,ids,_,after,_⟩ := grown.host
  exact ⟨⟨placed.settled,placed.current,fun id inside => Nat.lt_of_lt_of_le (placed.old id inside) grown.size,_,same ▸ after⟩,same⟩

-- Behind anything but a text there is nothing that a text would go on with.
theorem Unjoined.behind {t : Figure} (grown : Sprouts cells b.cells b.site [t]) (other : t.isText = false) : Unjoined b := by
  obtain ⟨cell,ids,_,after,held⟩ := grown.host
  intro cell' found id first backwards parent children text
  rw [after] at found
  cases found
  cases held with
  | cons one more =>
    cases more
    cases first
    cases one with
    | text => cases other
    | doctype _ is | comment _ is | element _ is | template _ _ _ is =>
      rw [is] at text
      cases text

-- A text is put behind something else than text.
theorem insertChars_planted {value : Text} (placed : Placed b) (unjoined : Unjoined b) (filled : value ≠ []) :
    ∃ cells', value.foldl insertChar b = {b with cells := cells'} ∧
      Planted b.cells cells' b.site b.cells.size (.text value.reverse) := by
  obtain ⟨c,value,rfl⟩ := List.exists_cons_of_ne_nil filled
  obtain ⟨cell,found⟩ := placed.host
  obtain ⟨cells,inserted,planted⟩ := insertChar_first placed c found (unjoined cell found)
  rw [List.foldl_cons,inserted]
  suffices more : ∀ (value front : Text) (cells : Array Cell), Planted b.cells cells b.site b.cells.size (.text front.reverse) →
      ∃ cells', value.foldl insertChar {b with cells := cells} = {b with cells := cells'} ∧
        Planted b.cells cells' b.site b.cells.size (.text (front ++ value).reverse) from more value [c] cells planted
  intro value
  induction value with
  | nil =>
    intro front cells planted
    exact ⟨cells,rfl,by rwa [List.append_nil]⟩
  | cons d value ih =>
    intro front cells planted
    obtain ⟨placed',site⟩ := placed.plant planted
    obtain ⟨cells',inserted,planted'⟩ := insertChar_more placed' d (by rw [site]; exact planted)
    rw [site] at planted'
    obtain ⟨cells'',goesOn,planted''⟩ := ih (front ++ [d]) cells' (by simpa using planted')
    refine ⟨cells'',?_,by simpa using planted''⟩
    rw [List.foldl_cons,inserted]
    exact goesOn

end StyleTrim.Html.Builder
