import StyleTrim.Proofs.Margins
import StyleTrim.Proofs.Shapes
namespace StyleTrim
open Text

-- An accordion that was drawn shows each of its sections twice, whatever its copies draw on the way.

namespace Amp
open Dom
variable {d d' d₁ d₂ e : Dom} {c copy h id k m n s : NodeId} {l l' parts parts' done rest : List NodeId} {isOpen : Bool} {name : Text}

def contentMark : Text := "i-amphtml-accordion-content"

-- How a header tells the state of its section.
def stateText (isOpen : Bool) : Text := if isOpen then "true" else "false"

-- A section that is shown open or shut, with those of its parts that were given.
structure Shows (d : Dom) (s : NodeId) (isOpen : Bool) (parts : List NodeId) : Prop where
  state : d.hasAttribute s "expanded" = isOpen
  header : ∀ h, parts[0]? = some h →
    d.attribute? h "aria-expanded" = some (stateText isOpen) ∧ d.hasClass h headerMark = true
  content : ∀ b, parts[1]? = some b → d.hasClass b contentMark = true

theorem Shows.fewer (shows : Shows d s isOpen parts') (front : parts <+: parts') : Shows d s isOpen parts := by
  obtain ⟨more,rfl⟩ := front
  refine ⟨shows.state,fun h found => shows.header h ?_,fun b found => shows.content b ?_⟩
  · exact (List.getElem?_append_left (List.getElem?_eq_some_iff.mp found).1).trans found
  · exact (List.getElem?_append_left (List.getElem?_eq_some_iff.mp found).1).trans found

-- What a section shows it shows as long as nobody else marks it or its parts.
theorem Shows.later (shows : Shows d s isOpen parts)
    (values : ∀ m name, m ∈ s :: parts → name ≠ ("class" : Text) → d'.attribute? m name = d.attribute? m name)
    (classes : ∀ m name, m ∈ parts → Token name → d.hasClass m name = true → d'.hasClass m name = true) :
    Shows d' s isOpen parts := by
  refine ⟨?_,fun h found => ?_,fun b found => ?_⟩
  · rw [hasAttribute,values s "expanded" List.mem_cons_self (by decide)]
    exact shows.state
  · obtain ⟨told,marked⟩ := shows.header h found
    have inside := List.mem_of_getElem? found
    rw [values h "aria-expanded" (List.mem_cons_of_mem s inside) (by decide)]
    exact ⟨told,classes h headerMark inside (by decide) marked⟩
  · exact classes b contentMark (List.mem_of_getElem? found) (by decide) (shows.content b found)

theorem unset_attribute? (d : Dom) (n : NodeId) (name : Text) : (d.removeAttribute n name).attribute? n name = none := by
  have gone : ∀ l : List Attribute, (l.filter (·.name != name)).find? (·.name == name) = none := by
    intro l
    refine List.find?_eq_none.mpr fun a inside => ?_
    simpa using (List.mem_filter.mp inside).2
  rw [removeAttribute,attribute?,node?,edit_slot?,if_pos rfl]
  cases d.slot? n with
  | none => rfl
  | some s => cases live : s.live <;> simp [Slot.painted,live,gone]

theorem set_hasClass (other : ("class" : Text) ≠ name) (d : Dom) (n m : NodeId) (value mark : Text) :
    (d.setAttribute n name value).hasClass m mark = d.hasClass m mark :=
  hasClass_congr (edit_attribute? (find_putAttribute other value) n m) mark

theorem heading_shows (current : d.Current h) (isOpen : Bool) :
    (heading d h isOpen).attribute? h "aria-expanded" = some (stateText isOpen) ∧
      (heading d h isOpen).hasClass h headerMark = true := by
  have marked : (d.addClass h headerMark).hasClass h headerMark = true := addClass_gives current (by decide)
  refine ⟨set_attribute? (edit_current.mpr (edit_current.mpr ((addClass_current d h h headerMark).mpr current))) _ _,?_⟩
  rw [heading,set_hasClass (by decide),set_hasClass (by decide),set_hasClass (by decide),marked]

theorem heading_attribute? (other : name ≠ ("class" : Text)) (free : name ∉ ofStrings ["role","tabindex","aria-expanded"])
    (d : Dom) (h m : NodeId) (isOpen : Bool) : (heading d h isOpen).attribute? m name = d.attribute? m name := by
  simp only [ofStrings,List.map_cons,List.map_nil,List.mem_cons,List.not_mem_nil,or_false,not_or] at free
  obtain ⟨role,index,state⟩ := free
  rw [heading,setAttribute,edit_attribute? (find_putAttribute state _),setAttribute,edit_attribute? (find_putAttribute index _),
    setAttribute,edit_attribute? (find_putAttribute role _),addClass_attribute? other]

theorem showing_shows (current : d.Current n) : (showing d n).hasClass n contentMark = true := by
  rw [showing,set_hasClass (by decide)]
  exact addClass_gives current (by decide)

theorem showing_keeps (current : d.Current n) (there : d.Current m) (token : Token name) (has : d.hasClass m name = true) :
    (showing d n).hasClass m name = true := by
  rw [showing,set_hasClass (by decide)]
  exact addClass_keeps current there token _ has

theorem showing_attribute? (other : name ≠ ("class" : Text)) (free : name ≠ ("role" : Text)) (d : Dom) (n m : NodeId) :
    (showing d n).attribute? m name = d.attribute? m name := by
  rw [showing,setAttribute,edit_attribute? (find_putAttribute free _),addClass_attribute? other]

theorem elementChildren_congr (children : d'.children m = d.children m) (kind : ∀ c ∈ d.children m, d'.kind? c = d.kind? c) :
    d'.elementChildren m = d.elementChildren m := by
  rw [elementChildren,children,elementChildren]
  exact List.filter_congr fun c child => isElement_congr (kind c child)

theorem edit_elementChildren (d : Dom) (n m : NodeId) (f : List Attribute → List Attribute) :
    (d.editAttributes n f).elementChildren m = d.elementChildren m :=
  elementChildren_congr (edit_children d n m f) fun c _ => edit_kind? d n c f

theorem markSection_children (d : Dom) (s m : NodeId) (isOpen : Bool) : (markSection d s isOpen).children m = d.children m := by
  obtain ⟨d₁,opened,d₂,headed,whole⟩ := markSection_eq d s isOpen
  have first : d₁.children m = d.children m := by
    rw [opened]
    split
    · exact edit_children d s m _
    · exact edit_children d s m _
  have second : d₂.children m = d.children m := by
    rw [headed]
    split
    · rw [heading,setAttribute,edit_children,setAttribute,edit_children,setAttribute,edit_children,addClass_children,first]
    · exact first
  rw [whole]
  split
  · rw [showing,setAttribute,edit_children,addClass_children,second]
  · exact second

theorem markSection_elementChildren (d : Dom) (s m : NodeId) (isOpen : Bool) :
    (markSection d s isOpen).elementChildren m = d.elementChildren m :=
  elementChildren_congr (markSection_children d s m isOpen) fun c _ => (markSection_relabelled d s isOpen).kind c

-- Marking a section tells its state, that of its header, and which part is its content.
theorem markSection_shows (forest : d.Forest) (current : d.Current s) (isOpen : Bool) :
    Shows (markSection d s isOpen) s isOpen (d.elementChildren s) := by
  obtain ⟨d₁,opened,d₂,headed,whole⟩ := markSection_eq d s isOpen
  have first : (∀ m, d₁.Current m ↔ d.Current m) ∧ d₁.elementChildren s = d.elementChildren s ∧ d₁.hasAttribute s "expanded" = isOpen := by
    rw [opened]
    cases isOpen with
    | true => exact ⟨fun _ => edit_current,edit_elementChildren d s s _,by rw [if_pos rfl,hasAttribute,set_attribute? current]; rfl⟩
    | false => exact ⟨fun _ => edit_current,edit_elementChildren d s s _,by rw [if_neg Bool.false_ne_true,hasAttribute,unset_attribute?]; rfl⟩
  obtain ⟨same,parts,state⟩ := first
  rw [parts] at headed whole
  have there : ∀ (i : Nat) n, (d.elementChildren s)[i]? = some n → d₁.Current n := fun i n found =>
    (same n).mpr (forest.down current (mem_elementChildren.mp (List.mem_of_getElem? found)).1).1
  have second : (∀ m, d₂.Current m ↔ d₁.Current m) ∧ d₂.hasAttribute s "expanded" = isOpen ∧
      ∀ h, (d.elementChildren s)[0]? = some h → d₂.attribute? h "aria-expanded" = some (stateText isOpen) ∧
        d₂.hasClass h headerMark = true := by
    rw [headed]
    split
    · rename_i header found
      refine ⟨(heading_relabelled d₁ header isOpen).current,?_,fun h got => ?_⟩
      · rw [hasAttribute,heading_attribute? (by decide) (by decide),← hasAttribute,state]
      · cases found.symm.trans got
        exact heading_shows (there 0 header found) isOpen
    · rename_i none
      refine ⟨fun _ => .rfl,state,fun h got => ?_⟩
      rw [none] at got
      cases got
  obtain ⟨same',state',header⟩ := second
  rw [whole]
  split
  · rename_i content found
    have here := (same' content).mpr (there 1 content found)
    refine ⟨?_,fun h got => ?_,fun b got => ?_⟩
    · rw [hasAttribute,showing_attribute? (by decide) (by decide),← hasAttribute,state']
    · obtain ⟨told,marked⟩ := header h got
      rw [showing_attribute? (by decide) (by decide)]
      exact ⟨told,showing_keeps here ((same' h).mpr (there 0 h got)) (by decide) marked⟩
    · cases found.symm.trans got
      exact showing_shows here
  · rename_i none
    refine ⟨state',header,fun b got => ?_⟩
    rw [none] at got
    cases got

-- What is neither a section that was marked, nor a child of one.
def Unmarked (d : Dom) (marked : List NodeId) (m : NodeId) : Prop := m ∉ marked ∧ ∀ p ∈ marked, d.parent? m ≠ some p

-- All places are kept, and nothing but toolbars comes, behind the other children, to any node but the accordion.
-- Sections are marked, in themselves and in their children.
structure Apart (marked : List NodeId) (id : NodeId) (d d' : Dom) : Prop where
  forest : d'.Forest
  current : ∀ m, d.Current m → d'.Current m
  kind : ∀ m, d.Current m → d'.kind? m = d.kind? m
  parent : ∀ m, d.Current m → d'.parent? m = d.parent? m
  classes : ∀ m name, d.Current m → Token name → d.hasClass m name = true → d'.hasClass m name = true
  values : ∀ m name, d.Current m → name ≠ ("class" : Text) → (name ∈ sectionMarks → Unmarked d marked m) →
    d'.attribute? m name = d.attribute? m name
  behind : ∀ m, d.Current m → m ≠ id → Lengthens d d' m

theorem Apart.refl (forest : d.Forest) (marked : List NodeId) (id : NodeId) : Apart marked id d d :=
  ⟨forest,fun _ there => there,fun _ _ => rfl,fun _ _ => rfl,fun _ _ _ _ has => has,fun _ _ _ _ _ => rfl,
    fun _ _ _ => .same rfl⟩

theorem Apart.tag (apart : Apart l id d d') (there : d.Current m) : d'.tag? m = d.tag? m := tag?_congr (apart.kind m there)

theorem Apart.trans (one : Apart l id d d₁) (other : Apart l' id d₁ d₂) : Apart (l ++ l') id d d₂ := by
  refine ⟨other.forest,?_,?_,?_,?_,?_,?_⟩
  · intro m there
    exact other.current m (one.current m there)
  · intro m there
    rw [other.kind m (one.current m there),one.kind m there]
  · intro m there
    rw [other.parent m (one.current m there),one.parent m there]
  · intro m name there token has
    exact other.classes m name (one.current m there) token (one.classes m name there token has)
  · intro m name there apart free
    rw [other.values m name (one.current m there) apart,one.values m name there apart]
    · intro mark
      obtain ⟨self,upper⟩ := free mark
      exact ⟨fun inside => self (List.mem_append_left l' inside),fun p inside => upper p (List.mem_append_left l' inside)⟩
    · intro mark
      obtain ⟨self,upper⟩ := free mark
      refine ⟨fun inside => self (List.mem_append_right l inside),fun p inside => ?_⟩
      rw [one.parent m there]
      exact upper p (List.mem_append_right l inside)
  · intro m there inner
    exact (one.behind m there inner).trans (other.behind m (one.current m there) inner) fun c child =>
      other.tag (one.forest.down (one.current m there) child).1

theorem Apart.edit {f : List Attribute → List Attribute} (apart : Apart l id d e) (current : e.Current n)
    (part : ¬ Unmarked d l n)
    (keeps : ∀ name, name ∉ sectionMarks → ∀ l, (f l).find? (·.name == name) = l.find? (·.name == name)) :
    Apart l id d (e.editAttributes n f) := by
  refine ⟨edit_forest apart.forest,?_,?_,?_,?_,?_,?_⟩
  · intro m there
    exact edit_current.mpr (apart.current m there)
  · intro m there
    rw [edit_kind?,apart.kind m there]
  · intro m there
    rw [edit_parent?,apart.parent m there]
  · intro m name there token has
    rw [hasClass_congr (edit_attribute? (keeps "class" (by decide)) n m)]
    exact apart.classes m name there token has
  · intro m name there other free
    by_cases mark : name ∈ sectionMarks
    · have distinct : m ≠ n := fun same => part (same ▸ free mark)
      rw [edit_apart current (apart.current m there) distinct,apart.values m name there other free]
    · rw [edit_attribute? (keeps name mark),apart.values m name there other free]
  · intro m there other
    exact (apart.behind m there other).trans (.same (edit_children e n m f)) fun c _ => tag?_congr (edit_kind? e n c f)

theorem Apart.set (apart : Apart l id d e) (current : e.Current n) (part : ¬ Unmarked d l n) (mark : name ∈ sectionMarks)
    (value : Text) : Apart l id d (e.setAttribute n name value) := by
  refine apart.edit current part fun other free => find_putAttribute ?_ value
  rintro rfl
  exact free mark

theorem Apart.addClass (apart : Apart l id d e) (current : e.Current n) (mark : Text) : Apart l id d (e.addClass n mark) := by
  have same := addClass_relabelled e n mark
  refine ⟨addClass_forest apart.forest n mark,?_,?_,?_,?_,?_,?_⟩
  · intro m there
    exact (same.current m).mpr (apart.current m there)
  · intro m there
    rw [same.kind,apart.kind m there]
  · intro m there
    rw [same.parent,apart.parent m there]
  · intro m name there token has
    exact addClass_keeps current (apart.current m there) token mark (apart.classes m name there token has)
  · intro m name there other free
    rw [addClass_attribute? other,apart.values m name there other free]
  · intro m there other
    exact (apart.behind m there other).trans (.same (addClass_children e n m mark)) fun c _ => tag?_congr (same.kind c)

-- Marking a section concerns no others.
theorem markSection_apart (forest : d.Forest) (current : d.Current s) (id : NodeId) (isOpen : Bool) :
    Apart [s] id d (markSection d s isOpen) := by
  obtain ⟨d₁,opened,d₂,headed,whole⟩ := markSection_eq d s isOpen
  have own : ¬ Unmarked d [s] s := fun free => free.1 List.mem_cons_self
  have first : Apart [s] id d d₁ ∧ d₁.elementChildren s = d.elementChildren s := by
    rw [opened]
    split
    · exact ⟨(Apart.refl forest [s] id).set current own (by decide) [],edit_elementChildren d s s _⟩
    · refine ⟨(Apart.refl forest [s] id).edit current own fun name free => find_filter_name ?_,edit_elementChildren d s s _⟩
      rintro rfl
      exact free (by decide)
  obtain ⟨first,parts⟩ := first
  rw [parts] at headed whole
  have part : ∀ (i : Nat) n, (d.elementChildren s)[i]? = some n → d.Current n ∧ ¬ Unmarked d [s] n := by
    intro i n found
    obtain ⟨there,linked⟩ := forest.down current (mem_elementChildren.mp (List.mem_of_getElem? found)).1
    exact ⟨there,fun free => free.2 s List.mem_cons_self linked⟩
  have second : Apart [s] id d d₂ := by
    rw [headed]
    split
    · rename_i header found
      obtain ⟨there,part⟩ := part 0 header found
      have current := first.current header there
      have here := (addClass_current d₁ header header headerMark).mpr current
      exact (((first.addClass current headerMark).set here part (by decide) _).set (edit_current.mpr here) part (by decide) _).set
        (edit_current.mpr (edit_current.mpr here)) part (by decide) _
    · exact first
  rw [whole]
  split
  · rename_i content found
    obtain ⟨there,part⟩ := part 1 content found
    have current := second.current content there
    exact (second.addClass current _).set ((addClass_current d₂ content content _).mpr current) part (by decide) _
  · exact second

theorem Apart.front (apart : Apart l id d d') (forest : d.Forest) (there : d.Current m) (other : m ≠ id) :
    d.elementChildren m <+: d'.elementChildren m := by
  obtain ⟨more,whole,_⟩ := apart.behind m there other
  have kept : (d.children m).filter d'.isElement = d.elementChildren m :=
    List.filter_congr fun c child => isElement_congr (apart.kind c (forest.down there child).1)
  rw [elementChildren.eq_def d',whole,List.filter_append,kept]
  exact List.prefix_append _ _

-- What comes beside the nodes that are there is none of them.
theorem Apart.old (apart : Apart (l ++ [copy]) id e d') (beside : Beside d e) (forest : d.Forest) (new : ¬ d.Current copy) :
    Apart l id d d' := by
  refine ⟨apart.forest,?_,?_,?_,?_,?_,?_⟩
  · intro m there
    exact apart.current m (beside.current m there)
  · intro m there
    rw [apart.kind m (beside.current m there),kind?,beside.node m there,kind?]
  · intro m there
    rw [apart.parent m (beside.current m there),beside.parent m there]
  · intro m name there token has
    refine apart.classes m name (beside.current m there) token ?_
    rwa [hasClass,attribute?,beside.node m there]
  · intro m name there other free
    rw [apart.values m name (beside.current m there) other,attribute?,beside.node m there,attribute?]
    intro mark
    obtain ⟨self,upper⟩ := free mark
    refine ⟨fun inside => ?_,fun p inside linked => ?_⟩
    · rcases List.mem_append.mp inside with before | last
      · exact self before
      · exact new (List.mem_singleton.mp last ▸ there)
    · rw [beside.parent m there] at linked
      rcases List.mem_append.mp inside with before | last
      · exact upper p before linked
      · exact new (List.mem_singleton.mp last ▸ (forest.up there linked).1)
  · intro m there other
    exact .trans (.same (beside.children m there)) (apart.behind m (beside.current m there) other) fun c child =>
      apart.tag (beside.forest.down (beside.current m there) child).1

-- The copy of a section is put into the accordion.
theorem Apart.put {place : List NodeId → List NodeId} (apart : Apart l id d e) (moved : Moved e d' (some id) copy place)
    (received : Receives e id copy place) (current : e.Current copy) (new : ¬ d.Current copy) (top : e.parent? copy = none) :
    Apart l id d d' := by
  have same : ∀ m name, d'.attribute? m name = e.attribute? m name := fun m name => by rw [attribute?,moved.node,attribute?]
  refine ⟨moved.receives apart.forest current received,?_,?_,?_,?_,?_,?_⟩
  · intro m there
    exact (moved.current m).mpr (apart.current m there)
  · intro m there
    rw [kind?,moved.node,← kind?,apart.kind m there]
  · intro m there
    have other : m ≠ copy := fun here => new (here ▸ there)
    rw [moved.parent m (apart.current m there),if_neg other,apart.parent m there]
  · intro m name there token has
    rw [hasClass,same,← hasClass]
    exact apart.classes m name there token has
  · intro m name there other free
    rw [same,apart.values m name there other free]
  · intro m there other
    refine (apart.behind m there other).trans (.same ?_) fun c _ => by rw [tag?,moved.node,tag?]
    rw [moved.children m (apart.current m there),if_neg fun here => other (Option.some.inj here).symm,
      apart.forest.filter_alone (apart.current m there) top]

theorem Apart.drawn {still : NodeId → Prop} (apart : Apart l id d e) (guards : Guards d.Current still e d') : Apart l id d d' := by
  have within := guards.margin.within
  refine ⟨guards.forest,?_,?_,?_,?_,?_,?_⟩
  · intro m there
    exact guards.current m (apart.current m there)
  · intro m there
    rw [guards.kind m (apart.current m there),apart.kind m there]
  · intro m there
    rw [guards.parent m (within m there),apart.parent m there]
  · intro m name there token has
    exact guards.classes m name (apart.current m there) token (apart.classes m name there token has)
  · intro m name there other free
    rw [guards.values m name (within m there) other,apart.values m name there other free]
  · intro m there other
    exact (apart.behind m there other).trans (guards.behind m there) fun c child =>
      guards.tag (apart.forest.down (apart.current m there) child).1

-- Others than those that were marked go on to show what they show.
theorem Shows.apart (shows : Shows e s isOpen parts) (apart : Apart l id e d') (forest : e.Forest) (current : e.Current s)
    (self : Unmarked e l s) (free : ∀ p ∈ l, e.parent? p ≠ some s) (inside : parts ⊆ e.elementChildren s) :
    Shows d' s isOpen parts := by
  have part : ∀ m ∈ parts, e.Current m ∧ Unmarked e l m := by
    intro m part
    obtain ⟨there,linked⟩ := forest.down current (mem_elementChildren.mp (inside part)).1
    refine ⟨there,fun marked => free m marked linked,fun p marked upward => ?_⟩
    cases linked.symm.trans upward
    exact self.1 marked
  refine shows.later (fun m name listed other => ?_) fun m name listed token has => ?_
  · rcases List.mem_cons.mp listed with rfl | below
    · exact apart.values m name current other fun _ => self
    · exact apart.values m name (part m below).1 other fun _ => (part m below).2
  · exact apart.classes m name (part m listed).1 token has

-- A new node that stands alone may be marked.
theorem unmarked_of_new (forest : d.Forest) (current : d.Current s) (new : ¬ d.Current copy)
    (linked : e.parent? s = d.parent? s) (top : e.parent? copy = none) :
    Unmarked e [copy] s ∧ ∀ p ∈ [copy], e.parent? p ≠ some s := by
  refine ⟨⟨fun listed => ?_,fun p listed upward => ?_⟩,fun p listed => ?_⟩
  · exact new (List.mem_singleton.mp listed ▸ current)
  · cases List.mem_singleton.mp listed
    exact new (forest.up current (linked.symm.trans upward)).1
  · simp [List.mem_singleton.mp listed,top]

-- A new node that is like another in all that marks leave.
structure Likeness (d d' : Dom) (n k : NodeId) : Prop where
  new : ¬ d.Current k
  current : d'.Current k
  kind : d'.kind? k = d.kind? n
  values : ∀ name, name ≠ ("class" : Text) → name ∉ sectionMarks → d'.attribute? k name = d.attribute? n name
  classes : ∀ name, Token name → d.hasClass n name = true → d'.hasClass k name = true

theorem Likeness.kept (like : Likeness d e n k) (current : d'.Current k) (kind : d'.kind? k = e.kind? k)
    (values : ∀ name, name ≠ ("class" : Text) → name ∉ sectionMarks → d'.attribute? k name = e.attribute? k name)
    (classes : ∀ name, Token name → e.hasClass k name = true → d'.hasClass k name = true) : Likeness d d' n k := by
  refine ⟨like.new,current,kind.trans like.kind,?_,?_⟩
  · intro name other free
    rw [values name other free,like.values name other free]
  · intro name token has
    exact classes name token (like.classes name token has)

theorem Likeness.later (like : Likeness d e n k) (apart : Apart l id e d') : Likeness d d' n k :=
  like.kept (apart.current k like.current) (apart.kind k like.current)
    (fun name other free => apart.values k name like.current other fun mark => absurd mark free)
    fun name => apart.classes k name like.current

theorem Likeness.earlier (like : Likeness e d' n k) (apart : Apart l id d e) (there : d.Current n) : Likeness d d' n k := by
  refine ⟨fun old => like.new (apart.current k old),like.current,?_,?_,?_⟩
  · rw [like.kind,apart.kind n there]
  · intro name other free
    rw [like.values name other free,apart.values n name there other fun mark => absurd mark free]
  · intro name token has
    exact like.classes name token (apart.classes n name there token has)

-- A section that is shown open, and a copy of it that is shown shut. The element children that the section had are
-- still the first, and those of the copy, in their order, are copies of them.
structure Doubled (d d' : Dom) (s c : NodeId) : Prop where
  copy : Likeness d d' s c
  front : d.elementChildren s <+: d'.elementChildren s
  opened : Shows d' s true (d.elementChildren s)
  shut : ∃ parts, List.Forall₂ (Likeness d d') (d.elementChildren s) parts ∧ parts.Sublist (d'.elementChildren c) ∧
    Shows d' c false parts

-- It stays doubled while other sections of the accordion are.
theorem Doubled.later (doubled : Doubled d e s c) (apart : Apart l id e d') (forest : e.Forest) (there : e.Current id)
    (outside : ∀ p ∈ l, e.parent? p = some id) (members : s ∈ e.children id ∧ c ∈ e.children id) (free : s ∉ l ∧ c ∉ l) :
    Doubled d d' s c := by
  have clear : ∀ m, m ∈ e.children id → m ∉ l → e.Current m ∧ m ≠ id ∧ Unmarked e l m ∧ ∀ p ∈ l, e.parent? p ≠ some m := by
    intro m child free
    obtain ⟨current,linked⟩ := forest.down there child
    have other : m ≠ id := (forest.apart current linked).symm
    refine ⟨current,other,⟨free,fun p inside upward => ?_⟩,fun p inside upward => ?_⟩
    · cases linked.symm.trans upward
      exact (forest.apart there (outside id inside)) rfl
    · exact other (Option.some.inj (upward.symm.trans (outside p inside)))
  obtain ⟨first,last⟩ := members
  obtain ⟨current,other,self,lower⟩ := clear s first free.1
  obtain ⟨current',other',self',lower'⟩ := clear c last free.2
  obtain ⟨parts,likes,sub,shut⟩ := doubled.shut
  have more := (apart.front forest current' other').sublist
  refine ⟨doubled.copy.later apart,doubled.front.trans (apart.front forest current other),?_,parts,?_,sub.trans more,?_⟩
  · exact doubled.opened.apart apart forest current self lower doubled.front.subset
  · exact likes.imp fun n k like => like.later apart
  · exact shut.apart apart forest current' self' lower' sub.subset

-- It is doubled as it was before, though other sections were.
theorem Doubled.earlier (doubled : Doubled e d' s c) (apart : Apart l id d e) (forest : d.Forest) (there : d.Current s)
    (other : s ≠ id) : Doubled d d' s c := by
  have front := apart.front forest there other
  have current : ∀ n ∈ d.elementChildren s, d.Current n := fun n child => (forest.down there (mem_elementChildren.mp child).1).1
  obtain ⟨parts,likes,sub,shut⟩ := doubled.shut
  have first := List.forall₂_take (d.elementChildren s).length likes
  rw [← List.prefix_iff_eq_take.mp front] at first
  refine ⟨doubled.copy.earlier apart there,front.trans doubled.front,doubled.opened.fewer front,_,
    ((List.forall₂_and_left _ _).mpr ⟨current,first⟩).imp fun n k both => both.2.earlier apart both.1,
    (List.take_sublist _ parts).trans sub,shut.fewer (List.take_prefix _ parts)⟩

-- A section and its copy, both marked.
structure Paired (d e : Dom) (id s copy : NodeId) : Prop where
  apart : Apart [s] id d e
  like : Likeness d e s copy
  opened : Shows e s true (d.elementChildren s)
  parts : List.Forall₂ (fun n k => Likeness d e n k ∧ e.parent? k = some copy) (d.elementChildren s) (e.elementChildren copy)
  shut : Shows e copy false (e.elementChildren copy)

theorem Likeness.copied (new : ¬ d.Current k) (current : e.Current k) (node : e.node? k = d.node? n) : Likeness d e n k := by
  have same : ∀ name, e.attribute? k name = d.attribute? n name := fun name => by rw [attribute?,node,attribute?]
  refine ⟨new,current,by rw [kind?,node,kind?],fun name _ _ => same name,fun name _ has => ?_⟩
  rwa [hasClass,same]

theorem Likeness.moved {place : List NodeId → List NodeId} {target : Option NodeId} (like : Likeness d e n k)
    (moved : Moved e d' target c place) : Likeness d d' n k :=
  like.kept ((moved.current k).mpr like.current) (by rw [kind?,moved.node,kind?])
    (fun name _ _ => by rw [attribute?,moved.node,attribute?]) fun name _ has => by rwa [hasClass,attribute?,moved.node]

theorem Shows.moved {place : List NodeId → List NodeId} {target : Option NodeId} (shows : Shows e s isOpen parts)
    (moved : Moved e d' target c place) : Shows d' s isOpen parts :=
  shows.later (fun m name _ _ => by rw [attribute?,moved.node,attribute?]) fun m name _ _ has => by
    rwa [hasClass,attribute?,moved.node]

-- The section is copied outside of the document.
theorem doubleSection_pairs (draw : Draw) (forest : d.Forest) (current : d.Current s) (id : NodeId) : ∃ copy e,
    doubleSection draw d s = draw (e.insertAfter s copy) copy ∧ Paired d e id s copy ∧ e.parent? copy = none ∧
    ∀ m, d.Current m → e.children m = d.children m := by
  obtain ⟨copy,payload,made,found,headed,_⟩ := clone_headed forest current
  unfold doubleSection
  generalize d.clone s = result at made headed
  obtain ⟨e,copy?⟩ := result
  cases made
  dsimp only at headed
  refine ⟨copy,markSection (markSection e s true) copy false,rfl,?_⟩
  have beside := headed.beside
  have there := beside.current s current
  have opened := markSection_apart beside.forest there id true
  have shows := markSection_shows beside.forest there true
  have current' := opened.current copy headed.current
  have shut := markSection_apart opened.forest current' id false
  have shows' := markSection_shows opened.forest current' false
  have labels := markSection_relabelled e s true
  have labels' := markSection_relabelled (markSection e s true) copy false
  have children : ∀ m, (markSection (markSection e s true) copy false).children m = e.children m := fun m => by
    rw [markSection_children,markSection_children]
  have parts := markSection_elementChildren e s copy true
  have parts' := markSection_elementChildren (markSection e s true) copy copy false
  have inside := markSection_elementChildren e s s true
  have same : e.elementChildren s = d.elementChildren s := by
    refine elementChildren_congr (beside.children s current) fun c child => ?_
    rw [kind?,beside.node c (forest.down current child).1,kind?]
  generalize markSection e s true = e₁ at *
  generalize markSection e₁ copy false = e₂ at *
  have both := opened.trans shut
  refine ⟨⟨both.old beside forest headed.new,?_,?_,?_,?_⟩,?_,?_⟩
  · exact (Likeness.copied headed.new headed.current (by rw [headed.node,found])).later both
  · rw [← same]
    obtain ⟨self,free⟩ := unmarked_of_new forest current headed.new ((labels.parent s).trans (beside.parent s current))
      ((labels.parent copy).trans headed.top)
    exact shows.apart shut opened.forest (opened.current s there) self free fun m listed => by rwa [inside]
  · rw [parts',parts]
    refine (List.rel_filter (fun n k twin => ?_) headed.children).imp fun n k twin => ⟨?_,?_⟩
    · exact iff_of_eq (congrArg (· = true) twin.isElement.symm)
    · exact (Likeness.copied twin.new twin.current twin.node).later both
    · rw [labels'.parent,labels.parent,twin.parent]
  · rw [parts']
    exact shows'
  · rw [labels'.parent,labels.parent,headed.top]
  · intro m old
    rw [children,beside.children m old]

-- A section of an accordion with its copy behind it, before anything is drawn in the copy.
structure Placed (d e : Dom) (id s copy : NodeId) : Prop where
  pair : Paired d e id s copy
  tag : e.tag? copy = some ("section" : Text)
  parent : e.parent? copy = some id
  alone : ∀ m p, e.Current m → e.parent? m = some p → d.Current p → d.Current m ∨ m = copy
  order : ∃ before after, d.children id = before ++ s :: after ∧ e.children id = before ++ s :: copy :: after

-- Nothing above a node that was there is new, so that the copy can be put behind the section.
theorem Paired.placed (pair : Paired d e id s copy) (forest : d.Forest) (there : d.Current id) (child : s ∈ d.children id)
    (named : d.tag? s = some ("section" : Text)) (top : e.parent? copy = none)
    (children : ∀ m, d.Current m → e.children m = d.children m) : Placed d (e.insertAfter s copy) id s copy := by
  obtain ⟨apart,like,opened,parts,shut⟩ := pair
  obtain ⟨current,linked⟩ := forest.down there child
  have free : ¬ e.Above copy s := by
    intro above
    rw [above_congr apart.parent (fun m p old upward => ?_) current] at above
    · exact like.new (forest.above current above)
    · rw [apart.parent m old] at upward
      exact (forest.up old upward).1
  have upward := (apart.parent s current).trans linked
  obtain ⟨moved,received⟩ := insertAfter_moved apart.forest like.current (apart.current s current) upward free
  have order := placeAfter_split (d.children id) s copy child fun x inside slot => (forest.down there inside).1.same current slot
  have absent : ∀ m, d.Current m → (e.children m).filter (· ≠ copy) = d.children m := by
    intro m old
    rw [apart.forest.filter_alone (apart.current m old) top,children m old]
  generalize e.insertAfter s copy = e' at moved
  have put := apart.put moved received like.current like.new top
  have own : e'.elementChildren copy = e.elementChildren copy := by
    refine elementChildren_congr ?_ fun c _ => by rw [kind?,moved.node,kind?]
    rw [moved.children copy like.current,if_neg (by rintro ⟨⟩; exact like.new there),
      apart.forest.filter_alone like.current top]
  refine ⟨⟨put,like.moved moved,opened.moved moved,?_,?_⟩,?_,?_,?_,?_⟩
  · rw [own]
    refine parts.imp fun n k part => ⟨part.1.moved moved,?_⟩
    rw [moved.parent k part.1.current,if_neg,part.2]
    rintro rfl
    cases top.symm.trans part.2
  · rw [own]
    exact shut.moved moved
  · rw [tag?,moved.node,← tag?,tag?_congr like.kind,named]
  · rw [moved.parent copy like.current,if_pos rfl]
  · intro m p current' linked' old
    by_cases same : m = copy
    · exact .inr same
    · rw [moved.parent m ((moved.current m).mp current'),if_neg same] at linked'
      have below := (apart.forest.up ((moved.current m).mp current') linked').2
      rw [children p old] at below
      exact .inl (forest.down old below).1
  · rw [moved.children id (apart.current id there),if_pos rfl,absent id there]
    exact order

-- What lies in the copy is drawn, but nobody marks or moves the copy's own children.
def Quiet (d e : Dom) (copy m : NodeId) : Prop := d.Current m ∨ m = copy ∨ e.Current m ∧ e.parent? m = some copy

theorem Placed.margin (placed : Placed d e id s copy) (forest : d.Forest) (there : d.Current id) :
    Margin d.Current (Quiet d e copy) e := by
  have apart := placed.pair.apart
  refine ⟨?_,fun m => Or.inl,?_,?_,?_,?_⟩
  · rintro m (old | rfl | ⟨current,_⟩)
    · exact apart.current m old
    · exact placed.pair.like.current
    · exact current
  · intro m p old linked
    rw [apart.parent m old] at linked
    exact (forest.up old linked).1
  · rintro m p (old | rfl | ⟨_,upper⟩) linked
    · rw [apart.parent m old] at linked
      exact .inl (forest.up old linked).1
    · cases placed.parent.symm.trans linked
      exact .inl there
    · exact .inr (.inl (Option.some.inj (linked.symm.trans upper)))
  · rintro m p (old | rfl | ⟨_,upper⟩) linked new
    · rw [apart.parent m old] at linked
      exact absurd (forest.up old linked).1 new
    · cases placed.parent.symm.trans linked
      exact absurd there new
    · cases upper.symm.trans linked
      exact placed.tag
  · intro p c old child new
    obtain ⟨current,linked⟩ := apart.forest.down (apart.current p old) child
    cases (placed.alone c p current linked old).resolve_left new
    rw [placed.tag]
    decide

theorem Likeness.drawn {still : NodeId → Prop} (like : Likeness d e n k) (guards : Guards d.Current still e d') (quiet : still k) :
    Likeness d d' n k :=
  like.kept (guards.current k like.current) (guards.kind k like.current) (fun name other _ => guards.values k name quiet other)
    fun name => guards.classes k name like.current

-- Drawing in the copy leaves the section doubled.
theorem Placed.drawn (placed : Placed d e id s copy) (forest : d.Forest) (there : d.Current s) (other : s ≠ id)
    (guards : Guards d.Current (Quiet d e copy) e d') (adds : Adds root [] e d') : Doubled d d' s copy := by
  have apart := placed.pair.apart
  have children : ∀ k ∈ e.elementChildren copy, e.Current k ∧ Quiet d e copy k := by
    intro k child
    have below := apart.forest.down placed.pair.like.current (mem_elementChildren.mp child).1
    exact ⟨below.1,.inr (.inr below)⟩
  have parts : ∀ m ∈ d.elementChildren s, d.Current m := fun m child => (forest.down there (mem_elementChildren.mp child).1).1
  have same : (e.children copy).filter d'.isElement = e.elementChildren copy := List.filter_congr fun k child =>
    isElement_congr (guards.kind k (apart.forest.down placed.pair.like.current child).1)
  refine ⟨placed.pair.like.drawn guards (.inr (.inl rfl)),(apart.drawn guards).front forest there other,?_,e.elementChildren copy,?_,?_,?_⟩
  · refine placed.pair.opened.later (fun m name listed => guards.values m name (.inl ?_)) fun m name listed =>
      guards.classes m name (apart.current m (parts m listed))
    rcases List.mem_cons.mp listed with rfl | below
    · exact there
    · exact parts m below
  · exact placed.pair.parts.imp fun n k part => part.1.drawn guards (.inr (.inr ⟨part.1.current,part.2⟩))
  · rw [← same]
    exact (adds.order copy placed.pair.like.current placed.tag).filter _
  · refine placed.pair.shut.later (fun m name listed => guards.values m name ?_) fun m name listed =>
      guards.classes m name (children m listed).1
    rcases List.mem_cons.mp listed with rfl | below
    · exact .inr (.inl rfl)
    · exact (children m below).2

theorem filter_tagged {tag : Text} (named : d.tag? c = some tag) (l : List NodeId) :
    (c :: l).filter (fun c => decide (d.tag? c = some tag)) = c :: l.filter fun c => decide (d.tag? c = some tag) :=
  List.filter_cons_of_pos (decide_eq_true named)

-- The copy comes right behind the section in the accordion.
theorem Placed.behind (placed : Placed d e id s copy) (forest : d.Forest) (there : d.Current id)
    (whole : d.childrenByTag id "section" = done ++ s :: rest) (guards : Guards d.Current (Quiet d e copy) e d') :
    d'.childrenByTag id "section" = done ++ s :: copy :: rest := by
  obtain ⟨before,after,old,now⟩ := placed.order
  obtain ⟨more,last,toolbars⟩ := guards.behind id there
  have apart := placed.pair.apart.drawn guards
  have same : ∀ l, l ⊆ d.children id → l.filter (fun c => decide (d'.tag? c = some ("section" : Text))) =
      l.filter fun c => decide (d.tag? c = some ("section" : Text)) := by
    intro l inside
    refine List.filter_congr fun c listed => ?_
    rw [apart.tag (forest.down there (inside listed)).1]
  have first : before ⊆ d.children id := fun c inside => old ▸ List.mem_append_left _ inside
  have rear : after ⊆ d.children id := fun c inside => old ▸ List.mem_append_right _ (List.mem_cons_of_mem s inside)
  have member : s ∈ d.childrenByTag id "section" := whole ▸ List.mem_append_right done List.mem_cons_self
  obtain ⟨child,named⟩ := mem_childrenByTag.mp member
  have once : s ∉ before ∧ s ∉ after := by
    have single := forest.once there
    rw [old,List.nodup_middle] at single
    have absent := (List.nodup_cons.mp single).1
    exact ⟨fun inside => absent (List.mem_append_left after inside),fun inside => absent (List.mem_append_right before inside)⟩
  have named' : d'.tag? s = some ("section" : Text) := (apart.tag (forest.down there child).1).trans named
  have copied : d'.tag? copy = some ("section" : Text) := (guards.tag placed.pair.like.current).trans placed.tag
  have none : more.filter (fun c => decide (d'.tag? c = some ("section" : Text))) = [] := by
    refine List.filter_eq_nil_iff.mpr fun c inside => ?_
    rw [toolbars c inside]
    decide
  have split : before.filter (fun c => decide (d.tag? c = some ("section" : Text))) = done ∧
      after.filter (fun c => decide (d.tag? c = some ("section" : Text))) = rest := by
    rw [childrenByTag,old,List.filter_append,filter_tagged named] at whole
    obtain ⟨front,_,later⟩ := (List.append_cons_inj_of_notMem (fun inside => once.1 (List.mem_filter.mp inside).1)
      fun inside => once.2 (List.mem_filter.mp inside).1).mp whole
    exact ⟨front,later⟩
  rw [childrenByTag,last,now,List.filter_append,none,List.append_nil,List.filter_append,same before first,split.1,
    filter_tagged named',filter_tagged copied,same after rear,split.2]

-- One step: a section that is doubled concerns no other section of the accordion.
theorem doubleSection_doubles (depth : Nat) (forest : d.Forest) (top : d.Current root) (there : d.Current id)
    (whole : d.childrenByTag id "section" = done ++ s :: rest) (ran : doubleSection (drawUnder depth) d s = some d') :
    ∃ c, Doubled d d' s c ∧ d'.childrenByTag id "section" = done ++ s :: c :: rest ∧ Apart [s] id d d' := by
  obtain ⟨child,named⟩ := mem_childrenByTag.mp (whole ▸ List.mem_append_right done List.mem_cons_self)
  obtain ⟨current,linked⟩ := forest.down there child
  obtain ⟨copy,e,same,pair,alone,children⟩ := doubleSection_pairs (drawUnder depth) forest current id
  have placed := pair.placed forest there child named alone children
  rw [same] at ran
  generalize e.insertAfter s copy = e' at ran placed
  have apart := placed.pair.apart
  have like := placed.pair.like
  have guards := drawUnder_minds depth _ _ e' copy d' (placed.margin forest there) apart.forest (apart.current root top) like.current
    like.new ran
  have adds := drawUnder_keeps depth e' copy d' apart.forest (apart.current root top) like.current ran
  exact ⟨copy,placed.drawn forest current (forest.apart current linked).symm guards adds,placed.behind forest there whole guards,
    apart.drawn guards⟩

-- Each node with one behind it.
def paired (l l' : List NodeId) : List NodeId := (l.zip l').flatMap fun pair => [pair.1,pair.2]

-- A run: the sections that come are doubled behind those that are done.
theorem doubleSections_double (depth : Nat) (done : List NodeId) (forest : d.Forest) (top : d.Current root) (there : d.Current id)
    (whole : d.childrenByTag id "section" = done ++ rest) (ran : rest.foldlM (doubleSection (drawUnder depth)) d = some d') :
    ∃ copies, List.Forall₂ (Doubled d d') rest copies ∧ d'.childrenByTag id "section" = done ++ paired rest copies ∧
      Apart rest id d d' := by
  induction rest generalizing d done with
  | nil =>
    cases ran
    exact ⟨[],.nil,whole,.refl forest [] id⟩
  | cons s rest ih =>
    rw [List.foldlM_cons] at ran
    obtain ⟨e,first,later⟩ := Option.bind_eq_some_iff.mp ran
    obtain ⟨c,doubled,sections,apart⟩ := doubleSection_doubles depth forest top there whole first
    obtain ⟨copies,others,sections',apart'⟩ := ih (done ++ [s,c]) apart.forest (apart.current root top) (apart.current id there)
      (by rw [sections,List.append_assoc]; rfl) later
    have members : ∀ m ∈ rest, m ∈ d.children id := fun m inside =>
      (mem_childrenByTag.mp (whole ▸ List.mem_append_right done (List.mem_cons_of_mem s inside))).1
    have members' : ∀ m ∈ s :: c :: rest, m ∈ e.children id := fun m inside =>
      (mem_childrenByTag.mp (sections ▸ List.mem_append_right done inside)).1
    have once : (s :: c :: rest).Nodup := by
      have single : (e.childrenByTag id "section").Nodup := (apart.forest.once (apart.current id there)).filter _
      rw [sections] at single
      exact single.of_append_right
    obtain ⟨free,once⟩ := List.nodup_cons.mp once
    refine ⟨c :: copies,.cons ?_ ?_,?_,apart.trans apart'⟩
    · refine doubled.later apart' apart.forest (apart.current id there) (fun p inside => ?_) ⟨members' s (by simp),members' c (by simp)⟩
        ⟨fun inside => free (List.mem_cons_of_mem c inside),(List.nodup_cons.mp once).1⟩
      exact (apart.forest.down (apart.current id there) (members' p (by simp [inside]))).2
    · refine ((List.forall₂_and_left _ _).mpr ⟨members,others⟩).imp fun x y both => ?_
      obtain ⟨current,linked⟩ := forest.down there both.1
      exact both.2.earlier apart forest current (forest.apart current linked).symm
    · rw [sections',List.append_assoc]
      rfl

theorem mem_paired {R : NodeId → NodeId → Prop} (pairs : List.Forall₂ R l l') (inside : s ∈ l) : ∃ c, R s c ∧ s ∈ paired l l' := by
  induction pairs with
  | nil => cases inside
  | @cons x c l l' related _ ih =>
    rcases List.mem_cons.mp inside with rfl | later
    · exact ⟨c,related,List.mem_cons_self⟩
    · obtain ⟨c',related,listed⟩ := ih later
      exact ⟨c',related,List.mem_cons_of_mem x (List.mem_cons_of_mem c listed)⟩

-- The header of a section that was doubled tells that the accordion was drawn.
theorem Doubled.isMarked (doubled : Doubled d d' s c) (filled : d.elementChildren s ≠ []) : isMarked d' s = true := by
  obtain ⟨more,front⟩ := doubled.front
  obtain ⟨header,others,parts⟩ := List.exists_cons_of_ne_nil filled
  have marked := (doubled.opened.header header (by rw [parts]; rfl)).2
  rw [Amp.isMarked,← front,parts]
  exact marked

-- An accordion none of whose sections was marked, whatever lies in them: once drawn, it has each of its sections open
-- and, right behind, a new copy of it shut. Another drawing changes nothing where some section has a header.
theorem accordion_shows_both (depth : Nat) (forest : d.Forest) (top : d.Current root) (there : d.Current id)
    (bare : ∀ s ∈ d.childrenByTag id "section", isMarked d s = false) (ran : drawAccordion (drawUnder depth) d id = some d') :
    ∃ copies, List.Forall₂ (Doubled d d') (d.childrenByTag id "section") copies ∧
      d'.childrenByTag id "section" = paired (d.childrenByTag id "section") copies ∧ (d'.childrenByTag id "section").Nodup ∧
      ((∃ s ∈ d.childrenByTag id "section", d.elementChildren s ≠ []) → ∀ draw, drawAccordion draw d' id = some d') := by
  have unmarked : ¬ (d.childrenByTag id "section").any (isMarked d) = true := by
    rw [List.any_eq_true]
    rintro ⟨s,inside,marked⟩
    cases (bare s inside).symm.trans marked
  dsimp only [drawAccordion] at ran
  rw [if_neg unmarked] at ran
  obtain ⟨copies,pairs,sections,apart⟩ := doubleSections_double depth [] forest top there rfl ran
  refine ⟨copies,pairs,sections,(apart.forest.once (apart.current id there)).filter _,?_⟩
  rintro ⟨s,inside,filled⟩ draw
  obtain ⟨c,doubled,listed⟩ := mem_paired pairs inside
  refine drawAccordion_rests (.inr ⟨s,?_,doubled.isMarked filled⟩)
  rw [sections]
  exact listed

def sectionsPage : Text := "<amp-accordion><section><p>a<p>b</section><section><p>c"

-- The two sections are open, each with a shut copy behind it.
theorem accordion_shows_both_page : ∃ d' c₁ c₂,
    drawAccordion (drawUnder (copyDepth (read sectionsPage))) (read sectionsPage) ⟨4,0⟩ = some d' ∧
    Doubled (read sectionsPage) d' ⟨5,0⟩ c₁ ∧ Doubled (read sectionsPage) d' ⟨10,0⟩ c₂ ∧
    d'.childrenByTag ⟨4,0⟩ "section" = [⟨5,0⟩,c₁,⟨10,0⟩,c₂] ∧ ∀ draw, drawAccordion draw d' ⟨4,0⟩ = some d' := by
  have facts : (read sectionsPage).isCurrent ⟨4,0⟩ = true ∧
      (read sectionsPage).childrenByTag ⟨4,0⟩ "section" = [⟨5,0⟩,⟨10,0⟩] ∧
      (∀ s ∈ (read sectionsPage).childrenByTag ⟨4,0⟩ "section", isMarked (read sectionsPage) s = false) ∧
      (read sectionsPage).elementChildren ⟨5,0⟩ ≠ [] ∧
      (drawAccordion (drawUnder (copyDepth (read sectionsPage))) (read sectionsPage) ⟨4,0⟩).isSome = true := by
    decide +kernel
  obtain ⟨there,sections,bare,filled,returns⟩ := facts
  obtain ⟨d',ran⟩ := Option.isSome_iff_exists.mp returns
  have shown := accordion_shows_both _ (read_forest sectionsPage) (read_root sectionsPage) (isCurrent_iff.mp there) bare ran
  rw [sections] at shown
  obtain ⟨copies,pairs,order,_,again⟩ := shown
  obtain _ | ⟨first,_ | ⟨second,none⟩⟩ := pairs
  cases none
  exact ⟨d',_,_,ran,first,second,order,again ⟨⟨5,0⟩,List.mem_cons_self,filled⟩⟩

end Amp
end StyleTrim
