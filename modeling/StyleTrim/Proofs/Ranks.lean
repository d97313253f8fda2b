import Mathlib.Data.Finset.Card
import StyleTrim.Proofs.Pages
namespace StyleTrim.Amp
open Text Dom

-- Each node has a rank, which bounds how deep copies come to lie within copies where it is drawn. What lies below a
-- node, or may come to lie there, has no higher rank, and a lower one below a component that makes copies. Whatever
-- edits add to the document, they keep this up.

def captionOf (name : Option Text) : Text :=
  match name with
  | some name => name ++ "-caption"
  | none => "amp-image-lightbox-caption"

-- What decides about the copies that come to lie below a node: its tag, and the names by which it is found or
-- finds others.
structure Face where
  tag : Option Text
  id : Option Text
  template : Option Text
  toolbar : Option Text
deriving DecidableEq, Repr

namespace Face

def drawing? (f : Face) : Option Drawing := f.tag.bind Amp.drawing?

-- Its sections, its template or its navigations are copied.
def copies (f : Face) : Bool := f.drawing?.any copying.contains

def weight (f : Face) : Nat := if f.copies then 1 else 0

-- The names under which it is found. A lightbox counts as found by the name of its caption, which is drawn later.
def names (f : Face) : List Text := f.id.toList ++ if f.drawing? = some .lightbox then [captionOf f.id] else []

-- The template that a list asks for.
def wanted? (f : Face) : Option Text := if f.drawing? = some .items then f.template.map trim else none

-- The element that a navigation is copied into.
def target? (f : Face) : Option Text := if f.tag = some ("nav" : Text) then f.toolbar else none

-- The second one is the first one's template, or a navigation that is copied into the first one.
def refers (f g : Face) : Bool := f.wanted?.any g.names.contains || g.target?.any f.names.contains

theorem refers_iff {f g : Face} : f.refers g = true ↔
    (∃ z, f.wanted? = some z ∧ z ∈ g.names) ∨ ∃ z, g.target? = some z ∧ z ∈ f.names := by
  simp [refers,Option.any_eq_true]

-- A face that is found by nobody and looks for nobody.
def Quiet (f : Face) : Prop := f.drawing? = none ∧ f.id = none ∧ f.target? = none

instance (f : Face) : Decidable f.Quiet := inferInstanceAs (Decidable (_ ∧ _))

theorem Quiet.weight {f : Face} (quiet : f.Quiet) : f.weight = 0 := by rw [Face.weight,copies,quiet.1]; rfl

theorem Quiet.refers {f g : Face} (quiet : f.Quiet) : ¬ f.refers g = true ∧ ¬ g.refers f = true := by
  have unnamed : f.names = [] := by simp [names,quiet.1,quiet.2.1]
  have unwanting : f.wanted? = none := by simp [wanted?,quiet.1]
  constructor
  · intro refers
    rcases refers_iff.mp refers with ⟨z,wanted,_⟩ | ⟨z,_,named⟩
    · rw [unwanting] at wanted
      cases wanted
    · rw [unnamed] at named
      cases named
  · intro refers
    rcases refers_iff.mp refers with ⟨z,_,named⟩ | ⟨z,target,_⟩
    · rw [unnamed] at named
      cases named
    · rw [quiet.2.2] at target
      cases target

-- Whatever refers to the one or is referred to by it, does so with the other.
structure Within (f g : Face) : Prop where
  weight : f.weight ≤ g.weight
  names : ∀ z ∈ f.names, z ∈ g.names
  wanted : ∀ z ∈ f.wanted?, z ∈ g.wanted?
  target : ∀ z ∈ f.target?, z ∈ g.target?

theorem Within.refl (f : Face) : Within f f := ⟨Nat.le_refl _,fun _ h => h,fun _ h => h,fun _ h => h⟩

theorem Within.refers {f g h k : Face} (one : Within f g) (other : Within h k) (refers : f.refers h = true) :
    g.refers k = true := by
  refine refers_iff.mpr ((refers_iff.mp refers).imp ?_ ?_)
  · rintro ⟨z,wanted,named⟩
    exact ⟨z,one.wanted z wanted,other.names z named⟩
  · rintro ⟨z,target,named⟩
    exact ⟨z,other.target z target,one.names z named⟩

end Face

def faceOf (p : Payload) : Face :=
  let value (name : Text) : Option Text := (p.attributes.find? (·.name == name)).map (·.value)
  ⟨p.tag?,value "id",value "template",value "toolbar-target"⟩

-- Neither a component nor a navigation, and without a name: what the runtime draws with.
theorem quiet_element {tag : Text} {attributes : List Attribute} (plain : ¬ ("amp-" : Text) <+: tag ∧ tag ≠ ("nav" : Text))
    (unnamed : attributes.find? (·.name == ("id" : Text)) = none) : (faceOf (.element tag attributes)).Quiet := by
  refine ⟨?_,congrArg (Option.map Attribute.value) unnamed,if_neg fun same => plain.2 (Option.some.inj same)⟩
  cases drawn : Amp.drawing? tag with
  | none => exact drawn
  | some drawing => exact absurd (drawing?_begins drawn) plain.1

def face (d : Dom) (n : NodeId) : Face :=
  ⟨d.tag? n,d.attribute? n "id",d.attribute? n "template",d.attribute? n "toolbar-target"⟩

variable {d d' d₁ d₂ : Dom} {c m n p : NodeId} {rank rank' rank₁ rank₂ : NodeId → Nat} {a : Nat} {f : Face}
  {payload : Payload}

theorem face_node (same : d'.node? m = d.node? n) : face d' m = face d n := by
  simp only [face,tag?,attribute?,same]

theorem face_payload (found : d.node? n = some payload) : face d n = faceOf payload := by
  simp only [face,tag?,attribute?,found]
  rfl

theorem face_drawing? (d : Dom) (n : NodeId) : (face d n).drawing? = drawingOf? d n := rfl

-- What may come to lie right below a node: its children, what it shows as its template and what is copied into it.
def Holds (d : Dom) (n m : NodeId) : Prop :=
  d.Current n ∧ d.Current m ∧ (m ∈ d.children n ∨ (face d n).refers (face d m) = true)

structure Ranked (d : Dom) (rank : NodeId → Nat) : Prop where
  forest : d.Forest
  top : d.Current root
  floor : ∀ n, d.Current n → (face d n).weight ≤ rank n
  down : ∀ n m, Holds d n m → rank m + (face d n).weight ≤ rank n

theorem Ranked.child (ranked : Ranked d rank) (there : d.Current p) (child : c ∈ d.children p) :
    rank c + (face d p).weight ≤ rank p :=
  ranked.down p c ⟨there,(ranked.forest.down there child).1,.inl child⟩

-- A document that was added to, with ranks for the new nodes.
structure Extends (d : Dom) (rank : NodeId → Nat) (d' : Dom) (rank' : NodeId → Nat) : Prop where
  ranked : Ranked d' rank'
  current : ∀ m, d.Current m → d'.Current m
  rank : ∀ m, d.Current m → rank' m = rank m
  face : ∀ m, d.Current m → face d' m = face d m

theorem Extends.refl (ranked : Ranked d rank) : Extends d rank d rank :=
  ⟨ranked,fun _ there => there,fun _ _ => rfl,fun _ _ => rfl⟩

theorem Extends.trans (one : Extends d rank d₁ rank₁) (more : Extends d₁ rank₁ d₂ rank₂) : Extends d rank d₂ rank₂ := by
  refine ⟨more.ranked,fun m there => more.current m (one.current m there),fun m there => ?_,fun m there => ?_⟩
  · rw [more.rank m (one.current m there),one.rank m there]
  · rw [more.face m (one.current m there),one.face m there]

-- Whether a new node with this face may have this rank.
structure Fits (d : Dom) (rank : NodeId → Nat) (f : Face) (a : Nat) : Prop where
  floor : f.weight ≤ a
  self : f.refers f = true → f.weight = 0
  out : ∀ m, d.Current m → f.refers (face d m) = true → rank m + f.weight ≤ a
  back : ∀ m, d.Current m → (face d m).refers f = true → a + (face d m).weight ≤ rank m

theorem fits_quiet (d : Dom) (rank : NodeId → Nat) (quiet : f.Quiet) (a : Nat) : Fits d rank f a := by
  refine ⟨?_,fun _ => quiet.weight,fun m _ refers => absurd refers quiet.refers.1,
    fun m _ refers => absurd refers quiet.refers.2⟩
  rw [quiet.weight]
  exact Nat.zero_le a

theorem fits_within (ranked : Ranked d rank) (there : d.Current n) (inside : f.Within (face d n)) :
    Fits d rank f (rank n) := by
  have weight := inside.weight
  refine ⟨weight.trans (ranked.floor n there),fun refers => ?_,fun m current refers => ?_,fun m current refers => ?_⟩
  · have := ranked.down n n ⟨there,there,.inr (inside.refers inside refers)⟩
    omega
  · have := ranked.down n m ⟨there,current,.inr (inside.refers (.refl _) refers)⟩
    omega
  · exact ranked.down m n ⟨current,there,.inr (Face.Within.refers (.refl _) inside refers)⟩

theorem create_extends (ranked : Ranked d rank) (payload : Payload) (fits : Fits d rank (faceOf payload) a) :
    Extends d rank (d.create payload).1 (Function.update rank (d.create payload).2 a) := by
  have created := create_created ranked.forest payload
  have forest := create_forest ranked.forest payload
  generalize (d.create payload).2 = x at created
  generalize (d.create payload).1 = e at created forest
  have old : ∀ m, d.Current m → e.Current m ∧ Function.update rank x a m = rank m ∧ face e m = face d m := fun m there =>
    ⟨(created.current m).mpr (.inl there),Function.update_of_ne (created.fresh m there) _ _,face_node (created.node m there)⟩
  have own : face e x = faceOf payload := face_payload created.newNode
  refine ⟨⟨forest,(old root ranked.top).1,?_,?_⟩,fun m there => (old m there).1,fun m there => (old m there).2.1,
    fun m there => (old m there).2.2⟩
  · intro n current
    rcases (created.current n).mp current with there | rfl
    · rw [(old n there).2.1,(old n there).2.2]
      exact ranked.floor n there
    · rw [own,Function.update_self]
      exact fits.floor
  · rintro n m ⟨current,current',below⟩
    rcases (created.current n).mp current with there | rfl
    · rw [(old n there).2.1,(old n there).2.2]
      rw [created.children n there,(old n there).2.2] at below
      rcases (created.current m).mp current' with there' | rfl
      · rw [(old m there').2.2] at below
        rw [(old m there').2.1]
        exact ranked.down n m ⟨there,there',below⟩
      · rw [own] at below
        rw [Function.update_self]
        rcases below with child | refers
        · exact absurd rfl (created.fresh _ (ranked.forest.down there child).1)
        · exact fits.back n there refers
    · rw [created.newChildren,own] at below
      rw [own,Function.update_self]
      rcases below with child | refers
      · cases child
      · rcases (created.current m).mp current' with there' | rfl
        · rw [(old m there').2.2] at refers
          rw [(old m there').2.1]
          exact fits.out m there' refers
        · rw [own] at refers
          rw [Function.update_self,fits.self refers]
          exact Nat.le_refl a

-- A node may be put wherever its rank allows it.
theorem moved_extends {place : List NodeId → List NodeId} (ranked : Ranked d rank) (moved : Moved d d' (some p) c place)
    (received : Receives d p c place) (current : d.Current c) (low : rank c + (face d p).weight ≤ rank p) :
    Extends d rank d' rank := by
  have same (m : NodeId) : face d' m = face d m := face_node (moved.node m)
  refine ⟨⟨moved.receives ranked.forest current received,(moved.current root).mpr ranked.top,?_,?_⟩,
    fun m => (moved.current m).mpr,fun _ _ => rfl,fun m _ => same m⟩
  · intro n there
    rw [same]
    exact ranked.floor n ((moved.current n).mp there)
  · rintro n m ⟨there,there',below⟩
    rw [moved.current] at there there'
    rw [same n,same m] at below
    rw [same]
    rcases below with child | refers
    · rw [moved.children n there] at child
      split at child
      · rename_i here
        cases here
        rcases received.2.2.mem.mp child with rfl | inside
        · exact low
        · exact ranked.child there (List.mem_filter.mp inside).1
      · exact ranked.child there (List.mem_filter.mp child).1
    · exact ranked.down n m ⟨there,there',.inr refers⟩

theorem append_extends (ranked : Ranked d rank) (there : d.Current p) (current : d.Current c)
    (low : rank c + (face d p).weight ≤ rank p) : Extends d rank (d.appendChild p c) rank := by
  rcases appendChild_cases ranked.forest there current with same | ⟨moved,received⟩
  · rw [same]
    exact .refl ranked
  · exact moved_extends ranked moved received current low

theorem prepend_extends (ranked : Ranked d rank) (there : d.Current p) (current : d.Current c)
    (low : rank c + (face d p).weight ≤ rank p) : Extends d rank (d.prependChild p c) rank := by
  rcases prependChild_cases ranked.forest there current with same | ⟨moved,received⟩
  · rw [same]
    exact .refl ranked
  · exact moved_extends ranked moved received current low

theorem after_extends (ranked : Ranked d rank) (there : d.Current n) (current : d.Current c) (top : d.parent? c = none)
    (low : ∀ p, d.parent? n = some p → rank c + (face d p).weight ≤ rank p) : Extends d rank (d.insertAfter n c) rank := by
  rcases insertAfter_cases ranked.forest current there top with same | ⟨p,linked,moved,received⟩
  · rw [same]
    exact .refl ranked
  · exact moved_extends ranked moved received current (low p linked)

-- Attributes by which nobody is found or looks for anybody.
def silent (name : Text) : Bool := !(ofStrings ["id","template","toolbar-target"]).contains name

theorem edit_extends (ranked : Ranked d rank) (n : NodeId) {f : List Attribute → List Attribute}
    (keeps : ∀ name, silent name = false → ∀ l, (f l).find? (·.name == name) = l.find? (·.name == name)) :
    Extends d rank (d.editAttributes n f) rank := by
  have same (m : NodeId) : face (d.editAttributes n f) m = face d m := by
    simp only [face,tag?_congr (edit_kind? d n m f),edit_attribute? (keeps "id" (by decide)),
      edit_attribute? (keeps "template" (by decide)),edit_attribute? (keeps "toolbar-target" (by decide))]
  refine ⟨⟨edit_forest ranked.forest,edit_current.mpr ranked.top,?_,?_⟩,fun m => edit_current.mpr,fun _ _ => rfl,
    fun m _ => same m⟩
  · intro m there
    rw [same]
    exact ranked.floor m (edit_current.mp there)
  · rintro m x ⟨there,there',below⟩
    rw [same m,same x,edit_children] at below
    rw [same]
    exact ranked.down m x ⟨edit_current.mp there,edit_current.mp there',below⟩

theorem set_extends (ranked : Ranked d rank) (n : NodeId) (name : Text) (quiet : silent name = true) (value : Text) :
    Extends d rank (d.setAttribute n name value) rank := by
  refine edit_extends ranked n fun other loud l => find_putAttribute ?_ value l
  rintro rfl
  exact absurd (quiet.symm.trans loud) (by decide)

theorem unset_extends (ranked : Ranked d rank) (n : NodeId) (name : Text) (quiet : silent name = true) :
    Extends d rank (d.removeAttribute n name) rank := by
  refine edit_extends ranked n fun other loud l => find_filter_name ?_ l
  rintro rfl
  exact absurd (quiet.symm.trans loud) (by decide)

theorem addClass_extends (ranked : Ranked d rank) (n : NodeId) (name : Text) : Extends d rank (d.addClass n name) rank := by
  unfold addClass
  split
  · exact .refl ranked
  · exact set_extends ranked n "class" (by decide) _

-- A copy has the rank and the face of what it is a copy of.
structure Twin (d : Dom) (rank : NodeId → Nat) (d' : Dom) (rank' : NodeId → Nat) (n copy : NodeId) : Prop where
  rank : rank' copy = rank n
  face : face d' copy = face d n

theorem Twin.later (twin : Twin d rank d₁ rank₁ n c) (there : d₁.Current c) (more : Extends d₁ rank₁ d₂ rank₂) :
    Twin d rank d₂ rank₂ n c := ⟨(more.rank c there).trans twin.rank,(more.face c there).trans twin.face⟩

theorem Twin.earlier (before : Extends d rank d₁ rank₁) (there : d.Current n) (twin : Twin d₁ rank₁ d₂ rank₂ n c) :
    Twin d rank d₂ rank₂ n c := ⟨twin.rank.trans (before.rank n there),twin.face.trans (before.face n there)⟩

theorem cloneTo_extends (h : Nat) (ranked : Ranked d rank) (there : d.Current n) : ∃ rank',
    Extends d rank (d.cloneTo n h).1 rank' ∧
      ∀ copy, (d.cloneTo n h).2 = some copy → Twin d rank (d.cloneTo n h).1 rank' n copy := by
  induction h generalizing d rank n with
  | zero => exact ⟨rank,.refl ranked,fun _ none => absurd none.symm (Option.some_ne_none _)⟩
  | succ h ih =>
    rw [cloneTo]
    split
    · exact ⟨rank,.refl ranked,fun _ none => absurd none.symm (Option.some_ne_none _)⟩
    · rename_i payload found
      have created := create_created ranked.forest payload
      have made := create_extends ranked payload (fits_within ranked there (face_payload found ▸ .refl _))
      have fresh : Copied d (d.create payload).1 n (d.create payload).2 :=
        ⟨made_absent ranked.forest payload,made_current ranked.forest payload,created.newParent,by
          rw [tag?,tag?,created.newNode,found]⟩
      have twin : Twin d rank (d.create payload).1 (Function.update rank (d.create payload).2 (rank n)) n
          (d.create payload).2 :=
        ⟨Function.update_self ..,(face_payload created.newNode).trans (face_payload found).symm⟩
      have below : ∀ c ∈ (d.create payload).1.children n, c ∈ d.children n := by
        rw [created.children n there]
        exact fun _ child => child
      dsimp only
      generalize (d.create payload).1.children n = l at below
      generalize Function.update rank (d.create payload).2 (rank n) = rank₁ at made twin
      generalize (d.create payload).1 = e at made fresh twin
      generalize (d.create payload).2 = copy at fresh twin ⊢
      suffices filled : ∃ rank', Extends d rank _ rank' ∧ Twin d rank _ rank' n copy by
        obtain ⟨rank',whole,twin⟩ := filled
        exact ⟨rank',whole,fun _ same => Option.some.inj same ▸ twin⟩
      -- The copy of a child ranks like the child, so that it may be put under the copy of the parent.
      induction l generalizing e rank₁ with
      | nil => exact ⟨rank₁,made,twin⟩
      | cons child more next =>
        have inside := below child List.mem_cons_self
        have current := (ranked.forest.down there inside).1
        obtain ⟨inner,copied⟩ := cloneTo_adds (n := child) h made.ranked.forest
        obtain ⟨rank₂,added,alike⟩ := ih made.ranked (made.current child current)
        rw [List.foldl_cons]
        generalize e.cloneTo child h = cloned at inner copied added alike ⊢
        obtain ⟨e',childCopy?⟩ := cloned
        have whole := made.trans added
        have twin := twin.later fresh.current added
        have below := fun c inside => below c (List.mem_cons_of_mem child inside)
        cases childCopy? with
        | none => exact next below rank₂ e' whole (fresh.later inner) twin
        | some childCopy =>
          have isNew := copied childCopy rfl
          have apart : copy ≠ childCopy := by
            rintro rfl
            exact isNew.new fresh.current
          obtain ⟨moved,received⟩ := (fresh.later inner).linked inner.forest isNew.current isNew.top apart
          have low := ranked.child there inside
          rw [← ((alike childCopy rfl).earlier made current).rank,← twin.rank,← twin.face] at low
          have put := moved_extends added.ranked moved received isNew.current low
          exact next below rank₂ _ (whole.trans put) ((fresh.later inner).moved moved apart)
            (twin.later (fresh.later inner).current put)

theorem clone_extends (ranked : Ranked d rank) (there : d.Current n) : ∃ rank', Extends d rank (d.clone n).1 rank' ∧
    ∀ copy, (d.clone n).2 = some copy → Copied d (d.clone n).1 n copy ∧ Twin d rank (d.clone n).1 rank' n copy := by
  obtain ⟨rank',added,twin⟩ := cloneTo_extends d.height ranked there
  exact ⟨rank',added,fun copy same => ⟨(clone_adds ranked.forest n).2 copy same,twin copy same⟩⟩

end StyleTrim.Amp
