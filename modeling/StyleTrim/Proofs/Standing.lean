import StyleTrim.Html.Rules
import StyleTrim.Proofs.Inserting
import StyleTrim.Proofs.Nesting
namespace StyleTrim.Html.Builder
open Text
variable {b b' : Builder} {ids : List NodeId} {p q : Place} {n : Name} {tag : Text}

-- A state of the reader that stands at a place, and what reading a node there does to it.

theorem reaches_names (limit q : Name → Bool) (ids : List NodeId) :
    b.reaches limit (fun id => q (b.name id)) ids = reachesName limit q (ids.map b.name) := by
  induction ids with
  | nil => rfl
  | cons id outer ih => rw [List.map_cons,reaches,reachesName,ih]

theorem inScope_names (limit : Name → Bool) (tag : Text) :
    b.inScope limit tag = reachesName limit (Name.isHtml tag) (b.opened.map b.name) :=
  reaches_names limit (Name.isHtml tag) b.opened

-- A mode with the one of the innermost template, and before the head there is no head.
def resolve (b : Builder) : Mode → Mode
  | .inTemplate => b.templateModes.head?.getD .inBody
  | .afterHead => if b.head.isSome then .afterHead else .beforeHead
  | m => m

theorem modeFor_names (ids : List NodeId) : b.modeFor ids = b.resolve (modeOf (ids.map b.name)) := by
  induction ids with
  | nil => rfl
  | cons id outer ih =>
    have enclosing : (outer.map b.name).find? (fun o => o.isHtml "template" || o.isHtml "table") =
        (outer.find? fun o => b.isHtml "template" o || b.isHtml "table" o).map b.name := List.find?_map
    rw [List.map_cons,modeFor,modeOf,enclosing]
    cases outer.find? fun o => b.isHtml "template" o || b.isHtml "table" o with
    | none =>
      simp only [List.isEmpty_map,apply_ite b.resolve,ih]
      rfl
    | some o =>
      simp only [Option.map_some,List.isEmpty_map,apply_ite b.resolve,ih]
      rfl

def tagOf? : Formatting → Option Tag
  | .marker => none
  | .element _ tag => some tag

-- The reader stands at a place: nothing is out of place, and no listed formatting element was closed.
structure Stands (p : Place) (b : Builder) : Prop where
  placed : b.Placed
  names : b.opened.map b.name = p.names
  distinct : b.opened.Nodup
  entries : b.formatting.map tagOf? = p.formatting
  live : ∀ f ∈ b.formatting, ∀ id ∈ f.node?, id ∈ b.opened
  form : b.form.isSome = p.hasForm
  mode : b.mode = b.resolve (modeOf p.names)
  unsettled : b.mode = .inTemplate → p.currentIs (Name.isHtml "template") = true
  templates : ∀ m ∈ b.templateModes, m = .inTemplate ∨ m = .inBody
  pending : b.pendingBackwards = []
  skips : b.skipLineFeed = false
  headed : b.head.isSome = true
  ordinary : ∀ n ∈ p.names, n.space = .mathml → isOneOf n.tag ["annotation-xml"] = false

theorem ordinary_html {n : Name} (html : n.space = .html) (math : n.space = .mathml) : isOneOf n.tag ["annotation-xml"] = false := by
  rw [html] at math
  cases math

-- The mode of an innermost template settles once, and those of the templates around it stay.
def Settles (modes modes' : List Mode) : Prop := modes' = modes ∨ modes' = .inBody :: modes.tail

theorem Settles.tail {modes modes' : List Mode} (settles : Settles modes modes') : modes'.tail = modes.tail := by
  rcases settles with rfl | rfl <;> rfl

theorem Settles.trans {modes modes' modes'' : List Mode} (first : Settles modes modes') (second : Settles modes' modes'') :
    Settles modes modes'' := by
  rcases second with rfl | rfl
  · exact first
  · exact .inr (by rw [first.tail])

-- A later state at the same place, when what was read there are the given trees.
structure Reads (p : Place) (b b' : Builder) (ts : List Figure) : Prop where
  stands : Stands p b'
  opened : b'.opened = b.opened
  formatting : b'.formatting = b.formatting
  form : b'.form = b.form
  head : b'.head = b.head
  settles : Settles b.templateModes b'.templateModes
  grown : Sprouts b.cells b'.cells b.site ts

theorem Stands.site (stands : Stands p b) (read : Reads p b b' ts) : b'.site = b.site :=
  keeps_site read.grown.keeps read.opened stands.placed.old

theorem Reads.refl (stands : Stands p b) : Reads p b b [] := by
  obtain ⟨cell,found⟩ := stands.placed.host
  exact ⟨stands,rfl,rfl,rfl,rfl,.inl rfl,.refl found⟩

theorem Reads.trans {b'' : Builder} (stands : Stands p b) (first : Reads p b b' ts) (second : Reads p b' b'' us) :
    Reads p b b'' (ts ++ us) := by
  refine ⟨second.stands,?_,?_,?_,?_,first.settles.trans second.settles,first.grown.trans ?_⟩
  · rw [second.opened,first.opened]
  · rw [second.formatting,first.formatting]
  · rw [second.form,first.form]
  · rw [second.head,first.head]
  · rw [← stands.site first]
    exact second.grown

theorem Stands.unsettledAfter (stands : Stands p b) (head : b'.head = b.head)
    (settles : Settles b.templateModes b'.templateModes) (mode : b'.mode = b'.resolve (modeOf p.names))
    (template : b'.mode = .inTemplate) : p.currentIs (Name.isHtml "template") = true := by
  rcases settles with same | settled
  · refine stands.unsettled ?_
    have resolved : b'.resolve = b.resolve := by
      funext m
      cases m <;> simp [resolve,same,head]
    rw [stands.mode,← resolved,← mode,template]
  · rw [template] at mode
    cases call : modeOf p.names <;> rw [call] at mode <;> first | cases mode | skip
    · rw [resolve] at mode
      split at mode <;> cases mode
    · rw [resolve,settled] at mode
      cases mode

-- A state that has come back to the open elements of an earlier one, with more below its site.
theorem Stands.back (stands : Stands p b) (grown : Sprouts b.cells b'.cells b.site ts) (opened : b'.opened = b.opened)
    (formatting : b'.formatting = b.formatting) (form : b'.form = b.form) (head : b'.head = b.head)
    (settles : Settles b.templateModes b'.templateModes) (mode : b'.mode = b'.resolve (modeOf p.names))
    (fostering : b'.fostering = false) (pending : b'.pendingBackwards = []) (skips : b'.skipLineFeed = false) :
    Reads p b b' ts := by
  have kept : Keeps b.cells b'.cells := grown.keeps
  have site : b'.site = b.site := keeps_site kept opened stands.placed.old
  have placed : b'.Placed := by
    refine ⟨fostering,?_,?_,?_⟩
    · rw [opened]
      exact stands.placed.current
    · intro id inside
      rw [opened] at inside
      exact Nat.lt_of_lt_of_le (stands.placed.old id inside) grown.size
    · obtain ⟨cell,ids,_,found,_⟩ := grown.host
      exact ⟨_,site ▸ found⟩
  have templates : ∀ m ∈ b'.templateModes, m = .inTemplate ∨ m = .inBody := by
    intro m inside
    rcases settles with same | settled
    · exact stands.templates m (same ▸ inside)
    · rw [settled] at inside
      rcases List.mem_cons.mp inside with rfl | inside
      · exact .inr rfl
      · exact stands.templates m (List.mem_of_mem_tail inside)
  refine ⟨⟨placed,?_,?_,?_,?_,?_,mode,stands.unsettledAfter head settles mode,templates,pending,skips,
    head ▸ stands.headed,stands.ordinary⟩,
    opened,formatting,form,head,settles,grown⟩
  · rw [opened,keeps_names kept stands.placed.old,stands.names]
  · rw [opened]
    exact stands.distinct
  · rw [formatting]
    exact stands.entries
  · rw [formatting,opened]
    exact stands.live
  · rw [form]
    exact stands.form

-- The same with nothing else changed that a rule asks for.
theorem Stands.grow (stands : Stands p b) (grown : Sprouts b.cells b'.cells b.site ts)
    (same : b' = {b with cells := b'.cells, framesetOk := b'.framesetOk, returnMode := b'.returnMode}) : Reads p b b' ts := by
  generalize b'.cells = cells at same grown
  generalize b'.framesetOk = framesetOk at same
  generalize b'.returnMode = returnMode at same
  subst same
  exact stands.back grown rfl rfl rfl rfl (.inl rfl) stands.mode stands.placed.settled stands.pending stands.skips

-- The element of a start tag as the printer sees it.
def figureOf (n : Name) (attributes : List Attribute) (ts : List Figure) : Figure :=
  .element n.tag ((Place.propertiesOf n attributes).map Dom.attributeOf) ts

-- A state in which a new element is open, and nothing in it.
structure Begun (p q : Place) (b b' : Builder) (n : Name) (attributes : List Attribute) : Prop where
  stands : Stands q b'
  planted : Planted b.cells b'.cells b.site b.cells.size (.element n (Place.propertiesOf n attributes) none)
  opened : b'.opened = b.cells.size :: b.opened
  names : q.names = n :: p.names
  site : b'.site = b.cells.size
  head : b'.head = b.head
  templates : b'.templateModes = b.templateModes

variable {attributes : List Attribute} {b₁ b₂ b₃ : Builder}

-- A place is found inside of a new element as well.
theorem Placed.under {properties : List Property} (placed : Placed b) (b' : Builder) (plain : n.isHtml "template" = false)
    (planted : Planted b.cells b'.cells b.site b.cells.size (.element n properties none))
    (opened : b'.opened = b.cells.size :: b.opened) (settled : b'.fostering = false) :
    Placed b' ∧ b'.site = b.cells.size ∧ b'.name b.cells.size = n := by
  have name : b'.name b.cells.size = n := by
    rw [name_eq,planted.new]
    rfl
  have site : b'.site = b.cells.size := by
    rw [site_cons opened,isHtml,name,plain]
    rfl
  refine ⟨⟨settled,?_,?_,_,site ▸ planted.new⟩,site,name⟩
  · rw [opened]
    exact List.cons_ne_nil _ _
  · intro id inside
    rw [planted.size]
    rw [opened] at inside
    rcases List.mem_cons.mp inside with rfl | inside
    · exact Nat.lt_succ_self _
    · exact Nat.lt_succ_of_lt (placed.old id inside)

theorem Begun.unjoined (begun : Begun p q b b₁ n attributes) : Unjoined b₁ := by
  intro cell found id first
  rw [begun.site,begun.planted.new] at found
  cases found
  cases first

theorem Stands.begin (stands : Stands p b)
    (planted : Planted b.cells b'.cells b.site b.cells.size (.element n (Place.propertiesOf n attributes) none))
    (plain : n.isHtml "template" = false)
    (same : b' = {b with
      cells := b'.cells, opened := b.cells.size :: b.opened, formatting := b'.formatting, form := b'.form, mode := b'.mode,
      framesetOk := b'.framesetOk})
    (names : q.names = n :: p.names) (entries : b'.formatting.map tagOf? = q.formatting)
    (live : ∀ f ∈ b'.formatting, ∀ id ∈ f.node?, id = b.cells.size ∨ id ∈ b.opened) (form : b'.form.isSome = q.hasForm)
    (mode : b'.mode = b.resolve (modeOf q.names)) (settled : b'.mode ≠ .inTemplate)
    (ordinary : n.space = .mathml → isOneOf n.tag ["annotation-xml"] = false) : Begun p q b b' n attributes := by
  generalize b'.cells = cells at same planted
  generalize b'.formatting = formatting at same entries live
  generalize b'.form = form' at same form
  generalize b'.mode = now at same mode settled
  generalize b'.framesetOk = framesetOk at same
  subst same
  have kept : Keeps b.cells cells := planted.keeps
  generalize made : ({b with
    cells := cells, opened := b.cells.size :: b.opened, formatting := formatting, form := form', mode := now,
    framesetOk := framesetOk} : Builder) = b'
  have opened : b'.opened = b.cells.size :: b.opened := by rw [← made]
  have stored : b'.cells = cells := by rw [← made]
  rw [← stored] at planted kept
  have settled' : b'.fostering = false := by
    rw [← made]
    exact stands.placed.settled
  obtain ⟨placed,site,name⟩ := stands.placed.under _ plain planted opened settled'
  refine ⟨⟨placed,?_,?_,?_,?_,?_,?_,?_,?_,?_,?_,?_,?_⟩,planted,opened,names,site,?_,?_⟩
  · rw [opened,List.map_cons,name,keeps_names kept stands.placed.old,stands.names,names]
  · rw [opened]
    refine List.nodup_cons.mpr ⟨fun inside => ?_,stands.distinct⟩
    exact Nat.lt_irrefl _ (stands.placed.old _ inside)
  · rw [← made]
    exact entries
  · rw [← made]
    exact fun f listed id node => List.mem_cons.mpr (live f listed id node)
  · rw [← made]
    exact form
  · rw [← made]
    exact mode
  · rw [← made]
    exact fun absurdly => absurd absurdly settled
  · rw [← made]
    exact stands.templates
  · rw [← made]
    exact stands.pending
  · rw [← made]
    exact stands.skips
  · rw [← made]
    exact stands.headed
  · rw [names]
    intro m inside
    rcases List.mem_cons.mp inside with rfl | inside
    · exact ordinary
    · exact stands.ordinary m inside
  · rw [← made]
  · rw [← made]

-- The end of an element brings back what was open before it.
theorem Begun.close (begun : Begun p q b b₁ n attributes) (stands : Stands p b) (read : Reads q b₁ b₂ ts)
    (mode : b₃.mode = b₂.resolve (modeOf p.names))
    (same : b₃ = {b₂ with opened := b.opened, formatting := b.formatting, form := b.form, mode := b₃.mode}) :
    Reads p b b₃ [figureOf n attributes ts] := by
  generalize b₃.mode = now at same mode
  subst same
  have grown := read.grown
  rw [begun.site] at grown
  have settles := read.settles
  rw [begun.templates] at settles
  exact stands.back (begun.planted.around grown) rfl rfl rfl (read.head.trans begun.head) settles mode
    read.stands.placed.settled read.stands.pending read.stands.skips

end StyleTrim.Html.Builder
