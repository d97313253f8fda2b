import StyleTrim.Proofs.Closing
namespace StyleTrim.Html.Builder
open Text
variable {b b' b₁ b₂ b₃ : Builder} {p q : Place} {n : Name} {tag : Tag} {r : Ruled} {m : Manner} {ts : List Figure}
  {attributes : List Attribute} {kind : RawKind} {skips : Bool}

-- What a start tag does at a place where ordinary content stands.

-- An element is open, and its end tag ends it whatever is read in it.
structure Nests (p q : Place) (b b₁ : Builder) (n : Name) (tag : Tag) : Prop where
  stands : Stands q b₁
  names : q.names = n :: p.names
  unjoined : Unjoined b₁
  ends : ∀ b₂ ts, Reads q b₁ b₂ ts →
    ∃ b₃, Yields 7 (.endTag tag.name) b₂ (b₃,.done) ∧ Reads p b b₃ [figureOf n tag.attributes ts]

-- An element is open whose text is no markup.
structure Quotes (b b₁ : Builder) (n : Name) (tag : Tag) : Prop where
  name : n = htmlName tag.name
  plain : n.isHtml "template" = false
  planted : Planted b.cells b₁.cells b.site b.cells.size (.element n (Place.propertiesOf n tag.attributes) none)
  same : b₁ = {b with
    cells := b₁.cells, opened := b.cells.size :: b.opened, mode := .text, returnMode := b.mode, framesetOk := b₁.framesetOk}

-- A start tag begins an element that is to be read in some manner.
inductive Starts (p : Place) (b : Builder) (n : Name) (tag : Tag) : Manner → Ruled → Prop
  | leaf {b' : Builder} : Reads p b b' [figureOf n tag.attributes []] → Starts p b n tag .leaf (b',.done)
  | raw {b₁ : Builder} {kind : RawKind} {skips : Bool} : Quotes b b₁ n tag →
      Starts p b n tag (.raw kind skips) ({b₁ with skipLineFeed := skips},.raw kind)
  | within {b₁ : Builder} {q : Place} {skips : Bool} : Nests p q b b₁ n tag →
      Starts p b n tag (.within q skips) ({b₁ with skipLineFeed := skips},.done)

theorem Starts.ends (starts : Starts p b n tag m r) : ∀ mode, r.2 ≠ .again mode := by
  intro mode
  cases starts <;> nofun

theorem barring_iff {condition : Bool} {m m' : Manner} : Place.barring condition m = some m' ↔ condition = false ∧ m = m' := by
  cases condition <;> simp [Place.barring]

theorem insertFor_planted (tag : Tag) (placed : Placed b) (plain : (htmlName tag.name).isHtml "template" = false) :
    ∃ cells, b.insertFor tag = ({b with cells := cells, opened := b.cells.size :: b.opened},b.cells.size) ∧
      Planted b.cells cells b.site b.cells.size
        (.element (htmlName tag.name) (Place.propertiesOf (htmlName tag.name) tag.attributes) none) := by
  obtain ⟨cells,inserted,planted⟩ := insertNode_planted placed (htmlName tag.name) (tag.attributes.map plainProperty) plain
  refine ⟨cells,?_,planted⟩
  rw [insertFor,insertOpen,inserted]
  rfl

-- Opening an element changes the nodes and the stack of open ones only.
theorem Stands.insert_kept (stands : Stands p b) (plain : (htmlName tag.name).isHtml "template" = false) :
    (b.insert tag).skipLineFeed = false ∧ (b.insert tag).formatting = b.formatting := by
  obtain ⟨cells,inserted,_⟩ := insertFor_planted tag stands.placed plain
  rw [insert,inserted]
  exact ⟨stands.skips,rfl⟩

theorem Stands.insertVoid (stands : Stands p b) (plain : (htmlName tag.name).isHtml "template" = false) (ok : Bool) :
    Starts p b (htmlName tag.name) tag .leaf ({b.insertVoid tag with framesetOk := ok},.done) := by
  obtain ⟨cells,inserted,planted⟩ :=
    insertNode_planted stands.placed (htmlName tag.name) (Place.propertiesOf (htmlName tag.name) tag.attributes) plain
  have added : b.insertVoid tag = {b with cells := cells} := congrArg Prod.fst inserted
  rw [added]
  exact .leaf (stands.grow (planted.sprouts (.element planted.fresh planted.new .nil)) rfl)

theorem Stands.insertRaw (stands : Stands p b) (kind : RawKind) (plain : (htmlName tag.name).isHtml "template" = false) (ok skips : Bool) :
    Starts p b (htmlName tag.name) tag (.raw kind skips)
      (({b with framesetOk := ok, skipLineFeed := skips} : Builder).insertRaw tag kind) := by
  obtain ⟨cells,inserted,planted⟩ := insertFor_planted (b := {b with framesetOk := ok, skipLineFeed := skips}) tag
    ⟨stands.placed.settled,stands.placed.current,stands.placed.old,stands.placed.host⟩ plain
  have quotes : Quotes b {b with
      cells := cells, opened := b.cells.size :: b.opened, mode := .text, returnMode := b.mode, framesetOk := ok}
      (htmlName tag.name) tag := ⟨rfl,plain,planted,rfl⟩
  have starts : Starts p b (htmlName tag.name) tag (.raw kind skips) _ := .raw quotes
  rw [Builder.insertRaw,insert,inserted]
  exact starts

theorem Stands.insertText (stands : Stands p b) (plain : (htmlName tag.name).isHtml "template" = false) :
    Starts p b (htmlName tag.name) tag (.raw kind false) (b.insertRaw tag kind) := by
  have same : ({b with framesetOk := b.framesetOk, skipLineFeed := false} : Builder) = b := by rw [← stands.skips]
  have starts := stands.insertRaw kind plain b.framesetOk false
  rwa [same] at starts

theorem Begun.tops (begun : Begun p q b b₁ n attributes) (read : Reads q b₁ b₂ ts) : b₂.Tops b.cells.size b.opened n := by
  have opened : b₂.opened = b.cells.size :: b.opened := read.opened.trans begun.opened
  have names := read.stands.names
  rw [opened,begun.names,List.map_cons] at names
  exact ⟨opened,(List.cons.inj names).1⟩

theorem Begun.outer (begun : Begun p q b b₁ n attributes) (read : Reads q b₁ b₂ ts) : b.opened.map b₂.name = p.names := by
  have names := read.stands.names
  rw [read.opened,begun.opened,begun.names,List.map_cons] at names
  exact (List.cons.inj names).2

-- An element nests what it holds if its end brings back what was open before it.
theorem Begun.nests (begun : Begun p q b b₁ n tag.attributes) (stands : Stands p b)
    (ends : ∀ b₂ ts, Reads q b₁ b₂ ts → b₂.Tops b.cells.size b.opened n → ∃ mode, mode = b₂.resolve (modeOf p.names) ∧
      Yields 7 (.endTag tag.name) b₂ ({b₂ with opened := b.opened, formatting := b.formatting, form := b.form, mode := mode},.done)) :
    Nests p q b b₁ n tag := by
  refine ⟨begun.stands,begun.names,begun.unjoined,fun b₂ ts read => ?_⟩
  obtain ⟨mode,resolved,yields⟩ := ends b₂ ts read (begun.tops read)
  exact ⟨_,yields,begun.close stands read resolved rfl⟩

theorem Begun.modeStays (begun : Begun p q b b₁ n attributes) (stays : Stays n) (read : Reads q b₁ b₂ ts) :
    b₂.mode = b₂.resolve (modeOf p.names) := by
  rw [read.stands.mode,begun.names,modeOf_stays stays]

theorem Begun.nestsPlain (begun : Begun p q b b₁ n tag.attributes) (stands : Stands p b) (stays : Stays n)
    (listing : b₁.formatting = b.formatting) (form : b₁.form = b.form)
    (ends : ∀ b₂ ts, Reads q b₁ b₂ ts → b₂.Tops b.cells.size b.opened n →
      Yields 7 (.endTag tag.name) b₂ ({b₂ with opened := b.opened},.done)) : Nests p q b b₁ n tag := by
  refine begun.nests stands fun b₂ ts read tops => ⟨b₂.mode,begun.modeStays stays read,?_⟩
  have yields := ends b₂ ts read tops
  rwa [← listing,← form,← read.formatting,← read.form]

theorem Stands.beginStaying {cells : Array Cell} {formatting : List Formatting} {form : Option NodeId} {ok : Bool}
    (stands : Stands p b) (settled : b.mode ≠ .inTemplate) (stays : Stays n)
    (planted : Planted b.cells cells b.site b.cells.size (.element n (Place.propertiesOf n attributes) none))
    (names : q.names = n :: p.names) (entries : formatting.map tagOf? = q.formatting)
    (live : ∀ f ∈ formatting, ∀ id ∈ f.node?, id = b.cells.size ∨ id ∈ b.opened) (hasForm : form.isSome = q.hasForm)
    (ordinary : n.space = .mathml → isOneOf n.tag ["annotation-xml"] = false) :
    Begun p q b {b with
      cells := cells, opened := b.cells.size :: b.opened, formatting := formatting, form := form, framesetOk := ok} n attributes := by
  refine stands.begin planted ?_ rfl names entries live hasForm ?_ settled ordinary
  · rw [isHtml_isIn,stays.not_modal (by decide)]
  · rw [names,modeOf_stays stays]
    exact stands.mode

-- Nothing is listed and no form begins.
theorem Stands.beginPlain {cells : Array Cell} (stands : Stands p b) (ok : Bool) (settled : b.mode ≠ .inTemplate) (stays : Stays n)
    (planted : Planted b.cells cells b.site b.cells.size (.element n (Place.propertiesOf n attributes) none))
    (ordinary : n.space = .mathml → isOneOf n.tag ["annotation-xml"] = false) :
    Begun p (p.inside n) b {b with cells := cells, opened := b.cells.size :: b.opened, framesetOk := ok} n attributes :=
  stands.beginStaying settled stays planted rfl stands.entries (fun f listed id node => .inr (stands.live f listed id node)) stands.form
    ordinary

-- Elements that their end tag closes and that do nothing else.
theorem Stands.startPlain (stands : Stands p b) (settled : b.mode ≠ .inTemplate) (ground : p.ground? = some .flow)
    (pops : (Kind.of tag.name).pops = true) (ok skips : Bool) :
    Starts p b (htmlName tag.name) tag (.within (p.inside (htmlName tag.name)) skips)
      ({b.insert tag with framesetOk := ok, skipLineFeed := skips},.done) := by
  have inert : (Kind.of tag.name).setsMode = false := by
    cases kind : Kind.of tag.name <;> rw [kind] at pops <;> first | rfl | cases pops
  have stays : Stays (htmlName tag.name) := .inr inert
  obtain ⟨cells,inserted,planted⟩ := insertFor_planted tag stands.placed (by rw [isHtml_isIn,stays.not_modal (by decide)])
  have begun := stands.beginPlain ok settled stays planted (ordinary_html rfl)
  have nests := begun.nestsPlain stands stays rfl rfl fun b₂ ts read tops =>
    (read.stands.yields_bodyEnd tops rfl ground inert (tops.bodyEnd_pops pops)).more (by decide)
  have starts : Starts p b (htmlName tag.name) tag (.within (p.inside (htmlName tag.name)) skips) _ := .within nests
  rw [insert,inserted]
  exact starts

theorem Nests.starts (nests : Nests p q b b₁ n tag) : Starts p b n tag (.within q false) (b₁,.done) := by
  have same : {b₁ with skipLineFeed := false} = b₁ := by rw [← nests.stands.skips]
  have starts : Starts p b n tag (.within q false) _ := .within nests
  rwa [same] at starts

theorem isSome_tagOf (f : Formatting) : f.node?.isSome = (tagOf? f).isSome := by
  cases f <;> rfl

theorem isLike_tagOf (tag : Tag) (f : Formatting) : Formatting.isLike tag f = (tagOf? f).any (sameTag tag) := by
  cases f <;> rfl

theorem Stands.crowd (stands : Stands p b) (tag : Tag) :
    decide (3 ≤ (b.entriesToMarker.filter (Formatting.isLike tag)).length) = p.isCrowded tag := by
  have front : (b.formatting.map tagOf?).takeWhile Option.isSome = b.entriesToMarker.map tagOf? := by
    rw [List.takeWhile_map,entriesToMarker]
    exact congrArg (fun q => (b.formatting.takeWhile q).map tagOf?) (funext fun f => (isSome_tagOf f).symm)
  have alike : (b.entriesToMarker.map tagOf?).filter (fun f => f.any (sameTag tag)) =
      (b.entriesToMarker.filter (Formatting.isLike tag)).map tagOf? := by
    rw [List.filter_map]
    exact congrArg (fun q => (b.entriesToMarker.filter q).map tagOf?) (funext fun f => (isLike_tagOf tag f).symm)
  rw [Place.isCrowded,← stands.entries,front,alike,List.length_map]

theorem Stands.fresh (stands : Stands p b) : ∀ f ∈ b.formatting, f.node? ≠ some b.cells.size := by
  intro f listed same
  exact Nat.lt_irrefl _ (stands.placed.old _ (stands.live f listed _ same))

theorem Stands.startListed (stands : Stands p b) (settled : b.mode ≠ .inTemplate) (ground : p.ground? = some .flow)
    (formats : (Kind.of tag.name).formats = true) (uncrowded : p.isCrowded tag = false) :
    Starts p b (htmlName tag.name) tag (.within (p.listed tag) false) (b.insertFormatting tag,.done) := by
  have inert : (Kind.of tag.name).setsMode = false := by
    cases kind : Kind.of tag.name <;> rw [kind] at formats <;> first | rfl | cases formats
  have stays : Stays (htmlName tag.name) := .inr inert
  obtain ⟨cells,inserted,planted⟩ := insertFor_planted tag stands.placed (by rw [isHtml_isIn,stays.not_modal (by decide)])
  have listed : b.insertFormatting tag = {b with
      cells := cells, opened := b.cells.size :: b.opened, formatting := .element b.cells.size tag :: b.formatting} := by
    rw [insertFormatting]
    simp only [of_decide_eq_false ((stands.crowd tag).trans uncrowded),if_false,inserted]
  have begun : Begun p (p.listed tag) b {b with
      cells := cells, opened := b.cells.size :: b.opened, formatting := .element b.cells.size tag :: b.formatting}
      (htmlName tag.name) tag.attributes := by
    refine stands.beginStaying settled stays planted rfl ?_ ?_ stands.form (ordinary_html rfl)
    · exact congrArg (some tag :: ·) stands.entries
    · intro f inside id node
      rcases List.mem_cons.mp inside with rfl | inside
      · exact .inl (Option.some.inj node).symm
      · exact .inr (stands.live f inside id node)
  rw [listed]
  refine (begun.nests stands fun b₂ ts read tops => ⟨b₂.mode,begun.modeStays stays read,?_⟩).starts
  have ruled := tops.bodyEnd_formats formats read.formatting rfl stands.fresh
  have yields := (read.stands.yields_bodyEnd tops rfl ground inert ruled).more (l := 7) (by decide)
  have form : b₂.form = b.form := read.form
  rwa [← form]

theorem Stands.startObject (stands : Stands p b) (settled : b.mode ≠ .inTemplate) (ground : p.ground? = some .flow)
    (kind : Kind.of tag.name = .object) :
    Starts p b (htmlName tag.name) tag (p.markedHtml tag) ((b.insert tag).mark.blockFrameset,.done) := by
  have inert : (Kind.of tag.name).setsMode = false := kind ▸ rfl
  have stays : Stays (htmlName tag.name) := .inr inert
  obtain ⟨cells,inserted,planted⟩ := insertFor_planted tag stands.placed (by rw [isHtml_isIn,stays.not_modal (by decide)])
  have begun : Begun p (p.marked (htmlName tag.name)) b {b with
      cells := cells, opened := b.cells.size :: b.opened, formatting := .marker :: b.formatting, framesetOk := false}
      (htmlName tag.name) tag.attributes := by
    refine stands.beginStaying settled stays planted rfl ?_ ?_ stands.form (ordinary_html rfl)
    · exact congrArg (none :: ·) stands.entries
    · intro f inside id node
      rcases List.mem_cons.mp inside with rfl | inside
      · cases node
      · exact .inr (stands.live f inside id node)
  rw [insert,inserted]
  refine (begun.nests stands fun b₂ ts read tops => ⟨b₂.mode,begun.modeStays stays read,?_⟩).starts
  have ruled := tops.bodyEnd_object kind read.formatting
  have yields := (read.stands.yields_bodyEnd tops rfl ground inert ruled).more (l := 7) (by decide)
  have form : b₂.form = b.form := read.form
  rwa [← form]

theorem Stands.inTemplate (stands : Stands p b) : b.inTemplate = p.inTemplate := by
  rw [Builder.inTemplate,isOpen,Place.inTemplate,← stands.names,List.any_map]
  rfl

theorem Stands.startForm (stands : Stands p b) (settled : b.mode ≠ .inTemplate) (ground : p.ground? = some .flow)
    (kind : Kind.of tag.name = .form) (free : (p.hasForm && !p.inTemplate) = false) :
    Starts p b (htmlName tag.name) tag (.within {p.inside (htmlName tag.name) with hasForm := p.hasForm || !p.inTemplate} false)
      (if (b.insert tag).inTemplate then b.insert tag else {b.insert tag with form := some (b.insertFor tag).2},.done) := by
  have inert : (Kind.of tag.name).setsMode = false := kind ▸ rfl
  have stays : Stays (htmlName tag.name) := .inr inert
  have other : (htmlName tag.name).isHtml "template" = false := by rw [isHtml_isIn,stays.not_modal (by decide)]
  obtain ⟨cells,inserted,planted⟩ := insertFor_planted tag stands.placed other
  have begun : Begun p {p.inside (htmlName tag.name) with hasForm := p.hasForm || !p.inTemplate} b {b with
      cells := cells, opened := b.cells.size :: b.opened, form := if p.inTemplate then b.form else some b.cells.size}
      (htmlName tag.name) tag.attributes := by
    refine stands.beginStaying settled stays planted rfl stands.entries
      (fun f listed id node => .inr (stands.live f listed id node)) ?_ (ordinary_html rfl)
    cases template : p.inTemplate with
    | true => simpa using stands.form
    | false => simp
  have within : ∀ b₂ : Builder, Stands {p.inside (htmlName tag.name) with hasForm := p.hasForm || !p.inTemplate} b₂ →
      b₂.inTemplate = p.inTemplate := by
    intro b₂ inner
    rw [inner.inTemplate,Place.inTemplate,Place.inside,List.any_cons,other]
    rfl
  have opened : (if (b.insert tag).inTemplate then b.insert tag else {b.insert tag with form := some (b.insertFor tag).2}) = {b with
      cells := cells, opened := b.cells.size :: b.opened, form := if p.inTemplate then b.form else some b.cells.size} := by
    have template : (b.insert tag).inTemplate = p.inTemplate := by
      rw [← within _ begun.stands,insert,inserted]
      rfl
    rw [template,insert,inserted]
    cases p.inTemplate <;> rfl
  rw [opened]
  refine (begun.nests stands fun b₂ ts read tops => ⟨b₂.mode,begun.modeStays stays read,?_⟩).starts
  have inner : b₂.inTemplate = p.inTemplate := within b₂ read.stands
  have distinct : b.cells.size ∉ b.opened := fun inside => Nat.lt_irrefl _ (stands.placed.old _ inside)
  have held : b₂.form = if p.inTemplate then b.form else some b.cells.size := read.form
  have ruled := tops.bodyEnd_form kind distinct fun outside => by
    rw [held,← inner,outside]
    rfl
  have yields := (read.stands.yields_bodyEnd tops rfl ground inert ruled).more (l := 7) (by decide)
  have after : (if b₂.inTemplate then b₂.form else none) = b.form := by
    rw [inner,held]
    cases template : p.inTemplate with
    | true => rfl
    | false =>
      rw [template,← stands.form,Bool.not_false,Bool.and_true,Option.isSome_eq_false_iff,Option.isNone_iff_eq_none] at free
      exact free.symm
  have listing : b₂.formatting = b.formatting := read.formatting
  rw [after] at yields
  rwa [← listing]

theorem Stands.startForeign (stands : Stands p b) (settled : b.mode ≠ .inTemplate) (foreign : n.space ≠ .html)
    (ordinary : n.space = .mathml → isOneOf n.tag ["annotation-xml"] = false) (same : sameIgnoringCase n.tag tag.name = true)
    (ends : isOneOf tag.name ["br","p"] = false) (goesOn : tag.selfClosing = false) :
    Starts p b n tag (.within (p.inside n) false) (b.foreignElement n.space n.tag tag) := by
  have stays : Stays n := .inl foreign
  obtain ⟨cells,inserted,planted⟩ := insertNode_planted stands.placed n (Place.propertiesOf n tag.attributes)
    (by rw [isHtml_isIn,stays.not_modal (by decide)])
  have begun := stands.beginPlain b.framesetOk settled stays planted ordinary
  have nests := begun.nestsPlain stands stays rfl rfl fun b₂ ts read tops =>
    (read.stands.yields_foreignEnd tops foreign stands.placed.current same ends).more (by decide)
  have properties : tag.attributes.map (foreignProperty n.space) = Place.propertiesOf n tag.attributes := by
    rw [Place.propertiesOf,if_neg foreign]
  rw [foreignElement,goesOn,if_neg Bool.false_ne_true,properties,insertOpen,inserted]
  exact nests.starts

theorem resetMode_names {names : List Name} (opened : b.opened.map b.name = names) : b.resetMode = b.resolve (modeOf names) := by
  rw [resetMode,modeFor_names,opened]

-- Elements that change the mode, before whose content a marker may be put.
theorem Stands.startModal {mode : Mode} {cells : Array Cell} {ok : Bool} (stands : Stands p b) (marks : List Formatting)
    (planted : Planted b.cells cells b.site b.cells.size
      (.element (htmlName tag.name) (Place.propertiesOf (htmlName tag.name) tag.attributes) none))
    (plain : (htmlName tag.name).isHtml "template" = false) (call : modeOf (htmlName tag.name :: p.names) = mode)
    (firm : ∀ b : Builder, b.resolve mode = mode) (settled : mode ≠ .inTemplate) (marked : ∀ f ∈ marks, f = .marker)
    (ends : ∀ b₂ : Builder, b₂.isForeign (.endTag tag.name) = false → b₂.Tops b.cells.size b.opened (htmlName tag.name) →
      b₂.mode = mode → b₂.formatting = marks ++ b.formatting → b.opened.map b₂.name = p.names →
      ∃ mode, mode = b₂.resolve (modeOf p.names) ∧
        Yields 1 (.endTag tag.name) b₂ ({b₂ with opened := b.opened, formatting := b.formatting, mode := mode},.done)) :
    Starts p b (htmlName tag.name) tag
      (.within {p.inside (htmlName tag.name) with formatting := marks.map tagOf? ++ p.formatting} false)
      ({b with
        cells := cells, opened := b.cells.size :: b.opened, formatting := marks ++ b.formatting, mode := mode, framesetOk := ok},
      .done) := by
  have begun : Begun p {p.inside (htmlName tag.name) with formatting := marks.map tagOf? ++ p.formatting} b {b with
      cells := cells, opened := b.cells.size :: b.opened, formatting := marks ++ b.formatting, mode := mode, framesetOk := ok}
      (htmlName tag.name) tag.attributes := by
    refine stands.begin planted plain rfl rfl ?_ ?_ stands.form ?_ settled (ordinary_html rfl)
    · rw [List.map_append,stands.entries]
    · intro f listed id node
      rcases List.mem_append.mp listed with new | old
      · rw [marked f new] at node
        cases node
      · exact .inr (stands.live f old id node)
    · exact (firm b).symm.trans (congrArg b.resolve call.symm)
  refine (begun.nests stands fun b₂ ts read tops => ?_).starts
  have inside : b₂.mode = mode := by
    rw [read.stands.mode,begun.names,call,firm]
  obtain ⟨next,resolved,yields⟩ :=
    ends b₂ (read.stands.plainEnd tops rfl tag.name) tops inside read.formatting (begun.outer read)
  have form : b₂.form = b.form := read.form
  have yields := yields.more (l := 7) (by decide)
  rw [form] at yields
  exact ⟨next,resolved,yields⟩

-- A state inside of a new template, whose contents are the node before it.
def inContents (b : Builder) (cells : Array Cell) : Builder :=
  {b with
    cells := cells, opened := (b.cells.size + 1) :: b.opened, formatting := .marker :: b.formatting,
    templateModes := .inTemplate :: b.templateModes, mode := .inTemplate, framesetOk := false}

theorem Stands.inContents {cells : Array Cell} (stands : Stands p b)
    (planted : Planted b.cells cells b.site (b.cells.size + 1)
      (.element n (Place.propertiesOf n attributes) (some b.cells.size)))
    (template : n.isHtml "template" = true) (empty : cells[b.cells.size]? = some ⟨.document,none,[]⟩) :
    Stands (p.marked n) (b.inContents cells) ∧ (b.inContents cells).site = b.cells.size := by
  have kept : Keeps b.cells (b.inContents cells).cells := planted.keeps
  have name : (b.inContents cells).name (b.cells.size + 1) = n := by
    rw [name_eq,Builder.inContents,planted.new]
    rfl
  have site : (b.inContents cells).site = b.cells.size := by
    have contents : (b.inContents cells).contentsOf (b.cells.size + 1) = b.cells.size := by
      rw [contentsOf_eq,Builder.inContents,planted.new]
      rfl
    rw [site_cons rfl,isHtml,name,template,if_pos rfl,contents]
  refine ⟨⟨⟨stands.placed.settled,List.cons_ne_nil _ _,?_,_,site ▸ empty⟩,?_,?_,?_,?_,stands.form,?_,?_,?_,stands.pending,stands.skips,
    stands.headed,?_⟩,site⟩
  · intro id inside
    have size : (b.inContents cells).cells.size = b.cells.size + 2 := planted.size
    rw [size]
    rcases List.mem_cons.mp inside with rfl | inside
    · exact Nat.lt_succ_self _
    · exact Nat.lt_succ_of_lt (Nat.lt_succ_of_lt (stands.placed.old id inside))
  · exact congr (congrArg List.cons name) ((keeps_names kept stands.placed.old).trans stands.names)
  · refine List.nodup_cons.mpr ⟨fun inside => ?_,stands.distinct⟩
    exact Nat.not_succ_le_self _ (Nat.le_of_succ_le (stands.placed.old _ inside))
  · exact congrArg (none :: ·) stands.entries
  · intro f listed id node
    rcases List.mem_cons.mp listed with rfl | old
    · cases node
    · exact List.mem_cons_of_mem _ (stands.live f old id node)
  · cases isHtml_iff.mp template
    rfl
  · intro _
    exact template
  · intro m inside
    rcases List.mem_cons.mp inside with rfl | inside
    · exact .inl rfl
    · exact stands.templates m inside
  · intro m inside
    rcases List.mem_cons.mp inside with rfl | inside
    · exact ordinary_html (congrArg Name.space (isHtml_iff.mp template))
    · exact stands.ordinary m inside

theorem Tops.closeTemplate {id : NodeId} {outer : List NodeId} {rest : List Formatting} {modes : List Mode}
    (tops : b.Tops id outer ⟨.html,"template"⟩) (marked : b.formatting = .marker :: rest) (some : b.templateModes.tail = modes) :
    b.closeTemplate = {b with
      opened := outer, formatting := rest, templateModes := modes,
      mode := ({b with opened := outer, formatting := rest, templateModes := modes} : Builder).resetMode} := by
  have inside : b.inTemplate = true := by
    rw [inTemplate,isOpen,tops.opened,List.any_cons,isHtml,tops.named]
    rfl
  have cleared : ({b with opened := outer} : Builder).clearToMarker = {b with opened := outer, formatting := rest} :=
    clearToMarker_marked marked
  rw [Builder.closeTemplate,inside,if_pos rfl,tops.popThroughHtml,cleared]
  simp only [List.drop_one,some,enter]

theorem Stands.nestsTemplate {cells : Array Cell} (stands : Stands p b)
    (planted : Planted b.cells cells b.site (b.cells.size + 1)
      (.element (htmlName tag.name) (Place.propertiesOf (htmlName tag.name) tag.attributes) (some b.cells.size)))
    (template : (htmlName tag.name).isHtml "template" = true) (empty : cells[b.cells.size]? = some ⟨.document,none,[]⟩) :
    Nests p (p.marked (htmlName tag.name)) b (b.inContents cells) (htmlName tag.name) tag := by
  obtain ⟨inner,site⟩ := stands.inContents planted template empty
  have named : tag.name = "template" := congrArg Name.tag (isHtml_iff.mp template)
  refine ⟨inner,rfl,?_,fun b₂ ts read => ⟨b₂.closeTemplate,?_,?_⟩⟩
  · intro cell found id first
    rw [site,show (b.inContents cells).cells[b.cells.size]? = _ from empty] at found
    cases found
    cases first
  all_goals
    have opened : b₂.opened = (b.cells.size + 1) :: b.opened := read.opened
    have names := read.stands.names
    rw [opened] at names
    have tops : b₂.Tops (b.cells.size + 1) b.opened (htmlName tag.name) := ⟨opened,(List.cons.inj names).1⟩
  · have mode : b₂.mode = .inTemplate ∨ b₂.mode = .inBody := by
      have mode := read.stands.mode
      have call : modeOf (p.marked (htmlName tag.name)).names = .inTemplate := by
        rw [isHtml_iff.mp template]
        rfl
      rw [call] at mode
      rcases read.settles with same | same
      · exact .inl (by rw [mode,resolve,same]; rfl)
      · exact .inr (by rw [mode,resolve,same]; rfl)
    have ruled : b₂.rules (.endTag tag.name) b₂.mode = (b₂.closeTemplate,.done) := by
      rw [named]
      rcases mode with mode | mode <;> rw [mode] <;> rfl
    exact (yields_done (read.stands.plainEnd tops rfl tag.name) rfl ruled).more (by decide)
  · have grown := read.grown
    rw [site] at grown
    rw [Tops.closeTemplate (isHtml_iff.mp template ▸ tops) read.formatting read.settles.tail]
    exact stands.back (planted.aroundContents template (Nat.le_refl _) (Nat.lt_succ_self _) empty grown) rfl rfl read.form read.head
      (.inl rfl) (resetMode_names (List.cons.inj names).2) read.stands.placed.settled read.stands.pending read.stands.skips

theorem Stands.startTemplate (stands : Stands p b) (template : (htmlName tag.name).isHtml "template" = true)
    (unshadowed : tag.attributes.any (·.name == ("shadowrootmode" : Text)) = false) :
    Starts p b (htmlName tag.name) tag (p.markedHtml tag) (b.headStart tag) := by
  obtain ⟨cells,inserted,planted,empty⟩ :=
    insertTemplate_planted stands.placed (htmlName tag.name) (Place.propertiesOf (htmlName tag.name) tag.attributes) template
  have named : tag.name = "template" := congrArg Name.tag (isHtml_iff.mp template)
  have shadow : b.isShadow tag = false := by
    have none : (tag.attributes.any fun a => a.name == ("shadowrootmode" : Text) && isOneOf a.value ["open","close"]) = false := by
      rw [List.any_eq_false] at unshadowed ⊢
      exact fun a inside both => unshadowed a inside (Bool.and_eq_true_iff.mp both).1
    rw [isShadow,none,Bool.and_false]
  have new : b.insert tag = {b with cells := cells, opened := (b.cells.size + 1) :: b.opened} :=
    congrArg (fun made : Builder × NodeId => made.1.push made.2) inserted
  have opened : b.headStart tag = (b.inContents cells,.done) := by
    rw [headStart]
    simp only [shadow,new,Bool.false_eq_true,if_false]
    rw [named]
    rfl
  rw [opened]
  exact (stands.nestsTemplate planted template empty).starts

end StyleTrim.Html.Builder
