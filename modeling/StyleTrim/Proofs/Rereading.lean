import StyleTrim.Proofs.Grounds
namespace StyleTrim.Html.Builder
open Text
variable {b b' b₀ b₁ b₂ : Builder} {p q : Place} {n : Name} {tag : Tag} {t : Token} {r : Ruled} {m : Manner} {g : Ground}
  {kind : RawKind} {skips : Bool} {value rest : Text} {seams : List Nat} {c : Char} {ts : List Figure} {cells cells' : Array Cell}

-- Nodes that are read again where they stand.

theorem Stands.rulesComment (stands : Stands p b) (ground : p.ground? = some g) (value : Text) :
    b.rules (.comment value) b.mode = (b.insertComment value,.done) := by
  have modes := stands.modes ground
  cases g with
  | flow => rcases modes with mode | mode | mode | mode <;> rw [mode] <;> rfl
  | select => rcases modes with mode | mode <;> rw [mode] <;> rfl
  | table | rows | cells | columns | head | gap =>
    rw [show b.mode = _ from modes]
    rfl

theorem Stands.yieldsComment (stands : Stands p b) (ground : p.ground? = some g) (value : Text) :
    Yields 1 (.comment value) b (b.insertComment value,.done) := by
  cases foreign : b.isForeign (.comment value) with
  | true => exact yields_foreign foreign rfl nofun
  | false => exact yields_done foreign rfl (stands.rulesComment ground value)

theorem run_commentNode (stands : Stands p b₀) (poised : Poised b b₀) (taken : p.takesComment value = true)
    (noMark : Delivery.byteOrderMark ∉ rest) :
    ∃ b', run seams b ((Figure.comment value).markup p.isRaw ++ rest) = run seams b' rest ∧ Reads p b₀ b' [.comment value] := by
  obtain ⟨sound,some⟩ := Bool.and_eq_true_iff.mp taken
  obtain ⟨g,ground⟩ := Option.isSome_iff_exists.mp some
  obtain ⟨cells,inserted,planted⟩ := insertComment_planted stands.placed value
  have fed : b.feed (.comment value) = (b₀.insertComment value,.done) :=
    poised.feed stands.skips rfl ((stands.yieldsComment ground value).more (by decide))
  rw [inserted] at fed
  exact ⟨_,run_comment sound fed noMark,stands.grow (planted.sprouts (.comment planted.fresh planted.new)) rfl⟩

-- An element whose text is no markup is innermost, and text may be added to it.
structure Texts (b : Builder) : Prop where
  placed : Placed b
  mode : b.mode = .text
  html : ∀ id ∈ b.opened.head?, (b.name id).space = .html
  skips : b.skipLineFeed = false

theorem Texts.plain (texts : Texts b) (t : Token) : b.isForeign t = false := by
  obtain ⟨id,outer,opened⟩ := List.exists_cons_of_ne_nil texts.placed.current
  have current : b.current? = some id := by
    rw [current?,opened]
    rfl
  have space := texts.html id current
  unfold isForeign
  simp [current,space]

theorem Texts.plant {id : Nat} {content : Content} (texts : Texts b) (planted : Planted b.cells cells b.site id content) :
    Texts {b with cells := cells} := by
  obtain ⟨placed,_⟩ := texts.placed.plant planted
  refine ⟨placed,texts.mode,fun id current => ?_,texts.skips⟩
  have inside : id < b.cells.size := texts.placed.old id (List.mem_of_head? current)
  have name : Builder.name {b with cells := cells} id = b.name id := keeps_name planted.keeps inside
  rw [name]
  exact texts.html id current

theorem Texts.character (texts : Texts b) (eager : Eager b' b) (follows : b' = b ∨ c ≠ '\n') :
    b'.feed (.character c) = (b.insertChar c,.done) := by
  have ruled : b.rules (.character c) .text = (b.insertChar c,.done) := rfl
  exact feed_character eager texts.skips follows ((yields_done (texts.plain _) texts.mode ruled).more (by decide))

-- Characters go on with the text that was begun.
theorem feedAll_more (front : Text) (texts : Texts b) (planted : Planted b.cells cells b.site b.cells.size (.text front.reverse)) :
    ∃ cells', feedAll {b with cells := cells} (value.map .character) = {b with cells := cells'} ∧
      Planted b.cells cells' b.site b.cells.size (.text (front ++ value).reverse) := by
  induction value generalizing cells front with
  | nil => exact ⟨cells,rfl,by rwa [List.append_nil]⟩
  | cons c value ih =>
    have texts' := texts.plant planted
    obtain ⟨placed,site⟩ := texts.placed.plant planted
    obtain ⟨cells',inserted,planted'⟩ := insertChar_more placed c (by rw [site]; exact planted)
    rw [site] at planted'
    obtain ⟨cells'',goesOn,planted''⟩ := ih (front ++ [c]) (by simpa using planted')
    refine ⟨cells'',?_,by simpa using planted''⟩
    rw [List.map_cons,feedAll,List.foldl_cons,texts'.character (.inl rfl) (.inl rfl),inserted]
    exact goesOn

theorem feedAll_text (texts : Texts b) (eager : Eager b' b) (follows : b' = b ∨ value.head? ≠ some '\n') (unjoined : Unjoined b)
    (filled : value ≠ []) :
    ∃ cells', feedAll b' (value.map .character) = {b with cells := cells'} ∧
      Planted b.cells cells' b.site b.cells.size (.text value.reverse) := by
  obtain ⟨c,value,rfl⟩ := List.exists_cons_of_ne_nil filled
  obtain ⟨cell,found⟩ := texts.placed.host
  obtain ⟨cells,inserted,planted⟩ := insertChar_first texts.placed c found (unjoined cell found)
  obtain ⟨cells',goesOn,planted'⟩ := feedAll_more [c] texts planted
  refine ⟨cells',?_,planted'⟩
  rw [List.map_cons,feedAll,List.foldl_cons,
    texts.character eager (follows.imp_right fun other same => other (congrArg some same)),inserted]
  exact goesOn

theorem Texts.yieldsEnd (texts : Texts b) (s : Text) : Yields 1 (.endTag s) b (b.pop.enter b.returnMode,.done) := by
  have ruled : b.rules (.endTag s) .text = (b.pop.enter b.returnMode,.done) := rfl
  exact yields_done (texts.plain _) texts.mode ruled

-- The text of an element as its children.
def Holding (value : Text) (ts : List Figure) : Prop := value = [] ∧ ts = [] ∨ value ≠ [] ∧ ts = [.text value]

theorem Quotes.texts (quotes : Quotes b b₁ n tag) (stands : Stands p b) : Texts b₁ ∧ b₁.site = b.cells.size ∧ Unjoined b₁ := by
  have same := quotes.same
  have planted := quotes.planted
  generalize stored : b₁.cells = cells at same planted
  generalize b₁.framesetOk = ok at same
  subst same
  obtain ⟨placed,site,name⟩ := stands.placed.under {b with
    cells := cells, opened := b.cells.size :: b.opened, mode := .text, returnMode := b.mode, framesetOk := ok}
    quotes.plain planted rfl stands.placed.settled
  refine ⟨⟨placed,rfl,fun id current => ?_,stands.skips⟩,site,fun cell found id first => ?_⟩
  · cases Option.some.inj current
    rw [name,quotes.name]
    rfl
  · rw [site,planted.new] at found
    cases found
    cases first

theorem Quotes.filled (quotes : Quotes b b₁ n tag) (stands : Stands p b) (held : Holding value ts)
    (follows : skips = false ∨ value.head? ≠ some '\n') :
    ∃ cells, Eager (feedAll {b₁ with skipLineFeed := skips} (value.map .character)) {b₁ with cells := cells} ∧
      Texts {b₁ with cells := cells} ∧ Sprouts b₁.cells cells b.cells.size ts := by
  obtain ⟨texts,site,unjoined⟩ := quotes.texts stands
  have eager : Eager {b₁ with skipLineFeed := skips} b₁ := by
    cases skips with
    | false => exact .inl (by rw [← texts.skips])
    | true => exact .inr rfl
  have follows : {b₁ with skipLineFeed := skips} = b₁ ∨ value.head? ≠ some '\n' := by
    rcases follows with rfl | other
    · exact .inl (by rw [← texts.skips])
    · exact .inr other
  rcases held with ⟨rfl,rfl⟩ | ⟨filled,rfl⟩
  · exact ⟨b₁.cells,eager,texts,.refl quotes.planted.new⟩
  · obtain ⟨cells,fed,planted⟩ := feedAll_text texts eager follows unjoined filled
    refine ⟨cells,.inl fed,texts.plant planted,?_⟩
    rw [site] at planted
    exact planted_text planted

theorem Quotes.closed (quotes : Quotes b b₁ n tag) (stands : Stands p b) (texts : Texts {b₁ with cells := cells})
    (grown : Sprouts b₁.cells cells b.cells.size ts) (s : Text) :
    ∃ b₃, Yields 1 (.endTag s) {b₁ with cells := cells} (b₃,.done) ∧ Reads p b b₃ [figureOf n tag.attributes ts] := by
  have planted := quotes.planted
  have same := quotes.same
  generalize b₁.cells = middle at same planted grown
  generalize b₁.framesetOk = ok at same
  subst same
  have around := planted.around grown
  exact ⟨_,texts.yieldsEnd s,stands.grow around rfl⟩

theorem rawSplit_read (rest : Text) (sound : Figure.isReadRaw kind tag.name value = true) :
    rawSplit kind tag.name ((Figure.text value).markup (Dom.isRawText tag.name) ++ (Dom.closeTag tag.name ++ rest)) =
      (value,Dom.closeTag tag.name ++ rest) := by
  cases kind with
  | referred =>
    simp only [Figure.isReadRaw,Bool.and_eq_true,Bool.not_eq_true'] at sound
    obtain ⟨escaped,noNull⟩ := sound
    rw [escaped,Figure.markup_escaped]
    exact Scan.referredText_read tag.name rest noNull
  | plain =>
    simp only [Figure.isReadRaw,Bool.and_eq_true] at sound
    rw [sound.1,Figure.markup_plain]
    exact Scan.rawText_ahead (eq_of_beq sound.2)
  | script =>
    simp only [Figure.isReadRaw,Bool.and_eq_true] at sound
    obtain ⟨named,ends⟩ := sound
    have named := eq_of_beq named
    have raw : Dom.isRawText tag.name = true := by rw [named]; decide +kernel
    rw [raw,Figure.markup_plain]
    rw [named] at ends ⊢
    exact Scan.scriptText_ahead .outside 0 (eq_of_beq ends)

theorem rawTokens_read (rest : Text) (sound : Figure.isReadRaw kind tag.name value = true) :
    rawTokens kind tag.name ((Figure.text value).markup (Dom.isRawText tag.name) ++ (Dom.closeTag tag.name ++ rest)) =
      value.map .character := by
  have split := rawSplit_read rest sound
  cases kind with
  | plain | script =>
    rw [rawTokens,split]
    · rfl
    · nofun
  | referred =>
    simp only [Figure.isReadRaw,Bool.and_eq_true,Bool.not_eq_true'] at sound
    obtain ⟨escaped,_⟩ := sound
    have front : ∃ c s, (Figure.text value).markup (Dom.isRawText tag.name) ++ (Dom.closeTag tag.name ++ rest) = c :: s ∧
        Scan.faultAt c s = [] := by
      rw [escaped,Figure.markup_escaped]
      cases value with
      | nil => exact ⟨'<',_,rfl,rfl⟩
      | cons c value =>
        rw [List.flatMap_cons,List.append_assoc]
        rcases Scan.escapedText_cases c with ⟨called,written,refers⟩ | ⟨written,noReference,_⟩
        · refine ⟨'&',_,by rw [written,List.cons_append],?_⟩
          rw [Scan.faultAt,refers.shut]
          rfl
        · refine ⟨c,_,by rw [written,List.singleton_append],?_⟩
          rw [Scan.faultAt,if_neg (by simp [noReference])]
    obtain ⟨c,s,same,fine⟩ := front
    rw [same] at split ⊢
    rw [rawTokens,split]
    simp only [fine,List.nil_append]

-- A state before some nodes. A text is read at once, behind something else than text, and a line
-- feed at its beginning is not passed over.
structure Awaits (b b₀ : Builder) (ts : List Figure) : Prop where
  poised : Poised b b₀
  texts : Figure.startsText ts = true → Eager b b₀ ∧ Unjoined b₀
  lines : Figure.startsLine ts = true → b = b₀

theorem Awaits.ready (unjoined : Unjoined b) (ts : List Figure) : Awaits b b ts :=
  ⟨.ready b,fun _ => ⟨.inl rfl,unjoined⟩,fun _ => rfl⟩

theorem Reads.unjoined {node : Figure} (read : Reads p b b' [node]) (stands : Stands p b) (other : node.isText = false) :
    Unjoined b' := by
  have grown := read.grown
  rw [← stands.site read] at grown
  exact .behind grown other

variable {name : Text} {attributes : List StyleTrim.Attribute}

theorem run_leaf (named : Scan.isTagName name) (sound : attributes.all Scan.isAttribute) (apart : Scan.areApart attributes)
    (stands : Stands p b₀) (poised : Poised b b₀) (settled : Reads p b₀ b₁ [])
    (yields : Yields 7 (.startTag (Scan.readTag name attributes)) b₀ r) (starts : Starts p b₁ n (Scan.readTag name attributes) .leaf r) :
    ∃ b', run seams b (Dom.openTag name attributes ++ rest) = run seams b' rest ∧
      Reads p b₀ b' [figureOf n (Scan.readTag name attributes).attributes []] := by
  cases starts with
  | leaf read => exact ⟨_,run_open named sound apart (poised.feed stands.skips rfl yields),settled.trans stands read⟩

theorem run_nested (named : Scan.isTagName name) (sound : attributes.all Scan.isAttribute) (apart : Scan.areApart attributes)
    (stands : Stands p b₀) (poised : Poised b b₀) (settled : Reads p b₀ b₁ [])
    (yields : Yields 7 (.startTag (Scan.readTag name attributes)) b₀ r)
    (starts : Starts p b₁ n (Scan.readTag name attributes) (.within q skips) r) (written : n.tag = name)
    (lines : skips = false ∨ Figure.startsLine ts = false)
    (inner : ∀ b b₂, q.isRaw = Dom.isRawText name → Stands q b₂ → Awaits b b₂ ts → ∃ b' b₃,
      run seams b (Figure.markupAll (Dom.isRawText name) ts ++ (Dom.closeTag name ++ rest)) = run seams b' (Dom.closeTag name ++ rest) ∧
      Poised b' b₃ ∧ Reads q b₂ b₃ ts)
    (noMark : Delivery.byteOrderMark ∉ rest) :
    ∃ b', run seams b (Dom.openTag name attributes ++ (Figure.markupAll (Dom.isRawText name) ts ++ (Dom.closeTag name ++ rest))) =
      run seams b' rest ∧ Reads p b₀ b' [figureOf n (Scan.readTag name attributes).attributes ts] := by
  cases starts with
  | @within b₂ _ _ nests =>
    have raw : q.isRaw = Dom.isRawText name := by
      rw [Place.isRaw,Place.currentIs,Place.current?,nests.names,← written]
      rfl
    have awaits : Awaits {b₂ with skipLineFeed := skips} b₂ ts := by
      cases skips with
      | false =>
        have same : {b₂ with skipLineFeed := false} = b₂ := by rw [← nests.stands.skips]
        rw [same]
        exact .ready nests.unjoined ts
      | true =>
        refine ⟨.skipping b₂,fun _ => ⟨.inr rfl,nests.unjoined⟩,fun starts => ?_⟩
        rcases lines with absurdly | other
        · cases absurdly
        · rw [other] at starts
          cases starts
    obtain ⟨b',b₃,goesOn,poised',read⟩ := inner _ b₂ raw nests.stands awaits
    obtain ⟨b₄,ends,closed⟩ := nests.ends b₃ ts read
    refine ⟨b₄,?_,settled.trans stands closed⟩
    rw [run_open named sound apart (poised.feed stands.skips rfl yields),goesOn]
    exact run_close _ named (poised'.feed read.stands.skips rfl ends) noMark

theorem run_quoted (named : Scan.isTagName name) (sound : attributes.all Scan.isAttribute) (apart : Scan.areApart attributes)
    (stands : Stands p b₀) (poised : Poised b b₀) (settled : Reads p b₀ b₁ [])
    (yields : Yields 7 (.startTag (Scan.readTag name attributes)) b₀ r)
    (starts : Starts p b₁ n (Scan.readTag name attributes) (.raw kind skips) r) (written : n.tag = name) (held : Holding value ts)
    (follows : skips = false ∨ value.head? ≠ some '\n') (readable : Figure.isReadRaw kind name value = true)
    (noMark : Delivery.byteOrderMark ∉ rest) :
    ∃ b', run seams b (Dom.openTag name attributes ++
        ((Figure.text value).markup (Dom.isRawText name) ++ (Dom.closeTag name ++ rest))) = run seams b' rest ∧
      Reads p b₀ b' [figureOf n (Scan.readTag name attributes).attributes ts] := by
  cases starts with
  | @raw b₂ _ _ quotes =>
    have lowered : (Scan.readTag name attributes).name = name := (congrArg Name.tag quotes.name).symm.trans written
    obtain ⟨cells,eager,texts,grown⟩ := quotes.filled settled.stands held follows
    obtain ⟨b₃,ends,closed⟩ := quotes.closed settled.stands texts grown (lower name)
    have split := rawSplit_read rest (by rw [lowered]; exact readable)
    have tokens := rawTokens_read rest (by rw [lowered]; exact readable)
    obtain ⟨s,front,read⟩ := Scan.tokens_open named sound apart
    refine ⟨b₃,?_,settled.trans stands closed⟩
    rw [lowered] at split tokens
    rw [front,run_raw read (poised.feed stands.skips rfl yields),lowered,split,tokens]
    exact run_close _ named (eager.poised.feed texts.skips rfl (ends.more (by decide))) noMark

-- An element that is read as the one it is at its place.
structure ReadAs (p : Place) (tag : Text) (attributes : List StyleTrim.Attribute) : Prop where
  named : Scan.isTagName tag = true
  sound : attributes.all Scan.isAttribute = true
  apart : Scan.areApart attributes = true
  written : (p.nameOf (lower tag)).tag = tag
  shown : ∀ ts, figureOf (p.nameOf (lower tag)) (Scan.readTag tag attributes).attributes ts = .element tag attributes ts

theorem readAs_iff {name : Text} (read : Figure.isReadAs p name attributes = true) : ReadAs p name attributes := by
  simp only [Figure.isReadAs,Bool.and_eq_true,beq_iff_eq] at read
  obtain ⟨⟨⟨⟨named,sound⟩,apart⟩,written⟩,shown⟩ := read
  refine ⟨named,sound,apart,written,fun ts => ?_⟩
  rw [figureOf,written,show (Scan.readTag name attributes).attributes = attributes.map Scan.readAttribute from rfl,shown]

theorem notMem_of_append {s t : Text} (noMark : Delivery.byteOrderMark ∉ s ++ t) : Delivery.byteOrderMark ∉ t :=
  fun inside => noMark (List.mem_append_right s inside)

-- The text of an element whose children fit as such.
theorem holding_of {name : Text} (filled : (match ts with
      | [] => Figure.isReadRaw kind name []
      | [.text value] => !value.isEmpty && Figure.isReadRaw kind name value
      | _ => false) = true) :
    ∃ value, Holding value ts ∧ Figure.isReadRaw kind name value = true ∧
      (Figure.startsLine ts = false → value.head? ≠ some '\n') := by
  split at filled
  · exact ⟨[],.inl ⟨rfl,rfl⟩,filled,nofun⟩
  · rename_i value
    simp only [Bool.and_eq_true,Bool.not_eq_true',List.isEmpty_eq_false_iff] at filled
    refine ⟨value,.inr ⟨filled.1,rfl⟩,filled.2,fun other first => ?_⟩
    cases value with
    | nil => cases first
    | cons c value =>
      cases first
      cases other
  · cases filled

theorem markup_holding {raw : Bool} (holding : Holding value ts) : Figure.markupAll raw ts = (Figure.text value).markup raw := by
  rcases holding with ⟨rfl,rfl⟩ | ⟨_,rfl⟩
  · cases raw <;> rfl
  · exact List.append_nil _

mutual
-- A node that fits its place is read there again.
theorem run_node (seams : List Nat) (p : Place) (rest : Text) (node : Figure) (b b₀ : Builder) (fits : Figure.fits p node = true)
    (stands : Stands p b₀) (awaits : Awaits b b₀ [node]) (noMark : Delivery.byteOrderMark ∉ node.markup p.isRaw ++ rest) :
    ∃ b' b₁, run seams b (node.markup p.isRaw ++ rest) = run seams b' rest ∧ Poised b' b₁ ∧ (node.isText = false → b' = b₁) ∧
      Reads p b₀ b₁ [node] := by
  match node with
  | .document _ | .doctype _ => cases fits
  | .comment value =>
    obtain ⟨b',goesOn,read⟩ := run_commentNode stands awaits.poised fits (notMem_of_append noMark)
    exact ⟨b',b',goesOn,.ready b',fun _ => rfl,read⟩
  | .text value =>
    obtain ⟨eager,unjoined⟩ := awaits.texts rfl
    have follows : b = b₀ ∨ value.head? ≠ some '\n' := by
      by_cases first : value.head? = some '\n'
      · refine .inl (awaits.lines ?_)
        cases value with
        | nil => cases first
        | cons c value =>
          cases first
          rfl
      · exact .inr first
    obtain ⟨b',b₁,goesOn,poised,read⟩ := run_text stands eager follows unjoined fits noMark
    exact ⟨b',b₁,goesOn,poised,nofun,read⟩
  | .element name attributes children =>
    rw [Figure.fits,Bool.and_eq_true] at fits
    obtain ⟨readAs,held⟩ := fits
    have readAs := readAs_iff readAs
    have after := notMem_of_append noMark
    rw [Figure.markup_element,List.append_assoc] at noMark ⊢
    cases manner : p.manner (Scan.readTag name attributes) with
    | none =>
      rw [manner] at held
      cases held
    | some m =>
      rw [manner] at held
      obtain ⟨b₁,r,settled,yields,starts⟩ := stands.starts rfl manner
      cases m with
      | leaf =>
        obtain ⟨void,none⟩ := Bool.and_eq_true_iff.mp held
        cases List.isEmpty_iff.mp none
        rw [if_pos void,List.nil_append]
        obtain ⟨b',goesOn,read⟩ := run_leaf readAs.named readAs.sound readAs.apart stands awaits.poised
          settled yields starts
        exact ⟨b',b',goesOn,.ready b',fun _ => rfl,readAs.shown [] ▸ read⟩
      | raw kind skips =>
        simp only [Bool.and_eq_true,Bool.or_eq_true,Bool.not_eq_true'] at held
        obtain ⟨⟨solid,lines⟩,filled⟩ := held
        obtain ⟨value,holding,readable,first⟩ := holding_of filled
        rw [solid,if_neg Bool.false_ne_true,markup_holding holding,List.append_assoc] at noMark ⊢
        obtain ⟨b',goesOn,read⟩ := run_quoted readAs.named readAs.sound readAs.apart stands awaits.poised
          settled yields starts readAs.written holding (lines.imp_right first) readable after
        exact ⟨b',b',goesOn,.ready b',fun _ => rfl,readAs.shown children ▸ read⟩
      | within q skips =>
        simp only [Bool.and_eq_true,Bool.or_eq_true,Bool.not_eq_true'] at held
        obtain ⟨⟨solid,lines⟩,fit⟩ := held
        rw [solid,if_neg Bool.false_ne_true,List.append_assoc] at noMark ⊢
        obtain ⟨b',goesOn,read⟩ := run_nested readAs.named readAs.sound readAs.apart stands awaits.poised
          settled yields starts readAs.written lines
          (fun b b₂ raw stands awaits =>
            raw ▸ run_nodes seams q (Dom.closeTag name ++ rest) children b b₂ fit stands awaits (raw ▸ notMem_of_append noMark)) after
        exact ⟨b',b',goesOn,.ready b',fun _ => rfl,readAs.shown children ▸ read⟩
-- So are nodes one after the other.
theorem run_nodes (seams : List Nat) (p : Place) (rest : Text) (nodes : List Figure) (b b₀ : Builder)
    (fit : Figure.allFit p nodes = true) (stands : Stands p b₀) (awaits : Awaits b b₀ nodes)
    (noMark : Delivery.byteOrderMark ∉ Figure.markupAll p.isRaw nodes ++ rest) :
    ∃ b' b₁, run seams b (Figure.markupAll p.isRaw nodes ++ rest) = run seams b' rest ∧ Poised b' b₁ ∧ Reads p b₀ b₁ nodes := by
  match nodes with
  | [] => exact ⟨b,b₀,rfl,awaits.poised,.refl stands⟩
  | node :: more =>
    simp only [Figure.allFit,Bool.and_eq_true,Bool.not_eq_true',Bool.and_eq_false_iff] at fit
    obtain ⟨⟨fits,apart⟩,fit⟩ := fit
    rw [Figure.markupAll_cons,List.append_assoc] at noMark ⊢
    obtain ⟨b',b₁,goesOn,poised,ready,read⟩ := run_node seams p (Figure.markupAll p.isRaw more ++ rest) node b b₀ fits stands
      ⟨awaits.poised,awaits.texts,awaits.lines⟩ noMark
    have next : Awaits b' b₁ more := by
      refine ⟨poised,fun starts => ?_,fun starts => ?_⟩
      · have other : node.isText = false := apart.resolve_right (by simp [starts])
        exact ⟨.inl (ready other),read.unjoined stands other⟩
      · have text : Figure.startsText more = true := by
          cases more with
          | nil => cases starts
          | cons first later =>
            cases first with
            | text => rfl
            | _ => cases starts
        exact ready (apart.resolve_right (by simp [text]))
    obtain ⟨b'',b₂,further,poised',read'⟩ := run_nodes seams p rest more b' b₁ fit read.stands next (notMem_of_append noMark)
    exact ⟨b'',b₂,goesOn.trans further,poised',read.trans stands read'⟩
end

end StyleTrim.Html.Builder
