import StyleTrim.Proofs.Manners
namespace StyleTrim.Html.Builder
open Text
variable {b b' b₀ : Builder} {p q : Place} {tag : Tag} {t : Token} {r : Ruled} {m : Manner} {g : Ground}

-- The rules that apply to a start tag in each mode.

theorem Stands.ordinaryStart (stands : Stands p b) (foreign : p.readsForeign tag.name = false) :
    b.isForeign (.startTag tag) = false :=
  (stands.foreignStart tag).trans foreign

-- A template whose contents go on as those of a body.
def settle (b : Builder) : Builder := {b with templateModes := .inBody :: b.templateModes.drop 1, mode := .inBody}

theorem Stands.settle (stands : Stands p b) (ground : p.ground? = some .flow) (mode : b.mode = .inTemplate) :
    Reads p b b.settle [] := by
  obtain ⟨cell,found⟩ := stands.placed.host
  refine stands.back (.refl found) rfl rfl rfl rfl (.inr (by rw [Builder.settle,List.drop_one])) ?_ stands.placed.settled
    stands.pending stands.skips
  have now := stands.mode
  rcases modeOf_ground ground with call | call | call | call
  · rw [call]
    rfl
  · rw [call,mode] at now
    cases now
  · rw [call,mode] at now
    cases now
  · rw [call]
    rfl

theorem apart_part {s : Text} (known : Kind.of s ≠ .part) {words : List String} (among : words ⊆ Kind.part.tags) :
    isOneOf s words = false :=
  Bool.eq_false_iff.mpr fun inside => known ((Kind.of_iff (by decide)).mpr (isOneOf_among inside among))

theorem Stands.yields_flow (stands : Stands p b) (ground : p.ground? = some .flow) (foreign : p.readsForeign tag.name = false)
    (head : Kind.of tag.name ≠ .head) (part : Kind.of tag.name ≠ .part) :
    ∃ b₀, Reads p b b₀ [] ∧ b₀.mode ≠ .inTemplate ∧
      ∀ r : Ruled, (∀ mode, r.2 ≠ .again mode) → b₀.bodyStart tag = r → Yields 2 (.startTag tag) b r := by
  have plain := stands.ordinaryStart foreign
  have parts : isOneOf tag.name ["caption","col","colgroup","tbody","td","tfoot","th","thead","tr"] = false :=
    apart_part part (by decide)
  rcases stands.modes ground with mode | mode | mode | mode
  · refine ⟨b,.refl stands,by rw [mode]; decide,fun r ends ruled => (yields_rules plain rfl ?_ ends).more (by decide)⟩
    rw [mode]
    exact ruled
  · refine ⟨b,.refl stands,by rw [mode]; decide,fun r ends ruled => (yields_rules plain rfl ?_ ends).more (by decide)⟩
    rw [mode]
    simp only [rules,inCell,parts,Bool.false_eq_true,if_false]
    exact ruled
  · refine ⟨b,.refl stands,by rw [mode]; decide,fun r ends ruled => (yields_rules plain rfl ?_ ends).more (by decide)⟩
    rw [mode]
    simp only [rules,inCaption,parts,Bool.false_eq_true,if_false]
    exact ruled
  · refine ⟨b.settle,stands.settle ground mode,show Mode.inBody ≠ .inTemplate by decide,fun r ends ruled => ?_⟩
    have noHead : isOneOf tag.name headTags = false :=
      Bool.eq_false_iff.mpr fun inside => head ((Kind.of_iff (by decide)).mpr inside)
    have tables : isOneOf tag.name ["caption","colgroup","tbody","tfoot","thead"] = false := apart_part part (by decide)
    have column : isOneOf tag.name ["col"] = false := apart_part part (by decide)
    have row : isOneOf tag.name ["tr"] = false := apart_part part (by decide)
    have cell : isOneOf tag.name ["td","th"] = false := apart_part part (by decide)
    have goesOn : b.rules (.startTag tag) .inTemplate = ({b with templateModes := .inBody :: b.templateModes.drop 1},.again .inBody) := by
      simp only [rules,inTemplateContents,noHead,tables,column,row,cell,Bool.false_eq_true,if_false]
      rfl
    have after : Yields 1 (.startTag tag) b.settle r :=
      yields_rules ((stands.settle ground mode).stands.ordinaryStart foreign) rfl ruled ends
    exact yields_again plain mode goesOn after

theorem Stands.startsFlow (stands : Stands p b) (ground : p.ground? = some .flow) (foreign : p.readsForeign tag.name = false)
    (goesOn : tag.selfClosing = false) (manner : p.flowManner tag = some m) :
    ∃ b₀ r, Reads p b b₀ [] ∧ Yields 7 (.startTag tag) b r ∧ Starts p b₀ (p.nameOf tag.name) tag m r := by
  by_cases head : Kind.of tag.name = .head
  · have plain := stands.ordinaryStart foreign
    have word : isOneOf tag.name headTags = true := (Kind.of_iff (by decide)).mp head
    have parts : isOneOf tag.name ["caption","col","colgroup","tbody","td","tfoot","th","thead","tr"] = false :=
      isOneOf_apart word (by decide)
    rw [Place.flowManner,head] at manner
    have starts := stands.startHead manner
    have body : b.bodyStart tag = b.headStart tag := by rw [bodyStart_kind,head,startOf]
    rw [nameOf_of foreign (isOneOf_apart word (by decide)) (isOneOf_apart word (by decide))]
    refine ⟨b,_,.refl stands,(yields_rules plain rfl ?_ starts.ends).more (by decide),starts⟩
    rcases stands.modes ground with mode | mode | mode | mode
    · rw [mode]
      exact body
    · rw [mode]
      simp only [rules,inCell,parts,Bool.false_eq_true,if_false]
      exact body
    · rw [mode]
      simp only [rules,inCaption,parts,Bool.false_eq_true,if_false]
      exact body
    · rw [mode]
      simp only [rules,inTemplateContents,word,if_true]
  · have part : Kind.of tag.name ≠ .part := by
      intro kind
      rw [Place.flowManner,kind] at manner
      cases manner
    obtain ⟨b₀,settled,ordinary,yields⟩ := stands.yields_flow ground foreign head part
    obtain ⟨b₁,blocked,starts⟩ := settled.stands.startFlow ordinary ground foreign goesOn head manner
    exact ⟨b₁,_,settled.trans stands blocked,(yields _ starts.ends (bodyStart_kind b₀ tag)).more (by decide),starts⟩

theorem Stands.startsForeign (stands : Stands p b) (foreign : p.readsForeign tag.name = true) (goesOn : tag.selfClosing = false)
    (manner : p.foreignManner tag = some m) :
    ∃ r, Yields 7 (.startTag tag) b r ∧ Starts p b (p.nameOf tag.name) tag m r := by
  rw [Place.foreignManner] at manner
  split at manner
  · cases manner
  · rename_i stays
    obtain ⟨stays,ordinary⟩ := Bool.or_eq_false_iff.mp (Bool.eq_false_iff.mpr stays)
    cases manner
    obtain ⟨n,outer,names,test⟩ := currentIs_iff.mp foreign
    have apart : n.space ≠ .html := by
      simp only [Bool.and_eq_true,decide_eq_true_eq] at test
      exact test.1.1
    have space : p.space = n.space := by rw [Place.space,Place.current?,names]; rfl
    have name : p.nameOf tag.name = ⟨p.space,foreignTag p.space tag.name⟩ := by rw [Place.nameOf,foreign,if_pos rfl]
    have settled : b.mode ≠ .inTemplate := by
      intro mode
      obtain ⟨n',outer',names',template⟩ := currentIs_iff.mp (stands.unsettled mode)
      rw [names] at names'
      cases names'
      exact apart (congrArg Name.space (isHtml_iff.mp template))
    have ends : isOneOf tag.name ["br","p"] = false := by
      refine Bool.eq_false_iff.mpr fun inside => ?_
      rw [breaksOut,isOneOf_among inside (by decide)] at stays
      cases stays
    have starts := stands.startForeign (n := p.nameOf tag.name) settled (by rw [name,space]; exact apart)
      (fun math => by rw [name] at math ⊢; rw [show p.space = .mathml from math]; exact ordinary)
      (by rw [name]; exact same_foreignTag _ _) ends goesOn
    have current : ((b.current?.map fun id => (b.name id).space).getD .html) = p.space := by
      obtain ⟨id,outer,opened,names⟩ := stands.opened
      rw [current?,opened,Place.space,Place.current?,names]
      rfl
    have ruled : b.foreign (.startTag tag) = b.foreignElement (p.nameOf tag.name).space (p.nameOf tag.name).tag tag := by
      rw [Builder.foreign,stays,name,← current]
      rfl
    exact ⟨_,(yields_foreign ((stands.foreignStart tag).trans foreign) ruled starts.ends).more (by decide),starts⟩

-- The element that a part of a table stands in.
def Ground.holds : Ground → Name → Bool
  | .table => Name.isHtml "table"
  | .rows => Name.isIn ["tbody","tfoot","thead"]
  | .cells => Name.isHtml "tr"
  | .columns => Name.isHtml "colgroup"
  | _ => fun _ => true

theorem ground_holds (ground : p.ground? = some g) (part : g = .table ∨ g = .rows ∨ g = .cells ∨ g = .columns) : p.currentIs (Ground.holds g) = true := by
  unfold Place.ground? at ground
  split at ground
  · cases ground
    assumption
  · split at ground
    · cases ground
      assumption
    · split at ground
      · cases ground
        assumption
      · split at ground
        · cases ground
          assumption
        · split at ground <;> cases ground <;> rcases part with other | other | other | other <;> cases other

theorem Stands.part (stands : Stands p b) (ground : p.ground? = some g) (part : g = .table ∨ g = .rows ∨ g = .cells ∨ g = .columns) :
    ∃ id n outer, b.Tops id outer n ∧ p.names = n :: outer.map b.name ∧ Ground.holds g n = true := by
  obtain ⟨n,above,names,holds⟩ := currentIs_iff.mp (ground_holds ground part)
  obtain ⟨id,outer,opened,names'⟩ := stands.opened
  rw [names'] at names
  cases names
  exact ⟨id,b.name id,outer,⟨opened,rfl⟩,names',holds⟩

-- Captions and cells, before whose content a marker is put.
theorem Stands.startMarked {inner outer : Mode} {cells : Array Cell} {ok : Bool} (stands : Stands p b)
    (planted : Planted b.cells cells b.site b.cells.size
      (.element (htmlName tag.name) (Place.propertiesOf (htmlName tag.name) tag.attributes) none))
    (plain : (htmlName tag.name).isHtml "template" = false) (call : modeOf (htmlName tag.name :: p.names) = inner)
    (firm : ∀ b : Builder, b.resolve inner = inner) (settled : inner ≠ .inTemplate)
    (back : ∀ b : Builder, outer = b.resolve (modeOf p.names))
    (ends : ∀ b₂ : Builder, b₂.Tops b.cells.size b.opened (htmlName tag.name) → b₂.formatting = .marker :: b.formatting →
      b₂.rules (.endTag tag.name) inner = ({b₂ with opened := b.opened, formatting := b.formatting, mode := outer},.done)) :
    Starts p b (htmlName tag.name) tag (p.markedHtml tag)
      ({b with
        cells := cells, opened := b.cells.size :: b.opened, formatting := .marker :: b.formatting, mode := inner, framesetOk := ok},
      .done) :=
  stands.startModal [.marker] planted plain call firm settled (by simp) fun b₂ plain tops mode listing _ =>
    ⟨outer,back b₂,yields_done plain mode (ends b₂ tops listing)⟩

theorem Stands.startUnmarked {inner outer : Mode} {cells : Array Cell} {ok : Bool} (stands : Stands p b)
    (planted : Planted b.cells cells b.site b.cells.size
      (.element (htmlName tag.name) (Place.propertiesOf (htmlName tag.name) tag.attributes) none))
    (plain : (htmlName tag.name).isHtml "template" = false) (call : modeOf (htmlName tag.name :: p.names) = inner)
    (firm : ∀ b : Builder, b.resolve inner = inner) (settled : inner ≠ .inTemplate)
    (back : ∀ b : Builder, outer = b.resolve (modeOf p.names))
    (ends : ∀ b₂ : Builder, b₂.Tops b.cells.size b.opened (htmlName tag.name) →
      b₂.rules (.endTag tag.name) inner = ({b₂ with opened := b.opened, mode := outer},.done)) :
    Starts p b (htmlName tag.name) tag (p.html tag)
      ({b with cells := cells, opened := b.cells.size :: b.opened, mode := inner, framesetOk := ok},.done) := by
  refine stands.startModal [] planted plain call firm settled (by simp) fun b₂ plain tops mode listing _ =>
    ⟨outer,back b₂,yields_done plain mode ?_⟩
  rw [show b.formatting = b₂.formatting from listing.symm]
  exact ends b₂ tops

theorem name_of {s : Text} {word : String} (single : isOneOf s [word] = true) : s = word := by
  simpa [isOneOf,ofStrings] using single

theorem Stands.startCaption (stands : Stands p b) (ground : p.ground? = some .table) (word : isOneOf tag.name ["caption"] = true) :
    Starts p b (htmlName tag.name) tag (p.markedHtml tag) (b.inTable (.startTag tag)) := by
  have named : tag.name = "caption" := name_of word
  obtain ⟨id,n,outer,tops,names,table⟩ := stands.part ground (by decide)
  cases isHtml_iff.mp table
  have plain := plain_of word (by decide)
  obtain ⟨cells,inserted,planted⟩ := insertFor_planted (b := b.mark) tag
    ⟨stands.placed.settled,stands.placed.current,stands.placed.old,stands.placed.host⟩ plain
  have ruled : b.inTable (.startTag tag) = ({b with
      cells := cells, opened := b.cells.size :: b.opened, formatting := .marker :: b.formatting, mode := .inCaption},.done) := by
    simp only [inTable,word,if_true,tableContext,tops.popTo (q := Name.limitsTableScope) rfl,insert,inserted]
    rfl
  rw [ruled]
  refine stands.startMarked planted plain (by rw [named]; rfl) (fun _ => rfl) (by decide)
    (fun _ => by rw [names]; rfl) ?_
  intro b₂ tops listing
  rw [named] at tops ⊢
  have caption : isOneOf "caption" ["caption"] = true := by simp [isOneOf,ofStrings]
  have cleared : ({b₂ with opened := b.opened} : Builder).clearToMarker = {b₂ with opened := b.opened, formatting := b.formatting} :=
    clearToMarker_marked listing
  simp only [rules,inCaption,caption,tops.inScope,tops.popThroughHtml,cleared,if_true,enter,done]

theorem rules_columnEnd (b : Builder) (colgroup : b.currentIsHtml "colgroup" = true) :
    b.rules (.endTag "colgroup") .inColumnGroup = (b.pop.enter .inTable,.done) := by
  have own : b.rules (.endTag "colgroup") .inColumnGroup = done (if b.currentIsHtml "colgroup" then b.pop.enter .inTable else b) := rfl
  rw [own,if_pos colgroup]
  rfl

theorem rules_columnStart (b : Builder) (tag : Tag) (root : isOneOf tag.name ["html"] = false) : b.rules (.startTag tag) .inColumnGroup =
    if isOneOf tag.name ["col"] then (b.insertVoid tag).done
    else if isOneOf tag.name ["template"] then b.headStart tag
    else if b.currentIsHtml "colgroup" then b.pop.again .inTable else b.done := by
  show (if isOneOf tag.name ["html"] then b.htmlAgain tag else _) = _
  rw [root,if_neg Bool.false_ne_true]

theorem Stands.startColumns (stands : Stands p b) (ground : p.ground? = some .table) (word : isOneOf tag.name ["colgroup"] = true) :
    Starts p b (htmlName tag.name) tag (p.html tag) (b.inTable (.startTag tag)) := by
  have named : tag.name = "colgroup" := name_of word
  obtain ⟨id,n,outer,tops,names,table⟩ := stands.part ground (by decide)
  cases isHtml_iff.mp table
  have plain := plain_of word (by decide)
  obtain ⟨cells,inserted,planted⟩ := insertFor_planted tag stands.placed plain
  have notCaption : isOneOf tag.name ["caption"] = false := isOneOf_apart word (by decide)
  have ruled : b.inTable (.startTag tag) = ({b with
      cells := cells, opened := b.cells.size :: b.opened, mode := .inColumnGroup},.done) := by
    simp only [inTable,notCaption,word,Bool.false_eq_true,if_false,if_true,tableContext,tops.popTo (q := Name.limitsTableScope) rfl,
      insert,inserted]
    rfl
  rw [ruled]
  refine stands.startUnmarked planted plain (by rw [named]; rfl) (fun _ => rfl) (by decide)
    (fun _ => by rw [names]; rfl) ?_
  intro b₂ tops
  rw [named] at tops ⊢
  have current : b₂.currentIsHtml "colgroup" = true := (tops.currentIs _).trans (isHtml_iff.mpr rfl)
  rw [rules_columnEnd b₂ current,tops.pop]
  rfl

theorem modeOf_rows {s : Text} {outer : List Name} (word : isOneOf s ["tbody","tfoot","thead"] = true) :
    modeOf (htmlName s :: outer) = .inTableBody := by
  simp only [isOneOf,ofStrings,List.map_cons,List.map_nil,List.contains_eq_mem,List.mem_cons,List.not_mem_nil,or_false,
    decide_eq_true_eq] at word
  obtain rfl | rfl | rfl := word <;> rfl

theorem modeOf_cells {s : Text} {n : Name} {outer : List Name} (word : isOneOf s ["th","td"] = true) :
    modeOf (htmlName s :: n :: outer) = .inCell := by
  simp only [isOneOf,ofStrings,List.map_cons,List.map_nil,List.contains_eq_mem,List.mem_cons,List.not_mem_nil,or_false,
    decide_eq_true_eq] at word
  obtain rfl | rfl := word <;> rfl

theorem Stands.startRows (stands : Stands p b) (ground : p.ground? = some .table)
    (word : isOneOf tag.name ["tbody","tfoot","thead"] = true) :
    Starts p b (htmlName tag.name) tag (p.html tag) (b.inTable (.startTag tag)) := by
  obtain ⟨id,n,outer,tops,names,table⟩ := stands.part ground (by decide)
  cases isHtml_iff.mp table
  have plain := plain_of word (by decide)
  obtain ⟨cells,inserted,planted⟩ := insertFor_planted tag stands.placed plain
  have notCaption : isOneOf tag.name ["caption"] = false := isOneOf_apart word (by decide)
  have notColumns : isOneOf tag.name ["colgroup"] = false := isOneOf_apart word (by decide)
  have notColumn : isOneOf tag.name ["col"] = false := isOneOf_apart word (by decide)
  have ruled : b.inTable (.startTag tag) = ({b with
      cells := cells, opened := b.cells.size :: b.opened, mode := .inTableBody},.done) := by
    simp only [inTable,notCaption,notColumns,notColumn,word,Bool.false_eq_true,if_false,if_true,tableContext,
      tops.popTo (q := Name.limitsTableScope) rfl,insert,inserted]
    rfl
  have section_ : (htmlName tag.name).isIn ["tbody","tfoot","thead"] = true := (htmlName_isIn _ _).trans word
  rw [ruled]
  refine stands.startUnmarked planted plain ?_ (fun _ => rfl) (by decide)
    (fun _ => by rw [names]; rfl) ?_
  · exact modeOf_rows word
  · intro b₂ tops
    have context : (htmlName tag.name).isTableBodyContext = true := by
      rw [Name.isTableBodyContext,htmlName_isIn]
      exact isOneOf_among word (by decide)
    simp only [rules,inTableBody,word,tops.inScope,if_true,bodyContext,tops.popTo context,tops.pop,enter,done]

theorem Stands.startRow (stands : Stands p b) (ground : p.ground? = some .rows) (word : isOneOf tag.name ["tr"] = true) :
    Starts p b (htmlName tag.name) tag (p.html tag) (b.inTableBody (.startTag tag)) := by
  have named : tag.name = "tr" := name_of word
  obtain ⟨id,⟨space,section_⟩,outer,tops,names,rows⟩ := stands.part ground (by decide)
  obtain ⟨html,among⟩ := Bool.and_eq_true_iff.mp rows
  cases of_decide_eq_true html
  have context : (htmlName section_).isTableBodyContext = true := by
    rw [Name.isTableBodyContext,htmlName_isIn]
    exact isOneOf_among among (by decide)
  have calls : modeOf (⟨.html,section_⟩ :: outer.map b.name) = .inTableBody := modeOf_rows among
  have plain := plain_of word (by decide)
  obtain ⟨cells,inserted,planted⟩ := insertFor_planted tag stands.placed plain
  have ruled : b.inTableBody (.startTag tag) = ({b with
      cells := cells, opened := b.cells.size :: b.opened, mode := .inRow},.done) := by
    simp only [inTableBody,word,if_true,bodyContext,tops.popTo context,insert,inserted]
    rfl
  rw [ruled]
  refine stands.startUnmarked planted plain (by rw [named]; rfl) (fun _ => rfl) (by decide)
    (fun _ => by rw [names,calls]; rfl) ?_
  intro b₂ tops
  rw [named] at tops ⊢
  have row : isOneOf "tr" ["tr"] = true := by simp [isOneOf,ofStrings]
  simp only [rules,inRow,row,tops.inScope,if_true,rowContext,tops.popTo (q := Name.isTableRowContext) rfl,tops.pop,enter,done]

theorem Stands.startCell (stands : Stands p b) (ground : p.ground? = some .cells) (word : isOneOf tag.name ["th","td"] = true) :
    Starts p b (htmlName tag.name) tag (p.markedHtml tag) (b.inRow (.startTag tag)) := by
  obtain ⟨id,n,outer,tops,names,row⟩ := stands.part ground (by decide)
  cases isHtml_iff.mp row
  have plain := plain_of word (by decide)
  obtain ⟨cells,inserted,planted⟩ := insertFor_planted tag stands.placed plain
  have ruled : b.inRow (.startTag tag) = ({b with
      cells := cells, opened := b.cells.size :: b.opened, formatting := .marker :: b.formatting, mode := .inCell},.done) := by
    simp only [inRow,word,if_true,rowContext,tops.popTo (q := Name.isTableRowContext) rfl,insert,inserted]
    rfl
  rw [ruled]
  refine stands.startMarked planted plain (by rw [names]; exact modeOf_cells word) (fun _ => rfl)
    (by decide) (fun _ => by rw [names]; rfl) ?_
  intro b₂ tops listing
  have cell : isOneOf tag.name ["td","th"] = true := isOneOf_among word (by decide)
  have cleared : ({b₂ with opened := b.opened} : Builder).clearToMarker = {b₂ with opened := b.opened, formatting := b.formatting} :=
    clearToMarker_marked listing
  simp only [rules,inCell,cell,tops.inScope,tops.popThroughHtml,cleared,if_true,enter,done]

-- What belongs to the head is read by the rules of the head between the parts of a table as well.
theorem inTable_head (word : isOneOf tag.name ["style","script","template"] = true) : b.inTable (.startTag tag) = b.headStart tag := by
  have apart : ∀ {words : List String}, (∀ w ∈ ["style","script","template"], w ∉ words) → isOneOf tag.name words = false :=
    fun apart => isOneOf_apart word apart
  have caption : isOneOf tag.name ["caption"] = false := apart (by decide)
  have columns : isOneOf tag.name ["colgroup"] = false := apart (by decide)
  have column : isOneOf tag.name ["col"] = false := apart (by decide)
  have rows : isOneOf tag.name ["tbody","tfoot","thead"] = false := apart (by decide)
  have cells : isOneOf tag.name ["td","th","tr"] = false := apart (by decide)
  have table : isOneOf tag.name ["table"] = false := apart (by decide)
  simp only [inTable,caption,columns,column,rows,cells,table,word,Bool.false_eq_true,if_false,if_true]

theorem inTableBody_head (word : isOneOf tag.name ["style","script","template"] = true) :
    b.inTableBody (.startTag tag) = b.headStart tag := by
  have row : isOneOf tag.name ["tr"] = false := isOneOf_apart word (by decide)
  have cells : isOneOf tag.name ["th","td"] = false := isOneOf_apart word (by decide)
  have parts : isOneOf tag.name ["caption","col","colgroup","tbody","tfoot","thead"] = false := isOneOf_apart word (by decide)
  simp only [inTableBody,row,cells,parts,Bool.false_eq_true,if_false,inTable_head word]

theorem inRow_head (word : isOneOf tag.name ["style","script","template"] = true) : b.inRow (.startTag tag) = b.headStart tag := by
  have cells : isOneOf tag.name ["th","td"] = false := isOneOf_apart word (by decide)
  have parts : isOneOf tag.name ["caption","col","colgroup","tbody","tfoot","thead","tr"] = false := isOneOf_apart word (by decide)
  simp only [inRow,cells,parts,Bool.false_eq_true,if_false,inTable_head word]

-- What the rule of the mode comes to is what the token comes to.
theorem Stands.startsBy (stands : Stands p b) (foreign : p.readsForeign tag.name = false) (name : p.nameOf tag.name = htmlName tag.name)
    {mode : Mode} (current : b.mode = mode) (starts : Starts p b (htmlName tag.name) tag m (b.rules (.startTag tag) mode)) :
    ∃ r, Yields 7 (.startTag tag) b r ∧ Starts p b (p.nameOf tag.name) tag m r := by
  rw [name]
  exact ⟨_,(yields_rules (stands.ordinaryStart foreign) current rfl starts.ends).more (by decide),starts⟩

theorem Stands.startsPart (stands : Stands p b) (ground : p.ground? = some g) (parts : Ground.isOfTable g)
    (foreign : p.readsForeign tag.name = false) (manner : p.partManner tag = some m) :
    ∃ r, Yields 7 (.startTag tag) b r ∧ Starts p b (p.nameOf tag.name) tag m r := by
  rw [Place.partManner] at manner
  split at manner
  · rename_i word
    have starts := stands.startHead manner
    have name := nameOf_of foreign (isOneOf_apart word (by decide)) (isOneOf_apart word (by decide))
    have mode := stands.modes ground
    rcases parts with rfl | rfl | rfl
    · exact stands.startsBy foreign name mode (by rwa [rules,inTable_head word])
    · exact stands.startsBy foreign name mode (by rwa [rules,inTableBody_head word])
    · exact stands.startsBy foreign name mode (by rwa [rules,inRow_head word])
  · cases manner

theorem Stands.startsTable (stands : Stands p b) (ground : p.ground? = some .table) (foreign : p.readsForeign tag.name = false)
    (manner : p.mannerOn tag .table = some m) : ∃ r, Yields 7 (.startTag tag) b r ∧ Starts p b (p.nameOf tag.name) tag m r := by
  have mode : b.mode = .inTable := stands.modes ground
  rw [Place.mannerOn] at manner
  split at manner
  · rename_i word
    cases manner
    exact stands.startsBy foreign (nameOf_of foreign (isOneOf_apart word (by decide)) (isOneOf_apart word (by decide))) mode
      (stands.startCaption ground word)
  · split at manner
    · rename_i word
      cases manner
      rcases Bool.or_eq_true_iff.mp word with word | word
      · exact stands.startsBy foreign (nameOf_of foreign (isOneOf_apart word (by decide)) (isOneOf_apart word (by decide))) mode
          (stands.startColumns ground word)
      · exact stands.startsBy foreign (nameOf_of foreign (isOneOf_apart word (by decide)) (isOneOf_apart word (by decide))) mode
          (stands.startRows ground word)
    · exact stands.startsPart ground (.inl rfl) foreign manner

theorem Stands.startsRows (stands : Stands p b) (ground : p.ground? = some .rows) (foreign : p.readsForeign tag.name = false)
    (manner : p.mannerOn tag .rows = some m) : ∃ r, Yields 7 (.startTag tag) b r ∧ Starts p b (p.nameOf tag.name) tag m r := by
  have mode : b.mode = .inTableBody := stands.modes ground
  rw [Place.mannerOn] at manner
  split at manner
  · rename_i word
    cases manner
    exact stands.startsBy foreign (nameOf_of foreign (isOneOf_apart word (by decide)) (isOneOf_apart word (by decide))) mode
      (stands.startRow ground word)
  · exact stands.startsPart ground (.inr (.inl rfl)) foreign manner

theorem Stands.startsCells (stands : Stands p b) (ground : p.ground? = some .cells) (foreign : p.readsForeign tag.name = false)
    (manner : p.mannerOn tag .cells = some m) : ∃ r, Yields 7 (.startTag tag) b r ∧ Starts p b (p.nameOf tag.name) tag m r := by
  have mode : b.mode = .inRow := stands.modes ground
  rw [Place.mannerOn] at manner
  split at manner
  · rename_i word
    cases manner
    exact stands.startsBy foreign (nameOf_of foreign (isOneOf_apart word (by decide)) (isOneOf_apart word (by decide))) mode
      (stands.startCell ground word)
  · exact stands.startsPart ground (.inr (.inr rfl)) foreign manner

theorem Stands.startsColumns (stands : Stands p b) (ground : p.ground? = some .columns) (foreign : p.readsForeign tag.name = false)
    (manner : p.mannerOn tag .columns = some m) : ∃ r, Yields 7 (.startTag tag) b r ∧ Starts p b (p.nameOf tag.name) tag m r := by
  have mode : b.mode = .inColumnGroup := stands.modes ground
  rw [Place.mannerOn] at manner
  split at manner
  · rename_i word
    cases manner
    refine stands.startsBy foreign (nameOf_of foreign (isOneOf_apart word (by decide)) (isOneOf_apart word (by decide))) mode ?_
    rw [rules_columnStart b tag (isOneOf_apart word (by decide)),if_pos word]
    exact stands.insertVoid (plain_of word (by decide)) (b.insertVoid tag).framesetOk
  · split at manner
    · rename_i word
      refine stands.startsBy foreign (nameOf_of foreign (isOneOf_apart word (by decide)) (isOneOf_apart word (by decide))) mode ?_
      have column : isOneOf tag.name ["col"] = false := isOneOf_apart word (by decide)
      rw [rules_columnStart b tag (isOneOf_apart word (by decide)),column,if_neg Bool.false_ne_true,if_pos word]
      exact stands.startHead manner
    · cases manner

-- Elements of the head have tags out of a list.
theorem headManner_word (manner : p.headManner tag = some m) : isOneOf tag.name ("noscript" :: headTags) = true := by
  rw [Place.headManner] at manner
  split at manner
  · rename_i word
    exact isOneOf_among word (by decide)
  · split at manner
    · rename_i word
      exact isOneOf_among word (by decide)
    · split at manner
      · rename_i word
        exact isOneOf_among word (by decide)
      · split at manner
        · rename_i word
          exact isOneOf_among word (by decide)
        · split at manner
          · rename_i word
            exact isOneOf_among word (by decide)
          · cases manner

theorem Stands.startsHead (stands : Stands p b) (ground : p.ground? = some .head) (foreign : p.readsForeign tag.name = false)
    (manner : p.mannerOn tag .head = some m) : ∃ r, Yields 7 (.startTag tag) b r ∧ Starts p b (p.nameOf tag.name) tag m r := by
  have mode : b.mode = .inHead := stands.modes ground
  have word := headManner_word manner
  have root : isOneOf tag.name ["html"] = false := isOneOf_apart word (by decide)
  refine stands.startsBy foreign (nameOf_of foreign (isOneOf_apart word (by decide)) (isOneOf_apart word (by decide))) mode ?_
  simp only [rules,inHead,root,word,Bool.false_eq_true,if_false,if_true]
  exact stands.startHead manner

theorem stays_of {s : Text} {words : List String} (word : isOneOf s words = true) (apart : ∀ w ∈ words, w ∉ modal) :
    Stays (htmlName s) := by
  refine .inr (Bool.eq_false_iff.mpr fun sets => ?_)
  have tells : ∀ k : Kind, k.setsMode = true → k ∈ Kind.telling.filter Kind.setsMode ∧ k ≠ .other := by
    intro k
    cases k <;> decide
  obtain ⟨tells,known⟩ := tells _ sets
  have inside : isOneOf s modal = true :=
    isOneOf_among (Kind.of_mem rfl known) fun w inside => List.mem_flatMap.mpr ⟨_,tells,inside⟩
  rw [isOneOf_apart word apart] at inside
  cases inside

-- An end tag that closes a choice or a group of choices, if it is the innermost element.
theorem Tops.inSelect_end {id : NodeId} {outer : List NodeId} {s : Text} (tops : b.Tops id outer (htmlName s))
    (word : isOneOf s ["option","optgroup"] = true) : b.inSelect (.endTag s) = ({b with opened := outer},.done) := by
  simp only [isOneOf,ofStrings,List.map_cons,List.map_nil,List.contains_eq_mem,List.mem_cons,List.not_mem_nil,or_false,
    decide_eq_true_eq] at word
  obtain rfl | rfl := word
  · have current : b.currentIsHtml "option" = true := (tops.currentIs _).trans (isHtml_iff.mpr rfl)
    have group : isOneOf "option" ["optgroup"] = false := by simp [isOneOf,ofStrings]
    have option : isOneOf "option" ["option"] = true := by simp [isOneOf,ofStrings]
    simp only [inSelect,group,option,current,tops.pop,Bool.false_eq_true,if_false,if_true,done]
  · have current : b.currentIsHtml "optgroup" = true := (tops.currentIs _).trans (isHtml_iff.mpr rfl)
    have group : isOneOf "optgroup" ["optgroup"] = true := by simp [isOneOf,ofStrings]
    have other : b.isHtml "option" id = false := by
      rw [isHtml,tops.named]
      simp [Name.isHtml,htmlName]
    cases outer <;>
      simp only [inSelect,group,tops.opened,other,Bool.false_and,current,tops.pop,Bool.false_eq_true,if_false,if_true,done]

theorem inSelectInTable_apart {words : List String} (word : isOneOf tag.name words = true)
    (apart : ∀ w ∈ words, w ∉ ["caption","table","tbody","tfoot","thead","tr","td","th"]) :
    b.inSelectInTable (.startTag tag) = b.inSelect (.startTag tag) ∧
      b.inSelectInTable (.endTag tag.name) = b.inSelect (.endTag tag.name) := by
  have parts := isOneOf_apart word apart
  constructor <;> simp only [inSelectInTable,parts,Bool.false_eq_true,if_false]

theorem Stands.startChoice (stands : Stands p b) (ground : p.ground? = some .select)
    (word : isOneOf tag.name ["option","optgroup"] = true) : Starts p b (htmlName tag.name) tag (p.html tag) (b.insert tag,.done) := by
  have stays : Stays (htmlName tag.name) := stays_of word (by decide)
  have settled : b.mode ≠ .inTemplate := by
    rcases stands.modes ground with mode | mode <;> rw [mode] <;> decide
  obtain ⟨cells,inserted,planted⟩ := insertFor_planted tag stands.placed (plain_of word (by decide))
  have begun := stands.beginPlain b.framesetOk settled stays planted (ordinary_html rfl)
  rw [insert,inserted]
  refine (begun.nestsPlain stands stays rfl rfl fun b₂ ts read tops => ?_).starts
  have modes := read.stands.modes (ground_stays stays begun.names ground (.inr rfl))
  have ruled : b₂.rules (.endTag tag.name) b₂.mode = ({b₂ with opened := b.opened},.done) :=
    (rules_select modes (inSelectInTable_apart word (by decide)).2).trans (tops.inSelect_end word)
  exact (yields_done (read.stands.plainEnd tops rfl tag.name) rfl ruled).more (by decide)

theorem Stands.noChoice (stands : Stands p b) (free : p.currentIs (Name.isIn ["option","optgroup"]) = false) :
    b.currentIsHtml "option" = false ∧ b.currentIsHtml "optgroup" = false := by
  obtain ⟨id,outer,opened,names⟩ := stands.opened
  have tops : b.Tops id outer (b.name id) := ⟨opened,rfl⟩
  have not : (b.name id).isIn ["option","optgroup"] = false := by
    rwa [Place.currentIs,Place.current?,names] at free
  rw [currentIsHtml,currentIsHtml,tops.currentIs,tops.currentIs]
  rw [Name.isIn,Bool.and_eq_false_iff] at not
  rcases not with foreign | other
  · simp [Name.isHtml,foreign]
  · simp [isOneOf,ofStrings] at other
    simp [Name.isHtml,other]

theorem Stands.startsSelect (stands : Stands p b) (ground : p.ground? = some .select) (foreign : p.readsForeign tag.name = false)
    (manner : p.mannerOn tag .select = some m) : ∃ r, Yields 7 (.startTag tag) b r ∧ Starts p b (p.nameOf tag.name) tag m r := by
  have modes := stands.modes ground
  have current : ∀ test : Name → Bool, b.currentIs test = p.currentIs test := stands.current
  have ruled : ∀ {words : List String}, isOneOf tag.name words = true →
      (∀ w ∈ words, w ∉ ["math"] ∧ w ∉ ["svg"] ∧ w ∉ ["caption","table","tbody","tfoot","thead","tr","td","th"]) →
      Starts p b (htmlName tag.name) tag m (b.inSelect (.startTag tag)) →
      ∃ r, Yields 7 (.startTag tag) b r ∧ Starts p b (p.nameOf tag.name) tag m r := fun word apart starts =>
    stands.startsBy foreign
      (nameOf_of foreign (isOneOf_apart word fun w inside => (apart w inside).1) (isOneOf_apart word fun w inside => (apart w inside).2.1))
      rfl (by rwa [rules_select modes (inSelectInTable_apart word fun w inside => (apart w inside).2.2).1])
  rw [Place.mannerOn,Place.selectManner] at manner
  split at manner
  · rename_i word
    obtain ⟨free,rfl⟩ := barring_iff.mp manner
    refine ruled word (by decide) ?_
    have root : isOneOf tag.name ["html"] = false := isOneOf_apart word (by decide)
    have option : b.currentIsHtml "option" = false := (current _).trans free
    simp only [inSelect,root,word,option,Bool.false_eq_true,if_false,if_true]
    exact stands.startChoice ground (isOneOf_among word (by decide))
  · split at manner
    · rename_i word
      obtain ⟨free,rfl⟩ := barring_iff.mp manner
      refine ruled word (by decide) ?_
      have root : isOneOf tag.name ["html"] = false := isOneOf_apart word (by decide)
      have notOption : isOneOf tag.name ["option"] = false := isOneOf_apart word (by decide)
      obtain ⟨option,group⟩ := stands.noChoice free
      simp only [inSelect,root,notOption,word,option,group,Bool.false_eq_true,if_false,if_true]
      exact stands.startChoice ground (isOneOf_among word (by decide))
    · split at manner
      · rename_i word
        obtain ⟨free,rfl⟩ := barring_iff.mp manner
        refine ruled word (by decide) ?_
        have root : isOneOf tag.name ["html"] = false := isOneOf_apart word (by decide)
        have notOption : isOneOf tag.name ["option"] = false := isOneOf_apart word (by decide)
        have notGroup : isOneOf tag.name ["optgroup"] = false := isOneOf_apart word (by decide)
        have notSelect : isOneOf tag.name ["select"] = false := isOneOf_apart word (by decide)
        have notInput : isOneOf tag.name ["input","keygen","textarea"] = false := isOneOf_apart word (by decide)
        obtain ⟨option,group⟩ := stands.noChoice free
        simp only [inSelect,root,notOption,notGroup,notSelect,notInput,word,option,group,Bool.false_eq_true,if_false,if_true]
        exact stands.insertVoid (plain_of word (by decide)) (b.insertVoid tag).framesetOk
      · split at manner
        · rename_i word
          refine ruled word (by decide) ?_
          have root : isOneOf tag.name ["html"] = false := isOneOf_apart word (by decide)
          have notOption : isOneOf tag.name ["option"] = false := isOneOf_apart word (by decide)
          have notGroup : isOneOf tag.name ["optgroup"] = false := isOneOf_apart word (by decide)
          have notSelect : isOneOf tag.name ["select"] = false := isOneOf_apart word (by decide)
          have notInput : isOneOf tag.name ["input","keygen","textarea"] = false := isOneOf_apart word (by decide)
          have notRule : isOneOf tag.name ["hr"] = false := isOneOf_apart word (by decide)
          simp only [inSelect,root,notOption,notGroup,notSelect,notInput,notRule,word,Bool.false_eq_true,if_false,if_true]
          exact stands.startHead manner
        · cases manner

-- Each start tag begins its element in the manner that its place tells. A template may settle
-- before that, or a frameset be forbidden.
theorem Stands.starts (stands : Stands p b) (goesOn : tag.selfClosing = false) (manner : p.manner tag = some m) :
    ∃ b₀ r, Reads p b b₀ [] ∧ Yields 7 (.startTag tag) b r ∧ Starts p b₀ (p.nameOf tag.name) tag m r := by
  have here : (∃ r, Yields 7 (.startTag tag) b r ∧ Starts p b (p.nameOf tag.name) tag m r) →
      ∃ b₀ r, Reads p b b₀ [] ∧ Yields 7 (.startTag tag) b r ∧ Starts p b₀ (p.nameOf tag.name) tag m r :=
    fun ⟨r,yields,starts⟩ => ⟨b,r,.refl stands,yields,starts⟩
  rw [Place.manner] at manner
  split at manner
  · rename_i foreign
    exact here (stands.startsForeign foreign goesOn manner)
  · rename_i foreign
    have foreign := Bool.eq_false_iff.mpr foreign
    obtain ⟨g,ground,manner⟩ := Option.bind_eq_some_iff.mp manner
    cases g with
    | flow => exact stands.startsFlow ground foreign goesOn manner
    | select => exact here (stands.startsSelect ground foreign manner)
    | table => exact here (stands.startsTable ground foreign manner)
    | rows => exact here (stands.startsRows ground foreign manner)
    | cells => exact here (stands.startsCells ground foreign manner)
    | columns => exact here (stands.startsColumns ground foreign manner)
    | head => exact here (stands.startsHead ground foreign manner)
    | gap => cases manner

end StyleTrim.Html.Builder
