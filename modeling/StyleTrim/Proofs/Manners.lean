import StyleTrim.Proofs.Opening
namespace StyleTrim.Html.Builder
open Text
variable {b b' b₀ : Builder} {p q : Place} {tag : Tag} {r : Ruled} {m : Manner} {t : Text} {words others : List String} {k : Kind}

-- Each start tag begins its element in the manner its place tells.

theorem isOneOf_apart (inside : isOneOf t words = true) (apart : ∀ w ∈ words, w ∉ others) : isOneOf t others = false := by
  rw [isOneOf,List.contains_eq_mem,decide_eq_true_eq] at inside
  rw [isOneOf,List.contains_eq_mem,decide_eq_false_iff_not]
  intro both
  obtain ⟨w,listed,rfl⟩ := List.mem_map.mp inside
  obtain ⟨v,other,same⟩ := List.mem_map.mp both
  rw [String.toList_inj.mp same] at other
  exact apart w listed other

theorem isOneOf_among (inside : isOneOf t words = true) (known : words ⊆ others) : isOneOf t others = true := by
  rw [isOneOf,List.contains_iff_mem] at inside ⊢
  exact List.map_subset _ known inside

theorem htmlName_isIn (t : Text) (words : List String) : (htmlName t).isIn words = isOneOf t words := by
  simp [Name.isIn,htmlName]

theorem plain_of (inside : isOneOf t words = true) (apart : ∀ w ∈ words, w ∉ ["template"]) :
    (htmlName t).isHtml "template" = false := by
  rw [isHtml_isIn,htmlName_isIn,isOneOf_apart inside apart]

theorem nameOf_of (foreign : p.readsForeign t = false) (math : isOneOf t ["math"] = false) (svg : isOneOf t ["svg"] = false) :
    p.nameOf t = htmlName t := by
  rw [Place.nameOf,foreign,math,svg]
  rfl

theorem Stands.startHead (stands : Stands p b) (manner : p.headManner tag = some m) :
    Starts p b (htmlName tag.name) tag m (b.headStart tag) := by
  unfold Place.headManner at manner
  unfold headStart
  split at manner
  · rename_i word
    cases manner
    rw [if_pos word]
    exact stands.insertVoid (plain_of word (by decide)) (b.insertVoid tag).framesetOk
  · rename_i notVoid
    rw [if_neg notVoid]
    split at manner
    · rename_i word
      cases manner
      rw [if_pos word]
      exact stands.insertText (plain_of word (by decide))
    · rename_i notTitle
      rw [if_neg notTitle]
      split at manner
      · rename_i word
        cases manner
        rw [if_pos word]
        exact stands.insertText (plain_of word (by decide))
      · rename_i notPlain
        rw [if_neg notPlain]
        split at manner
        · rename_i word
          cases manner
          rw [if_pos word]
          exact stands.insertText (plain_of word (by decide))
        · rename_i notScript
          split at manner
          · rename_i word
            split at manner
            · cases manner
            · rename_i unshadowed
              cases manner
              have starts := stands.startTemplate (by rw [isHtml_isIn,htmlName_isIn,word])
                (Bool.eq_false_iff.mpr unshadowed)
              unfold headStart at starts
              rwa [if_neg notVoid,if_neg notTitle,if_neg notPlain] at starts
          · cases manner

theorem Stands.closeParagraph (stands : Stands p b) (none : p.hasParagraph = false) : b.closeParagraph = b := by
  rw [Builder.closeParagraph,inScope_names,stands.names,if_neg (by rw [Bool.not_eq_true]; exact none)]

theorem Stands.reaches (stands : Stands p b) (t : Text) : b.inScope Name.limitsScope t = p.reaches t := by
  rw [inScope_names,stands.names]
  rfl

theorem Stands.closeItem {items : List String} (stands : Stands p b) (none : p.endsNone items = true) : b.closeItem items = b := by
  have found : (p.names.find? fun n => n.isIn items || (n.isSpecial && !n.isIn ["address","div","p"])) =
      (b.opened.find? fun id => (b.name id).isIn items || ((b.name id).isSpecial && !(b.name id).isIn ["address","div","p"])).map
        b.name := by
    rw [← stands.names,List.find?_map]
    rfl
  rw [Place.endsNone,found] at none
  rw [Builder.closeItem]
  cases stop : b.opened.find? fun id => (b.name id).isIn items || ((b.name id).isSpecial && !(b.name id).isIn ["address","div","p"]) with
  | none => rfl
  | some id =>
    rw [stop] at none
    have other : (b.name id).isIn items = false := by simpa using none
    simp only [other,Bool.false_eq_true,if_false]

theorem Stands.closeLink (stands : Stands p b) (free : p.names.any (Name.isHtml "a") = false) : b.closeLink = b := by
  have missing : (b.entriesToMarker.find? fun f => f.node?.any (b.isHtml "a")) = none := by
    rw [List.find?_eq_none]
    intro f inside
    cases node : f.node? with
    | none => simp
    | some id =>
      have isOpen := stands.live f ((List.takeWhile_sublist _).subset inside) id node
      rw [← stands.names,List.any_map,List.any_eq_false] at free
      exact free id isOpen
  rw [Builder.closeLink,missing]
  rfl

-- A ruby text closes nothing before it.
theorem Stands.rubyText {except : Text} (stands : Stands p b) (standsOpen : p.standsOpen except = true) :
    b.rubyText tag except = (b.insert tag,.done) := by
  rw [Place.standsOpen,Bool.or_eq_true,Bool.not_eq_true'] at standsOpen
  rw [Builder.rubyText,stands.reaches]
  cases ruby : p.reaches "ruby" with
  | false => rfl
  | true =>
    obtain ⟨id,outer,opened,names⟩ := stands.opened
    have current : (p.currentIs fun n => n.isIn Name.impliedEnds && !n.isHtml except) = false := by
      rcases standsOpen with none | stays
      · rw [ruby] at none
        cases none
      · simpa using stays
    rw [Place.currentIs,Place.current?,names] at current
    rw [if_pos rfl,Tops.closeImplied ⟨opened,rfl⟩ current]
    rfl

theorem Stands.blockFrameset (stands : Stands p b) : Reads p b b.blockFrameset [] := by
  obtain ⟨cell,found⟩ := stands.placed.host
  exact stands.grow (.refl found) rfl

-- The rule of the body for a start tag of a kind.
def startOf (b : Builder) (tag : Tag) : Kind → Ruled
  | .html => b.htmlAgain tag
  | .head => b.headStart tag
  | .body =>
    match b.body? with
    | some id => if b.inTemplate then b.done else (b.blockFrameset.addMissing id tag.attributes).done
    | none => b.done
  | .frameset =>
    match b.body? with
    | some id =>
      if b.framesetOk then
        let b := b.detach id
        (({b with opened := b.opened.drop (b.opened.length - 1)}.insert tag).enter .inFrameset).done
      else b.done
    | none => b.done
  | .block => (b.closeParagraph.insert tag).done
  | .heading =>
    let b := b.closeParagraph
    ((if b.currentIs (Name.isIn Name.headings) then b.pop else b).insert tag).done
  | .preformatted => done {(b.closeParagraph.insert tag).blockFrameset with skipLineFeed := true}
  | .form =>
    if b.form.isSome && !b.inTemplate then b.done
    else
      let (b,id) := b.closeParagraph.insertFor tag
      done (if b.inTemplate then b else {b with form := some id})
  | .item => ((b.blockFrameset.closeItem ["li"]).closeParagraph.insert tag).done
  | .term => ((b.blockFrameset.closeItem ["dd","dt"]).closeParagraph.insert tag).done
  | .plaintext => (b.closeParagraph.insert tag,.plaintext)
  | .button =>
    let b := if b.inScope Name.limitsScope "button" then b.popThroughHtml "button" else b
    (b.reconstruct.insert tag).blockFrameset.done
  | .link => (b.closeLink.reconstruct.insertFormatting tag).done
  | .formatting => (b.reconstruct.insertFormatting tag).done
  | .unbroken =>
    let b := b.reconstruct
    let b := if b.inScope Name.limitsScope "nobr" then (b.adopt "nobr").reconstruct else b
    (b.insertFormatting tag).done
  | .object => (b.reconstruct.insert tag).mark.blockFrameset.done
  | .table => ((((if b.legacy then b else b.closeParagraph).insert tag).blockFrameset).enter .inTable).done
  | .void => (b.voidElement tag).blockFrameset.done
  | .input =>
    let b := b.voidElement tag
    done (if isHidden tag then b else b.blockFrameset)
  | .source => (b.insertVoid tag).done
  | .rule => (b.closeParagraph.insertVoid tag).blockFrameset.done
  | .image => (b.voidElement {tag with name := "img"}).blockFrameset.done
  | .textarea => {b.blockFrameset with skipLineFeed := true}.insertRaw tag .referred
  | .verbatim => b.closeParagraph.reconstruct.blockFrameset.insertRaw tag .plain
  | .frame => b.blockFrameset.insertRaw tag .plain
  | .fallback => b.insertRaw tag .plain
  | .select => ((b.reconstruct.insert tag).blockFrameset.enter (selectMode b.mode)).done
  | .option => ((if b.currentIsHtml "option" then b.pop else b).reconstruct.insert tag).done
  | .ruby => b.rubyText tag []
  | .rubyText => b.rubyText tag "rtc"
  | .math => b.foreignElement .mathml tag.name tag
  | .svg => b.foreignElement .svg tag.name tag
  | .part => b.done
  | .other => (b.reconstruct.insert tag).done

theorem bodyStart_kind (b : Builder) (tag : Tag) : b.bodyStart tag = b.startOf tag (Kind.of tag.name) := by
  rw [Kind.of,classOf_fold (b.startOf tag)]
  rfl

theorem Stands.startPops (stands : Stands p b) (settled : b.mode ≠ .inTemplate) (ground : p.ground? = some .flow)
    (pops : (Kind.of tag.name).pops = true) (ok : Bool) :
    Starts p b (htmlName tag.name) tag (p.html tag) ({b.insert tag with framesetOk := ok},.done) := by
  have plain : (htmlName tag.name).isHtml "template" = false := by
    have inert : (Kind.of tag.name).setsMode = false := by
      cases kind : Kind.of tag.name <;> rw [kind] at pops <;> first | rfl | cases pops
    rw [isHtml_isIn,Stays.not_modal (.inr inert) (by decide)]
  have same : ({b.insert tag with framesetOk := ok} : Builder) = {b.insert tag with framesetOk := ok, skipLineFeed := false} := by
    rw [← (stands.insert_kept plain).1]
  rw [same]
  exact stands.startPlain settled ground pops ok false

theorem nameOf_kind (foreign : p.readsForeign t = false) (math : Kind.of t ≠ .math) (svg : Kind.of t ≠ .svg) :
    p.nameOf t = htmlName t := by
  refine nameOf_of foreign ?_ ?_
  · exact Bool.eq_false_iff.mpr fun inside => math ((Kind.of_iff (by decide)).mpr inside)
  · exact Bool.eq_false_iff.mpr fun inside => svg ((Kind.of_iff (by decide)).mpr inside)

theorem plain_kind (known : Kind.of t ≠ .head) : (htmlName t).isHtml "template" = false := by
  rw [isHtml_isIn,htmlName_isIn]
  exact Kind.apart (q := fun k => k = .head) (by simpa using known) (by decide)

theorem word_of {word : String} (kind : Kind.of t = k) (known : k ≠ .other) (single : k.tags = [word]) : t = word := by
  have inside := Kind.of_mem kind known
  rw [single] at inside
  simpa [isOneOf,ofStrings] using inside

theorem Stands.startTable (stands : Stands p b) (kind : Kind.of tag.name = .table) :
    Starts p b (htmlName tag.name) tag (p.html tag) (((b.insert tag).blockFrameset.enter .inTable),.done) := by
  have named : tag.name = "table" := word_of kind (by decide) rfl
  have plain : (htmlName tag.name).isHtml "template" = false := by rw [named]; rfl
  obtain ⟨cells,inserted,planted⟩ := insertFor_planted tag stands.placed plain
  rw [insert,inserted]
  refine stands.startModal [] planted plain (by rw [named]; rfl) (fun _ => rfl) (by decide) (by simp) ?_
  intro b₂ plain tops mode listing names
  rw [named] at plain tops ⊢
  refine ⟨({b₂ with opened := b.opened} : Builder).resetMode,resetMode_names (b := {b₂ with opened := b.opened}) names,?_⟩
  rw [show b.formatting = b₂.formatting from listing.symm]
  refine yields_done plain mode ?_
  have word : isOneOf "table" ["table"] = true := by simp [isOneOf,ofStrings]
  simp only [rules,inTable,word,tops.inScope,tops.popThroughHtml,if_true,enter,done]

-- Where ordinary content stands the mode is that of the open elements, once that of a template is settled.
theorem Stands.flowMode (stands : Stands p b) (settled : b.mode ≠ .inTemplate) (ground : p.ground? = some .flow) :
    b.mode = modeOf p.names ∨ modeOf p.names = .inTemplate ∧ b.mode = .inBody := by
  have mode := stands.mode
  rcases modeOf_ground ground with call | call | call | call
  · exact .inl (by rw [mode,call]; rfl)
  · exact .inl (by rw [mode,call]; rfl)
  · exact .inl (by rw [mode,call]; rfl)
  · refine .inr ⟨call,?_⟩
    rw [call,resolve] at mode
    cases first : b.templateModes.head? with
    | none => rw [mode,first]; rfl
    | some m =>
      rw [first,Option.getD_some] at mode
      rcases stands.templates m (List.mem_of_head? first) with rfl | rfl
      · exact absurd mode settled
      · exact mode

theorem rules_select {t : Token} (mode : b.mode = .inSelect ∨ b.mode = .inSelectInTable)
    (inner : b.inSelectInTable t = b.inSelect t) : b.rules t b.mode = b.inSelect t := by
  rcases mode with mode | mode
  · rw [mode]
    rfl
  · rw [mode]
    exact inner

theorem Stands.startSelect (stands : Stands p b) (ground : p.ground? = some .flow) (kind : Kind.of tag.name = .select)
    (settled : b.mode ≠ .inTemplate) (call : modeOf (htmlName tag.name :: p.names) = selectMode (modeOf p.names)) :
    Starts p b (htmlName tag.name) tag (p.html tag) (((b.insert tag).blockFrameset.enter (selectMode b.mode)),.done) := by
  have named : tag.name = "select" := word_of kind (by decide) rfl
  have plain : (htmlName tag.name).isHtml "template" = false := by rw [named]; rfl
  have same : selectMode (modeOf p.names) = selectMode b.mode := by
    rcases stands.flowMode settled ground with same | ⟨template,body⟩
    · rw [same]
    · rw [template,body]
      rfl
  have kinds : selectMode b.mode = .inSelect ∨ selectMode b.mode = .inSelectInTable := by
    unfold selectMode
    split
    · exact .inr rfl
    · exact .inl rfl
  obtain ⟨cells,inserted,planted⟩ := insertFor_planted tag stands.placed plain
  rw [insert,inserted]
  refine stands.startModal [] planted plain (call.trans same)
    (by rcases kinds with kind | kind <;> rw [kind] <;> exact fun _ => rfl)
    (by rcases kinds with kind | kind <;> rw [kind] <;> decide) (by simp) ?_
  intro b₂ plain tops mode listing names
  rw [named] at plain tops ⊢
  refine ⟨({b₂ with opened := b.opened} : Builder).resetMode,resetMode_names (b := {b₂ with opened := b.opened}) names,?_⟩
  rw [show b.formatting = b₂.formatting from listing.symm]
  refine yields_done plain rfl ?_
  have parts : isOneOf "select" ["caption","table","tbody","tfoot","thead","tr","td","th"] = false := by
    simp [isOneOf,ofStrings]
  have group : isOneOf "select" ["optgroup"] = false := by simp [isOneOf,ofStrings]
  have option : isOneOf "select" ["option"] = false := by simp [isOneOf,ofStrings]
  have word : isOneOf "select" ["select"] = true := by simp [isOneOf,ofStrings]
  rw [rules_select (by rw [mode]; exact kinds) (by simp only [inSelectInTable,parts,Bool.false_eq_true,if_false])]
  simp only [inSelect,group,option,word,tops.inScope,tops.popThroughHtml,Bool.false_eq_true,if_false,if_true,enter,done]

-- Some elements forbid a frameset before they are put, and the others after.
theorem Stands.flowPops (stands : Stands p b) (tag : Tag) (m : Manner) (settled : b.mode ≠ .inTemplate) (ground : p.ground? = some .flow)
    (pops : (Kind.of tag.name).pops = true) (manner : p.flowManner tag = some m) :
    ∃ b₀, Reads p b b₀ [] ∧ Starts p b₀ (htmlName tag.name) tag m (b.startOf tag (Kind.of tag.name)) := by
  have blocked := stands.blockFrameset
  have here : ∀ {m : Manner} {r : Ruled}, Starts p b (htmlName tag.name) tag m r →
      ∃ b₀, Reads p b b₀ [] ∧ Starts p b₀ (htmlName tag.name) tag m r := fun starts => ⟨b,.refl stands,starts⟩
  have kept := stands.startPops settled ground pops (b.insert tag).framesetOk
  rw [Place.flowManner] at manner
  cases kind : Kind.of tag.name with
  | block =>
    rw [kind] at manner
    obtain ⟨free,rfl⟩ := barring_iff.mp manner
    rw [startOf,stands.closeParagraph free]
    exact here kept
  | heading =>
    rw [kind] at manner
    obtain ⟨free,rfl⟩ := barring_iff.mp manner
    obtain ⟨free,other⟩ := Bool.or_eq_false_iff.mp free
    rw [startOf,stands.closeParagraph free]
    simp only [stands.current,other,Bool.false_eq_true,if_false]
    exact here kept
  | preformatted =>
    rw [kind] at manner
    obtain ⟨free,rfl⟩ := barring_iff.mp manner
    rw [startOf,stands.closeParagraph free]
    exact here (stands.startPlain settled ground pops false true)
  | item | term =>
    rw [kind] at manner
    obtain ⟨free,rfl⟩ := barring_iff.mp manner
    obtain ⟨free,ends⟩ := Bool.or_eq_false_iff.mp free
    refine ⟨_,blocked,?_⟩
    rw [startOf,blocked.stands.closeItem (by simpa using ends),blocked.stands.closeParagraph free]
    exact blocked.stands.startPops settled ground pops (b.blockFrameset.insert tag).framesetOk
  | button =>
    rw [kind] at manner
    obtain ⟨free,rfl⟩ := barring_iff.mp manner
    rw [startOf,stands.reaches,free]
    simp only [Bool.false_eq_true,if_false,stands.reconstruct]
    exact here (stands.startPops settled ground pops false)
  | option =>
    rw [kind] at manner
    obtain ⟨free,rfl⟩ := barring_iff.mp manner
    rw [startOf,currentIsHtml,stands.current,free]
    simp only [Bool.false_eq_true,if_false,stands.reconstruct]
    exact here kept
  | ruby | rubyText =>
    rw [kind] at manner
    obtain ⟨free,rfl⟩ := barring_iff.mp manner
    rw [startOf,stands.rubyText (by simpa using free)]
    exact here kept
  | other =>
    rw [kind] at manner
    cases manner
    rw [startOf,stands.reconstruct]
    exact here kept
  | _ =>
    rw [kind] at pops
    cases pops

theorem Stands.flowListed (stands : Stands p b) (tag : Tag) (m : Manner) (settled : b.mode ≠ .inTemplate) (ground : p.ground? = some .flow)
    (formats : (Kind.of tag.name).formats = true) (manner : p.flowManner tag = some m) :
    Starts p b (htmlName tag.name) tag m (b.startOf tag (Kind.of tag.name)) := by
  rw [Place.flowManner] at manner
  cases kind : Kind.of tag.name with
  | link =>
    rw [kind] at manner
    obtain ⟨free,rfl⟩ := barring_iff.mp manner
    obtain ⟨free,uncrowded⟩ := Bool.or_eq_false_iff.mp free
    rw [startOf,stands.closeLink free,stands.reconstruct]
    exact stands.startListed settled ground formats uncrowded
  | formatting =>
    rw [kind] at manner
    obtain ⟨uncrowded,rfl⟩ := barring_iff.mp manner
    rw [startOf,stands.reconstruct]
    exact stands.startListed settled ground formats uncrowded
  | unbroken =>
    rw [kind] at manner
    obtain ⟨free,rfl⟩ := barring_iff.mp manner
    obtain ⟨free,uncrowded⟩ := Bool.or_eq_false_iff.mp free
    rw [startOf,stands.reconstruct]
    simp only [stands.reaches,free,Bool.false_eq_true,if_false]
    exact stands.startListed settled ground formats uncrowded
  | _ =>
    rw [kind] at formats
    cases formats

-- Elements that hold nothing, or whose text is no markup.
theorem Stands.flowInert (stands : Stands p b) (tag : Tag) (m : Manner) (manner : p.flowManner tag = some m)
    (inert : Kind.of tag.name ∈ [Kind.void,.input,.source,.rule,.textarea,.verbatim,.frame,.fallback]) :
    ∃ b₀, Reads p b b₀ [] ∧ Starts p b₀ (htmlName tag.name) tag m (b.startOf tag (Kind.of tag.name)) := by
  have plain : (htmlName tag.name).isHtml "template" = false := by
    refine plain_kind fun kind => ?_
    rw [kind] at inert
    exact absurd inert (by decide)
  have blocked := stands.blockFrameset
  have here : ∀ {m : Manner} {r : Ruled}, Starts p b (htmlName tag.name) tag m r →
      ∃ b₀, Reads p b b₀ [] ∧ Starts p b₀ (htmlName tag.name) tag m r := fun starts => ⟨b,.refl stands,starts⟩
  have kept := stands.insertVoid plain (b.insertVoid tag).framesetOk
  rw [Place.flowManner] at manner
  cases kind : Kind.of tag.name with
  | void =>
    rw [kind] at manner
    cases manner
    rw [startOf,voidElement,stands.reconstruct]
    exact here (stands.insertVoid plain false)
  | input =>
    rw [kind] at manner
    cases manner
    rw [startOf,voidElement,stands.reconstruct]
    cases hidden : isHidden tag with
    | true => exact here kept
    | false => exact here (stands.insertVoid plain false)
  | source =>
    rw [kind] at manner
    cases manner
    exact here kept
  | rule =>
    rw [kind] at manner
    obtain ⟨free,rfl⟩ := barring_iff.mp manner
    rw [startOf,stands.closeParagraph free]
    exact here (stands.insertVoid plain false)
  | textarea =>
    rw [kind] at manner
    cases manner
    exact here (stands.insertRaw _ plain false true)
  | verbatim =>
    rw [kind] at manner
    obtain ⟨free,rfl⟩ := barring_iff.mp manner
    rw [startOf,stands.closeParagraph free,stands.reconstruct]
    exact ⟨_,blocked,blocked.stands.insertText plain⟩
  | frame =>
    rw [kind] at manner
    cases manner
    exact ⟨_,blocked,blocked.stands.insertText plain⟩
  | fallback =>
    rw [kind] at manner
    cases manner
    exact here (stands.insertText plain)
  | _ =>
    rw [kind] at inert
    exact absurd inert (by decide)

theorem Stands.flowForeign (stands : Stands p b) (settled : b.mode ≠ .inTemplate) (foreign : p.readsForeign tag.name = false)
    (goesOn : tag.selfClosing = false) (inside : Kind.of tag.name = .math ∨ Kind.of tag.name = .svg)
    (manner : p.flowManner tag = some m) :
    Starts p b (p.nameOf tag.name) tag m (b.startOf tag (Kind.of tag.name)) := by
  rw [Place.flowManner] at manner
  rcases inside with kind | kind
  · have named : tag.name = "math" := word_of kind (by decide) rfl
    have name : p.nameOf tag.name = ⟨.mathml,tag.name⟩ := by
      rw [Place.nameOf,foreign,named]
      rfl
    rw [kind] at manner ⊢
    cases manner
    rw [name]
    exact stands.startForeign settled (fun html => by cases html) (fun _ => by rw [named]; rfl) (by rw [named]; rfl) (by rw [named]; rfl) goesOn
  · have named : tag.name = "svg" := word_of kind (by decide) rfl
    have name : p.nameOf tag.name = ⟨.svg,tag.name⟩ := by
      rw [Place.nameOf,foreign,named]
      rfl
    rw [kind] at manner ⊢
    cases manner
    rw [name]
    exact stands.startForeign settled (fun html => by cases html) (fun math => by cases math) (by rw [named]; rfl) (by rw [named]; rfl) goesOn

-- How ordinary elements begin.
theorem Stands.startFlow (stands : Stands p b) (settled : b.mode ≠ .inTemplate) (ground : p.ground? = some .flow)
    (foreign : p.readsForeign tag.name = false) (goesOn : tag.selfClosing = false) (known : Kind.of tag.name ≠ .head)
    (manner : p.flowManner tag = some m) :
    ∃ b₀, Reads p b b₀ [] ∧ Starts p b₀ (p.nameOf tag.name) tag m (b.startOf tag (Kind.of tag.name)) := by
  by_cases inside : Kind.of tag.name = .math ∨ Kind.of tag.name = .svg
  · exact ⟨b,.refl stands,stands.flowForeign settled foreign goesOn inside manner⟩
  obtain ⟨math,svg⟩ := not_or.mp inside
  rw [nameOf_kind foreign math svg]
  have pops := stands.flowPops tag m settled ground
  have listed := stands.flowListed tag m settled ground
  have inert := stands.flowInert tag m
  rw [Place.flowManner] at pops listed inert manner
  cases kind : Kind.of tag.name with
  | head | math | svg => exact absurd kind ‹_›
  | html | body | frameset | plaintext | image | part =>
    rw [kind] at manner
    cases manner
  | block | heading | preformatted | item | term | button | option | ruby | rubyText | other =>
    rw [kind] at pops manner
    exact pops rfl manner
  | link | formatting | unbroken =>
    rw [kind] at listed manner
    exact ⟨b,.refl stands,listed rfl manner⟩
  | void | input | source | rule | textarea | verbatim | frame | fallback =>
    rw [kind] at inert manner
    exact inert manner (by decide)
  | form =>
    rw [kind] at manner
    obtain ⟨free,rfl⟩ := barring_iff.mp manner
    obtain ⟨none,free⟩ := Bool.or_eq_false_iff.mp free
    rw [startOf,stands.form,stands.inTemplate,none,stands.closeParagraph free]
    exact ⟨b,.refl stands,stands.startForm settled ground kind none⟩
  | object =>
    rw [kind] at manner
    cases manner
    rw [startOf,stands.reconstruct]
    exact ⟨b,.refl stands,stands.startObject settled ground kind⟩
  | table =>
    rw [kind] at manner
    obtain ⟨free,rfl⟩ := barring_iff.mp manner
    rw [startOf,stands.closeParagraph free,ite_self]
    exact ⟨b,.refl stands,stands.startTable kind⟩
  | select =>
    rw [kind] at manner
    obtain ⟨call,rfl⟩ := barring_iff.mp manner
    rw [startOf,stands.reconstruct]
    exact ⟨b,.refl stands,stands.startSelect ground kind settled (Decidable.of_not_not (of_decide_eq_false call))⟩

end StyleTrim.Html.Builder
