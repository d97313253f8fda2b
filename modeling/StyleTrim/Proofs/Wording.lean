import StyleTrim.Proofs.Feeding
namespace StyleTrim.Html.Builder
open Text
variable {b b' b₀ : Builder} {p q : Place} {n : Name} {t : Token} {r : Ruled} {next : Next} {mode : Mode} {rest value : Text}
  {seams : List Nat} {c : Char} {g : Ground}

-- Text and comments, and the modes of the places where they stand.

theorem isHtml_iff {tag : Text} : n.isHtml tag = true ↔ n = ⟨.html,tag⟩ := by
  obtain ⟨space,name⟩ := n
  simp [Name.isHtml]

theorem currentIs_iff {test : Name → Bool} : p.currentIs test = true ↔ ∃ n outer, p.names = n :: outer ∧ test n = true := by
  rw [Place.currentIs,Place.current?]
  cases p.names <;> simp

-- The modes that come to a ground.
def Ground.has : Ground → Mode → Prop
  | .flow,m => m = .inBody ∨ m = .inCell ∨ m = .inCaption ∨ m = .inTemplate
  | .select,m => m = .inSelect ∨ m = .inSelectInTable
  | .table,m => m = .inTable
  | .rows,m => m = .inTableBody
  | .cells,m => m = .inRow
  | .columns,m => m = .inColumnGroup
  | .head,m => m = .inHead
  | .gap,m => m = .afterHead

theorem modeOf_ground (ground : p.ground? = some g) : Ground.has g (modeOf p.names) := by
  unfold Place.ground? at ground
  split at ground
  · rename_i current
    obtain ⟨n,outer,names,named⟩ := currentIs_iff.mp current
    cases isHtml_iff.mp named
    cases ground
    rw [names]
    rfl
  · split at ground
    · rename_i current
      obtain ⟨⟨space,tag⟩,outer,names,named⟩ := currentIs_iff.mp current
      cases ground
      rw [names]
      simp only [Name.isIn,isOneOf,ofStrings,List.map_cons,List.map_nil,List.contains_eq_mem,List.mem_cons,
        List.not_mem_nil,or_false,Bool.and_eq_true,decide_eq_true_eq] at named
      obtain ⟨rfl,rfl | rfl | rfl⟩ := named <;> rfl
    · split at ground
      · rename_i current
        obtain ⟨n,outer,names,named⟩ := currentIs_iff.mp current
        cases isHtml_iff.mp named
        cases ground
        rw [names]
        rfl
      · split at ground
        · rename_i current
          obtain ⟨n,outer,names,named⟩ := currentIs_iff.mp current
          cases isHtml_iff.mp named
          cases ground
          rw [names]
          rfl
        · split at ground <;> cases ground <;> rename_i mode <;> simp [Ground.has,mode]

-- The mode of a state that stands on a ground is one of those that come to it.
theorem Stands.modes (stands : Stands p b) (ground : p.ground? = some g) : Ground.has g b.mode := by
  have call := modeOf_ground ground
  have mode := stands.mode
  cases g with
  | flow =>
    rcases call with call | call | call | call
    · exact .inl (by rw [mode,call]; rfl)
    · exact .inr (.inl (by rw [mode,call]; rfl))
    · exact .inr (.inr (.inl (by rw [mode,call]; rfl)))
    · rw [call,resolve] at mode
      cases first : b.templateModes.head? with
      | none => exact .inl (by rw [mode,first]; rfl)
      | some m =>
        rw [first,Option.getD_some] at mode
        rcases stands.templates m (List.mem_of_head? first) with rfl | rfl
        · exact .inr (.inr (.inr mode))
        · exact .inl mode
  | select =>
    rcases call with call | call
    · exact .inl (by rw [mode,call]; rfl)
    · exact .inr (by rw [mode,call]; rfl)
  | table | rows | cells | columns | head =>
    rw [show modeOf p.names = _ from call] at mode
    exact mode
  | gap =>
    rw [show modeOf p.names = .afterHead from call,resolve,stands.headed] at mode
    exact mode

def isStale (b : Builder) (f : Formatting) : Bool :=
  match f.node? with
  | some id => !b.opened.contains id
  | none => false

-- No listed formatting element has to be opened again.
theorem Stands.reconstruct (stands : Stands p b) : b.reconstruct = b := by
  have fresh : ∀ f ∈ b.formatting.head?, b.isStale f = false := by
    intro f first
    unfold isStale
    cases node : f.node? with
    | none => rfl
    | some id => simpa using stands.live f (List.mem_of_head? first) id node
  have split : b.formatting.takeWhile b.isStale = [] ∧ b.formatting.dropWhile b.isStale = b.formatting := by
    cases formatting : b.formatting with
    | nil => exact ⟨rfl,rfl⟩
    | cons f more =>
      rw [formatting] at fresh
      simp [fresh f rfl]
  have unfolded : b.reconstruct =
      reopen {b with formatting := b.formatting.dropWhile b.isStale} (b.formatting.takeWhile b.isStale).reverse := rfl
  rw [unfolded,split.1,split.2]
  rfl

-- A state that at most waits for a line feed to be passed over.
def Eager (b b₀ : Builder) : Prop := b = b₀ ∨ b = {b₀ with skipLineFeed := true}

theorem Eager.poised (eager : Eager b b₀) : Poised b b₀ := by
  rcases eager with rfl | rfl
  · exact .ready b
  · exact .skipping b₀

theorem feed_character (eager : Eager b b₀) (skips : b₀.skipLineFeed = false) (follows : b = b₀ ∨ c ≠ '\n')
    (yields : Yields 8 (.character c) b₀ r) : b.feed (.character c) = r := by
  have passed : (b.skipLineFeed && decide (Token.character c = .character '\n')) = false := by
    rcases follows with rfl | other
    · rw [skips]
      rfl
    · simp [other]
  have cleared : {b with skipLineFeed := false} = b₀ := by
    rcases eager with rfl | rfl <;> rw [← skips]
  have same : b.feed (.character c) = process (.character c) (16 + 4 * b.opened.length) b₀ := by
    unfold feed
    simp only [passed,cleared,Bool.false_eq_true,if_false]
  rw [same,show 16 + 4 * b.opened.length = (8 + 4 * b.opened.length) + 8 by omega]
  exact yields _

-- Where words may stand, and for blanks in a head, behind it or between columns, a character is added at once.
def AddsAtOnce (p : Place) (c : Char) : Prop :=
  p.takesWords = true ∨ (p.ground? = some .head ∨ p.ground? = some .columns ∨ p.ground? = some .gap) ∧ isAsciiBlank c = true

theorem rules_columnBlank (b : Builder) (blank : isAsciiBlank c = true) : b.rules (.character c) .inColumnGroup = (b.insertChar c,.done) := by
  show (if isAsciiBlank c then b.insertChar c |>.done else _) = _
  rw [if_pos blank]
  rfl

theorem Stands.character (stands : Stands p b₀) (eager : Eager b b₀) (follows : b = b₀ ∨ c ≠ '\n') (allowed : AddsAtOnce p c) :
    ∃ ok, b.feed (.character c) = (insertChar {b₀ with framesetOk := ok} c,.done) := by
  cases foreign : b₀.isForeign (.character c) with
  | true =>
    have ruled : b₀.foreign (.character c) =
        (insertChar {b₀ with framesetOk := if isAsciiBlank c then b₀.framesetOk else false} c,.done) := by
      rw [Builder.foreign]
      cases isAsciiBlank c <;> rfl
    exact ⟨_,feed_character eager stands.skips follows ((yields_foreign foreign ruled nofun).more (by decide))⟩
  | false =>
    have inBody : b₀.inBody (.character c) =
        (insertChar {b₀ with framesetOk := if isAsciiBlank c then b₀.framesetOk else false} c,.done) := by
      rw [Builder.inBody,stands.reconstruct]
      cases isAsciiBlank c <;> rfl
    have byRules : ∀ b' mode, b₀.mode = mode → b₀.rules (.character c) mode = (b',.done) → b.feed (.character c) = (b',.done) :=
      fun b' mode current ruled =>
        feed_character eager stands.skips follows ((yields_done foreign current ruled).more (by decide))
    rcases allowed with words | ⟨ground,blank⟩
    · rcases Bool.or_eq_true_iff.mp words with flow | select
      · refine ⟨if isAsciiBlank c then b₀.framesetOk else false,?_⟩
        rcases stands.modes (of_decide_eq_true flow) with mode | mode | mode | mode <;> exact byRules _ _ mode inBody
      · refine ⟨b₀.framesetOk,?_⟩
        rcases stands.modes (of_decide_eq_true select) with mode | mode <;> exact byRules _ _ mode rfl
    · rcases ground with head | columns | gap
      · refine ⟨b₀.framesetOk,byRules _ _ (stands.modes head) ?_⟩
        simp only [rules,inHead,blank,if_true]
        rfl
      · exact ⟨b₀.framesetOk,byRules _ _ (stands.modes columns) (rules_columnBlank b₀ blank)⟩
      · refine ⟨b₀.framesetOk,byRules _ _ (stands.modes gap) ?_⟩
        simp only [rules,afterHead,blank,if_true]
        rfl

def Ground.isOfTable (g : Ground) : Prop := g = .table ∨ g = .rows ∨ g = .cells

theorem Stands.tablePart (stands : Stands p b) (ground : p.ground? = some g) (parts : Ground.isOfTable g) :
    b.currentIs Name.isTablePart = true ∧ ∀ t, b.isForeign t = false := by
  have part : p.currentIs Name.isTablePart = true := by
    have among : ∀ n : Name, n.isHtml "table" = true ∨ n.isIn ["tbody","tfoot","thead"] = true ∨ n.isHtml "tr" = true →
        n.isTablePart = true := by
      rintro ⟨space,tag⟩ kind
      rw [Name.isTablePart]
      rcases kind with table | rows | row
      · cases isHtml_iff.mp table
        rfl
      · simp only [Name.isIn,isOneOf,ofStrings,List.map_cons,List.map_nil,List.contains_eq_mem,List.mem_cons,
          List.not_mem_nil,or_false,Bool.and_eq_true,decide_eq_true_eq] at rows
        obtain ⟨rfl,rfl | rfl | rfl⟩ := rows <;> rfl
      · cases isHtml_iff.mp row
        rfl
    have lifted : ∀ test : Name → Bool, (∀ n, test n = true → n.isTablePart = true) → p.currentIs test = true →
        p.currentIs Name.isTablePart = true := by
      intro test leads current
      obtain ⟨n,outer,names,holds⟩ := currentIs_iff.mp current
      exact currentIs_iff.mpr ⟨n,outer,names,leads n holds⟩
    unfold Place.ground? at ground
    split at ground
    · rename_i table
      exact lifted _ (fun n holds => among n (.inl holds)) table
    · split at ground
      · rename_i rows
        exact lifted _ (fun n holds => among n (.inr (.inl holds))) rows
      · split at ground
        · rename_i row
          exact lifted _ (fun n holds => among n (.inr (.inr holds))) row
        · split at ground
          · cases ground
            rcases parts with other | other | other <;> cases other
          · split at ground <;> cases ground <;> rcases parts with other | other | other <;> cases other
  refine ⟨by rw [stands.current,part],fun t => ?_⟩
  obtain ⟨id,n,current,named,foremost,_⟩ := stands.foremost
  obtain ⟨n',outer,names,holds⟩ := currentIs_iff.mp part
  have same : n = n' := by
    rw [Place.current?,names] at foremost
    exact (Option.some.inj foremost).symm
  have space : (b.name id).space = .html := by
    rw [named,same]
    simp only [Name.isTablePart,Name.isIn,Bool.and_eq_true,decide_eq_true_eq] at holds
    exact holds.1
  unfold isForeign
  simp [current,space]

-- A state in which blanks wait for what comes behind them.
def awaiting (b : Builder) (blanks : Text) : Builder :=
  {b with returnMode := b.mode, mode := .inTableText, pendingBackwards := blanks.reverse}

theorem rules_awaiting (b : Builder) (blanks : Text) (c : Char) :
    (b.awaiting blanks).rules (.character c) .inTableText = (b.awaiting (blanks ++ [c]),.done) := by
  rw [rules,inTableText]
  simp [done,awaiting]

theorem feed_awaiting (skips : b.skipLineFeed = false) (plain : ∀ t, b.isForeign t = false) (blanks : Text) (c : Char) :
    (b.awaiting blanks).feed (.character c) = (b.awaiting (blanks ++ [c]),.done) := by
  have yields : Yields 1 (.character c) (b.awaiting blanks) (b.awaiting (blanks ++ [c]),.done) :=
    yields_done (plain (.character c)) rfl (rules_awaiting b blanks c)
  exact feed_character (.inl rfl) skips (.inl rfl) (yields.more (by decide))

theorem Stands.blank (stands : Stands p b₀) (eager : Eager b b₀) (follows : b = b₀ ∨ c ≠ '\n') (ground : p.ground? = some g)
    (parts : Ground.isOfTable g) : b.feed (.character c) = (b₀.awaiting [c],.done) := by
  obtain ⟨part,plain⟩ := stands.tablePart ground parts
  have text : b₀.tableText (.character c) = ({b₀ with returnMode := b₀.mode},.again .inTableText) := by
    rw [tableText,part]
    rfl
  have start : ({b₀ with returnMode := b₀.mode} : Builder).enter .inTableText = b₀.awaiting [] := by
    rw [awaiting,List.reverse_nil,← stands.pending]
    rfl
  have next : Yields 1 (.character c) (({b₀ with returnMode := b₀.mode} : Builder).enter .inTableText) (b₀.awaiting [c],.done) := by
    rw [start]
    exact yields_done (plain (.character c)) rfl (rules_awaiting b₀ [] c)
  refine feed_character eager stands.skips follows (Yields.more (k := 2) ?_ (by decide))
  rcases parts with rfl | rfl | rfl
  all_goals exact yields_again (plain _) (stands.modes ground) text next

-- A character as the printer writes it.
def writtenChar (raw : Bool) (c : Char) : Text := if raw then [c] else Dom.escapedTextChar c

theorem markup_text (raw : Bool) (value : Text) : (Figure.text value).markup raw = value.flatMap (writtenChar raw) := by
  cases raw with
  | true => exact (List.flatMap_singleton' value).symm
  | false => rfl

-- A character that is read again as it is written.
def IsMild (raw : Bool) (c : Char) : Prop := c ≠ '\x00' ∧ (raw = true → c ≠ '<' ∧ c ≠ '&')

theorem run_writtenChar {raw : Bool} (mild : IsMild raw c) (fed : b.feed (.character c) = (b',next))
    (noMark : Delivery.byteOrderMark ∉ rest) : run seams b (writtenChar raw c ++ rest) = run seams b' rest := by
  cases raw with
  | true => exact run_token (Scan.tokens_plain (mild.2 rfl).1 (mild.2 rfl).2 mild.1) nofun fed noMark
  | false => exact run_character mild.1 fed noMark

theorem planted_text {cells cells' : Array Cell} {host id : Nat} (planted : Planted cells cells' host id (.text value.reverse)) :
    Sprouts cells cells' host [.text value] :=
  planted.sprouts (.text planted.fresh planted.new)

-- Words are added one character after the other, whatever becomes of the right to a frameset.
theorem run_words {raw : Bool} {ok : Bool} {cells : Array Cell} (front : Text) (stands : Stands p b)
    (planted : Planted b.cells cells b.site b.cells.size (.text front.reverse)) (mild : ∀ c ∈ value, IsMild raw c)
    (allowed : ∀ c ∈ value, AddsAtOnce p c) (noMark : Delivery.byteOrderMark ∉ value.flatMap (writtenChar raw) ++ rest) :
    ∃ cells' ok', run seams {b with cells := cells, framesetOk := ok} (value.flatMap (writtenChar raw) ++ rest) =
      run seams {b with cells := cells', framesetOk := ok'} rest ∧
      Planted b.cells cells' b.site b.cells.size (.text (front ++ value).reverse) := by
  induction value generalizing cells ok front with
  | nil => exact ⟨cells,ok,rfl,by rwa [List.append_nil]⟩
  | cons c value ih =>
    have read : ∀ ok, Reads p b {b with cells := cells, framesetOk := ok} [.text front] :=
      fun ok => stands.grow (planted_text planted) rfl
    obtain ⟨ok',fed⟩ := (read ok).stands.character (.inl rfl) (.inl rfl) (allowed c List.mem_cons_self)
    have site : Builder.site {b with cells := cells, framesetOk := ok'} = b.site := stands.site (read ok')
    obtain ⟨cells',inserted,planted'⟩ :=
      insertChar_more (read ok').stands.placed c (by rw [site]; exact planted)
    rw [site] at planted'
    rw [List.flatMap_cons,List.append_assoc] at noMark ⊢
    rw [run_writtenChar (mild c List.mem_cons_self) (fed.trans (congrArg (·,Next.done) inserted)) fun inside =>
      noMark (List.mem_append_right _ inside)]
    obtain ⟨cells'',ok'',goesOn,planted''⟩ := ih (front ++ [c]) (by simpa using planted')
      (fun d inside => mild d (List.mem_cons_of_mem c inside)) (fun d inside => allowed d (List.mem_cons_of_mem c inside))
      fun inside => noMark (List.mem_append_right _ inside)
    exact ⟨cells'',ok'',goesOn,by simpa using planted''⟩

theorem run_awaiting {raw : Bool} (skips : b.skipLineFeed = false) (plain : ∀ t, b.isForeign t = false) (front : Text)
    (mild : ∀ c ∈ value, IsMild raw c) (noMark : Delivery.byteOrderMark ∉ value.flatMap (writtenChar raw) ++ rest) :
    run seams (b.awaiting front) (value.flatMap (writtenChar raw) ++ rest) = run seams (b.awaiting (front ++ value)) rest := by
  induction value generalizing front with
  | nil => rw [List.append_nil]; rfl
  | cons c value ih =>
    rw [List.flatMap_cons,List.append_assoc] at noMark ⊢
    rw [run_writtenChar (mild c List.mem_cons_self) (feed_awaiting skips plain front c) fun inside =>
      noMark (List.mem_append_right _ inside),ih (front ++ [c]) (fun d inside => mild d (List.mem_cons_of_mem c inside))
      fun inside => noMark (List.mem_append_right _ inside),List.append_assoc]
    rfl

theorem run_addedText {raw : Bool} (stands : Stands p b₀) (eager : Eager b b₀) (follows : b = b₀ ∨ value.head? ≠ some '\n')
    (unjoined : Unjoined b₀) (filled : value ≠ []) (mild : ∀ c ∈ value, IsMild raw c) (allowed : ∀ c ∈ value, AddsAtOnce p c)
    (noMark : Delivery.byteOrderMark ∉ value.flatMap (writtenChar raw) ++ rest) :
    ∃ b', run seams b (value.flatMap (writtenChar raw) ++ rest) = run seams b' rest ∧ Reads p b₀ b' [.text value] := by
  obtain ⟨c,value,rfl⟩ := List.exists_cons_of_ne_nil filled
  obtain ⟨ok,fed⟩ := stands.character eager (follows.imp_right fun other same => other (congrArg some same))
    (allowed c List.mem_cons_self)
  obtain ⟨cell,found⟩ := stands.placed.host
  have placed : Placed {b₀ with framesetOk := ok} :=
    ⟨stands.placed.settled,stands.placed.current,stands.placed.old,stands.placed.host⟩
  obtain ⟨cells,inserted,planted⟩ := insertChar_first placed c found (unjoined cell found)
  rw [List.flatMap_cons,List.append_assoc] at noMark ⊢
  rw [run_writtenChar (mild c List.mem_cons_self) (fed.trans (congrArg (·,Next.done) inserted)) fun inside =>
    noMark (List.mem_append_right _ inside)]
  obtain ⟨cells',ok',goesOn,planted'⟩ := run_words [c] stands planted
    (fun d inside => mild d (List.mem_cons_of_mem c inside)) (fun d inside => allowed d (List.mem_cons_of_mem c inside))
    fun inside => noMark (List.mem_append_right _ inside)
  exact ⟨_,goesOn,stands.grow (planted_text planted') rfl⟩

theorem run_heldText {raw : Bool} (stands : Stands p b₀) (eager : Eager b b₀) (follows : b = b₀ ∨ value.head? ≠ some '\n')
    (unjoined : Unjoined b₀) (filled : value ≠ []) (mild : ∀ c ∈ value, IsMild raw c) (ground : p.ground? = some g)
    (parts : Ground.isOfTable g) (blank : value.all isAsciiBlank)
    (noMark : Delivery.byteOrderMark ∉ value.flatMap (writtenChar raw) ++ rest) :
    ∃ b' b₁, run seams b (value.flatMap (writtenChar raw) ++ rest) = run seams b' rest ∧ Poised b' b₁ ∧
      Reads p b₀ b₁ [.text value] := by
  obtain ⟨_,plain⟩ := stands.tablePart ground parts
  have all : run seams b (value.flatMap (writtenChar raw) ++ rest) = run seams (b₀.awaiting value) rest := by
    obtain ⟨c,value,rfl⟩ := List.exists_cons_of_ne_nil filled
    have fed := stands.blank eager (c := c) (follows.imp_right fun other same => other (congrArg some same)) ground parts
    rw [List.flatMap_cons,List.append_assoc] at noMark ⊢
    rw [run_writtenChar (mild c List.mem_cons_self) fed fun inside => noMark (List.mem_append_right _ inside)]
    exact run_awaiting stands.skips plain [c] (fun d inside => mild d (List.mem_cons_of_mem c inside))
      fun inside => noMark (List.mem_append_right _ inside)
  have placed : Placed {b₀.awaiting value with pendingBackwards := []} :=
    ⟨stands.placed.settled,stands.placed.current,stands.placed.old,stands.placed.host⟩
  obtain ⟨cells,inserted,planted⟩ := insertChars_planted placed unjoined filled
  have flushed : (b₀.awaiting value).flush value = {b₀.awaiting value with pendingBackwards := [], cells := cells} := inserted
  refine ⟨_,_,all,.pending _ value rfl rfl blank stands.skips fun t _ => plain t,?_⟩
  rw [flushed]
  have same : ({b₀.awaiting value with pendingBackwards := [], cells := cells} : Builder).enter b₀.mode =
      {b₀ with cells := cells, framesetOk := b₀.framesetOk, returnMode := b₀.mode} := by
    rw [← stands.pending]
    rfl
  exact stands.grow (planted_text planted) same

-- A text that stands where it may stand, behind something else than text.
theorem run_text (stands : Stands p b₀) (eager : Eager b b₀) (follows : b = b₀ ∨ value.head? ≠ some '\n')
    (unjoined : Unjoined b₀) (taken : p.takesText value = true)
    (noMark : Delivery.byteOrderMark ∉ (Figure.text value).markup p.isRaw ++ rest) :
    ∃ b' b₁, run seams b ((Figure.text value).markup p.isRaw ++ rest) = run seams b' rest ∧ Poised b' b₁ ∧
      Reads p b₀ b₁ [.text value] := by
  simp only [Place.takesText,Bool.and_eq_true,Bool.or_eq_true,Bool.not_eq_true',List.isEmpty_eq_false_iff,List.all_eq_true,
    decide_eq_true_eq] at taken
  obtain ⟨⟨⟨filled,noNull⟩,allowed⟩,raws⟩ := taken
  have mild : ∀ c ∈ value, IsMild p.isRaw c := by
    intro c inside
    refine ⟨?_,fun raw => ?_⟩
    · simpa using List.all_eq_true.mp noNull c inside
    · rcases raws with other | all
      · rw [raw] at other
        cases other
      · exact all c inside
  rw [markup_text] at noMark ⊢
  have ways : (∀ c ∈ value, AddsAtOnce p c) ∨
      ∃ g, p.ground? = some g ∧ Ground.isOfTable g ∧ ∀ c ∈ value, isAsciiBlank c = true := by
    rcases allowed with words | ⟨some,blank⟩
    · exact .inl fun c _ => .inl words
    · obtain ⟨g,ground⟩ := Option.isSome_iff_exists.mp some
      cases g with
      | flow | select => exact .inl fun c _ => .inl (by simp [Place.takesWords,ground])
      | head => exact .inl fun c inside => .inr ⟨.inl ground,blank c inside⟩
      | columns => exact .inl fun c inside => .inr ⟨.inr (.inl ground),blank c inside⟩
      | gap => exact .inl fun c inside => .inr ⟨.inr (.inr ground),blank c inside⟩
      | table => exact .inr ⟨_,ground,.inl rfl,blank⟩
      | rows => exact .inr ⟨_,ground,.inr (.inl rfl),blank⟩
      | cells => exact .inr ⟨_,ground,.inr (.inr rfl),blank⟩
  rcases ways with atOnce | ⟨g,ground,parts,blank⟩
  · obtain ⟨b',read,reads⟩ := run_addedText stands eager follows unjoined filled mild atOnce noMark
    exact ⟨b',b',read,.ready b',reads⟩
  · exact run_heldText stands eager follows unjoined filled mild ground parts (List.all_eq_true.mpr blank) noMark

end StyleTrim.Html.Builder
