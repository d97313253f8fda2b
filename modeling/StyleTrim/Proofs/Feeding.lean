import StyleTrim.Proofs.Standing
namespace StyleTrim.Html.Builder
open Text
variable {b b' b₀ : Builder} {p q : Place} {n : Name} {t : Token} {r : Ruled} {next : Next} {mode : Mode} {rest : Text}
  {seams : List Nat}

-- What a token does at a place, and how the reader goes on with the text behind it.

theorem Stands.opened (stands : Stands p b) : ∃ id outer, b.opened = id :: outer ∧ p.names = b.name id :: outer.map b.name := by
  obtain ⟨id,outer,opened⟩ := List.exists_cons_of_ne_nil stands.placed.current
  refine ⟨id,outer,opened,?_⟩
  rw [← stands.names,opened]
  rfl

theorem Stands.current (stands : Stands p b) (q : Name → Bool) : b.currentIs q = p.currentIs q := by
  obtain ⟨id,outer,opened,names⟩ := stands.opened
  rw [currentIs,current?,opened,Place.currentIs,Place.current?,names]
  rfl

-- The current element, which is no annotation: those may declare what they hold, and are left out.
theorem Stands.foremost (stands : Stands p b) : ∃ id n, b.current? = some id ∧ b.name id = n ∧ p.current? = some n ∧
    (n.space = .mathml && n.tag == ("annotation-xml" : Text)) = false := by
  obtain ⟨id,outer,opened,names⟩ := stands.opened
  refine ⟨id,b.name id,by rw [current?,opened]; rfl,rfl,by rw [Place.current?,names]; rfl,?_⟩
  cases math : decide ((b.name id).space = .mathml) with
  | false => rfl
  | true =>
    have other := stands.ordinary (b.name id) (by simp [names]) (of_decide_eq_true math)
    simpa [isOneOf,ofStrings] using other

theorem Stands.foreignStart (stands : Stands p b) (tag : Tag) : b.isForeign (.startTag tag) = p.readsForeign tag.name := by
  obtain ⟨id,n,current,named,foremost,ordinary⟩ := stands.foremost
  unfold isForeign Place.readsForeign Place.currentIs
  rw [current,foremost]
  simp only [named,ordinary]
  by_cases space : n.space = .html
  · simp [space]
  · cases math : n.isMathText <;> cases host : n.isSvgHost <;> cases glyph : isOneOf tag.name ["mglyph","malignmark"] <;>
      simp [space,math,host,glyph]

theorem Stands.foreignEnd (stands : Stands p b) (tag : Text) : b.isForeign (.endTag tag) = p.currentIs (·.space ≠ .html) := by
  obtain ⟨id,n,current,named,foremost,ordinary⟩ := stands.foremost
  unfold isForeign Place.currentIs
  rw [current,foremost]
  simp only [named,ordinary]
  by_cases space : n.space = .html <;> simp [space]

-- What a token comes to, after so many repetitions at most.
def Yields (k : Nat) (t : Token) (b : Builder) (r : Ruled) : Prop := ∀ fuel, process t (fuel + k) b = r

theorem Yields.more {k l : Nat} (yields : Yields k t b r) (few : k ≤ l) : Yields l t b r := by
  obtain ⟨more,rfl⟩ := Nat.exists_eq_add_of_le few
  intro fuel
  rw [Nat.add_comm k more,← Nat.add_assoc]
  exact yields (fuel + more)

theorem process_last (fuel : Nat) (ruled : (if b.isForeign t then b.foreign t else b.rules t b.mode) = r)
    (ends : ∀ mode, r.2 ≠ .again mode) : process t (fuel + 1) b = r := by
  obtain ⟨b',next⟩ := r
  rw [process,ruled]
  cases next with
  | again mode => exact absurd rfl (ends mode)
  | _ => rfl

theorem yields_rules (plain : b.isForeign t = false) (current : b.mode = mode) (ruled : b.rules t mode = r)
    (ends : ∀ mode, r.2 ≠ .again mode) : Yields 1 t b r := by
  intro fuel
  refine process_last fuel ?_ ends
  rw [plain]
  exact (congrArg (b.rules t) current).trans ruled

theorem yields_done (plain : b.isForeign t = false) (current : b.mode = mode) (ruled : b.rules t mode = (b',.done)) :
    Yields 1 t b (b',.done) :=
  yields_rules plain current ruled fun _ again => by cases again

theorem yields_again {k : Nat} {again : Mode} (plain : b.isForeign t = false) (current : b.mode = mode)
    (ruled : b.rules t mode = (b',.again again)) (next : Yields k t (b'.enter again) r) : Yields (k + 1) t b r := by
  intro fuel
  have step : (if b.isForeign t then b.foreign t else b.rules t b.mode) = (b',.again again) := by
    rw [plain]
    exact (congrArg (b.rules t) current).trans ruled
  rw [← Nat.add_assoc,process,step]
  exact next fuel

theorem yields_foreign (foreign : b.isForeign t = true) (ruled : b.foreign t = r) (ends : ∀ mode, r.2 ≠ .again mode) :
    Yields 1 t b r := by
  intro fuel
  refine process_last fuel ?_ ends
  rw [foreign]
  exact ruled

-- Tokens that are markup, apart from document types.
def isMark : Token → Bool
  | .startTag _ | .endTag _ | .comment _ => true
  | _ => false

-- Blanks between the parts of a table, put where they were found.
def flush (b : Builder) (blanks : Text) : Builder := blanks.foldl insertChar {b with pendingBackwards := []}

-- A state before the next token has undone what is left over from the last one: the wait for a
-- line feed, or blanks between the parts of a table.
inductive Poised : Builder → Builder → Prop
  | ready (b : Builder) : Poised b b
  | skipping (b : Builder) : Poised {b with skipLineFeed := true} b
  | pending (b : Builder) (blanks : Text) : b.mode = .inTableText → b.pendingBackwards = blanks.reverse → blanks.all isAsciiBlank →
      b.skipLineFeed = false → (∀ t, isMark t → b.isForeign t = false) →
      Poised b ((b.flush blanks).enter (b.flush blanks).returnMode)

theorem feed_mark (mark : isMark t) : b.feed t = process t (16 + 4 * b.opened.length) {b with skipLineFeed := false} := by
  cases t with
  | startTag | endTag | comment => simp [feed]
  | _ => cases mark

theorem feed_yields (mark : isMark t) (yields : Yields 8 t {b with skipLineFeed := false} r) : b.feed t = r := by
  rw [feed_mark mark,show 16 + 4 * b.opened.length = (8 + 4 * b.opened.length) + 8 by omega]
  exact yields _

theorem rules_pending {blanks : Text} (mark : isMark t) (pending : b.pendingBackwards = blanks.reverse)
    (blank : blanks.all isAsciiBlank) : b.rules t .inTableText = (b.flush blanks).again (b.flush blanks).returnMode := by
  change b.inTableText t = _
  cases t with
  | startTag | endTag | comment =>
    rw [inTableText,pending,List.reverse_reverse]
    · simp only [blank,if_true]
      rfl
    all_goals
      intros
      contradiction
  | _ => cases mark

theorem Poised.feed (poised : Poised b b₀) (skips : b₀.skipLineFeed = false) (mark : isMark t) (yields : Yields 7 t b₀ r) :
    b.feed t = r := by
  cases poised with
  | ready =>
    refine feed_yields mark ?_
    rw [← skips]
    exact yields.more (Nat.le_succ 7)
  | skipping =>
    refine feed_yields mark ?_
    rw [← skips]
    exact yields.more (Nat.le_succ 7)
  | pending _ blanks mode pending blank skips' plain =>
    refine feed_yields mark ?_
    rw [← skips']
    exact yields_again (plain t mark) mode (rules_pending mark pending blank) yields

theorem run_start {tag : Tag} {s : Text} {c : Char} (read : Scan.tokens b.inForeign c s = ([.startTag tag],rest))
    (fed : b.feed (.startTag tag) = (b',.done)) : run seams b (c :: s) = run seams b' rest := by
  rw [run]
  split
  · rename_i tag' rest' same
    rw [read] at same
    cases same
    rw [fed]
  · rename_i other same
    rw [read] at same
    cases same
    exact absurd rfl (other tag)

theorem run_raw {tag : Tag} {s : Text} {c : Char} {kind : RawKind} (read : Scan.tokens b.inForeign c s = ([.startTag tag],rest))
    (fed : b.feed (.startTag tag) = (b',.raw kind)) :
    run seams b (c :: s) = run seams (b'.feedAll (rawTokens kind tag.name rest)) (rawSplit kind tag.name rest).2 := by
  rw [run]
  split
  · rename_i tag' rest' same
    rw [read] at same
    cases same
    rw [fed]
  · rename_i other same
    rw [read] at same
    cases same
    exact absurd rfl (other tag)

theorem pastMark_eq (noMark : Delivery.byteOrderMark ∉ rest) : Delivery.pastMark seams rest = rest := by
  cases rest with
  | nil => rfl
  | cons c rest =>
    have other : c ≠ Delivery.byteOrderMark := fun same => noMark (same ▸ List.mem_cons_self)
    simp [Delivery.pastMark,other]

theorem run_token {s : Text} {c : Char} (read : Scan.tokens b.inForeign c s = ([t],rest)) (other : ∀ tag, t ≠ .startTag tag)
    (fed : b.feed t = (b',next)) (noMark : Delivery.byteOrderMark ∉ rest) : run seams b (c :: s) = run seams b' rest := by
  rw [run]
  split
  · rename_i tag' rest' same
    rw [read] at same
    cases same
    exact absurd rfl (other tag')
  · rename_i ts rest' _ same
    rw [read] at same
    cases same
    rw [feedAll,List.foldl_cons,List.foldl_nil,fed,pastMark_eq noMark,ite_self]

variable {name : Text} {attributes : List StyleTrim.Attribute}

theorem run_open (named : Scan.isTagName name) (sound : attributes.all Scan.isAttribute) (apart : Scan.areApart attributes)
    (fed : b.feed (.startTag (Scan.readTag name attributes)) = (b',.done)) :
    run seams b (Dom.openTag name attributes ++ rest) = run seams b' rest := by
  obtain ⟨s,written,read⟩ := Scan.tokens_open named sound apart
  rw [written]
  exact run_start read fed

theorem run_close (seams : List Nat) (named : Scan.isTagName name) (fed : b.feed (.endTag (lower name)) = (b',next))
    (noMark : Delivery.byteOrderMark ∉ rest) : run seams b (Dom.closeTag name ++ rest) = run seams b' rest := by
  obtain ⟨s,written,read⟩ := Scan.tokens_close named
  rw [written]
  exact run_token read nofun fed noMark

theorem run_comment {value : Text} (sound : Scan.isComment value) (fed : b.feed (.comment value) = (b',next))
    (noMark : Delivery.byteOrderMark ∉ rest) : run seams b ("<!--" ++ value ++ "-->" ++ rest) = run seams b' rest := by
  have read := Scan.tokens_comment b.inForeign rest sound
  rw [show "<!--" ++ value ++ "-->" ++ rest = '<' :: '!' :: '-' :: '-' :: (value ++ "-->" ++ rest) by simp]
  exact run_token read nofun fed noMark

theorem run_character {c : Char} (plain : c ≠ '\x00') (fed : b.feed (.character c) = (b',next))
    (noMark : Delivery.byteOrderMark ∉ rest) : run seams b (Dom.escapedTextChar c ++ rest) = run seams b' rest := by
  obtain ⟨d,s,written,read⟩ := Scan.tokens_escaped plain
  rw [written]
  exact run_token read nofun fed noMark

end StyleTrim.Html.Builder
