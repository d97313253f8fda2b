import Mathlib.Data.List.Forall2
import StyleTrim.Proofs.Footprints
import StyleTrim.Proofs.Lifecycle
import StyleTrim.Proofs.OutputNames
namespace StyleTrim
open Text
variable {d : Document} {m : Machine} {fs fs' : Files} {i : Input} {luck : Luck} {lot : Input × Luck} {lots : List (Input × Luck)}
  {s s' : Scene} {w : Workshop} {r : Run} {inputs : List Input} {root : Place} {mark : Text} {left : List (Place × Bytes)}

-- Documents are processed in batches and share a browser, but no document learns of another one: what becomes of
-- it is what becomes of it alone, whoever has a turn before it. The only way for a document to spoil the others is
-- a page that is never drawn, with which the whole run ends.

namespace Files
open StyleTrim.Path

theorem enter_onward {start next : Place} {step : Text} (seen : List Place) (entered : fs.enter start step = .ok next) :
    ∃ passed, onward (start,seen) step = (next,seen ++ passed) ∧ ∀ q ∈ passed, ∃ e, fs.entry? q = some e := by
  unfold enter at entered
  unfold onward
  split at entered
  · cases entered
    exact ⟨[],by simp [*],List.forall_mem_nil _⟩
  · split at entered
    · cases entered
      exact ⟨[],by simp [*],List.forall_mem_nil _⟩
    · split at entered
      · cases entered
      · split at entered
        · cases entered
        · cases entered
        · rename_i there
          cases entered
          exact ⟨[step :: start],by simp [*],by simp [there]⟩

-- The steps that lead to a directory pass what is there.
theorem enters_onward {steps : List Text} {start : Place} (seen : List Place) (way : steps.foldlM fs.enter start = .ok root) :
    ∃ passed, steps.foldl onward (start,seen) = (root,seen ++ passed) ∧ ∀ q ∈ passed, ∃ e, fs.entry? q = some e := by
  induction steps generalizing start seen with
  | nil =>
    cases way
    exact ⟨[],by simp,List.forall_mem_nil _⟩
  | cons step more ih =>
    rw [List.foldlM_cons] at way
    obtain ⟨next,first,rest⟩ := bind_ok way
    obtain ⟨passed,one,there⟩ := enter_onward seen first
    obtain ⟨later,others,known⟩ := ih (seen ++ passed) rest
    refine ⟨passed ++ later,?_,List.forall_mem_append.mpr ⟨there,known⟩⟩
    rw [List.foldl_cons,one,others,List.append_assoc]

theorem spareName_step (solid : '/' ∉ mark) : IsStep (spareName mark) := by
  have first : (spareName mark).head? = some 'a' := rfl
  have before : '/' ∉ ("amp-uncss-" : Text) := by decide
  have behind : '/' ∉ (".html" : Text) := by decide
  refine ⟨fun slash => ?_,fun same => ?_,fun same => ?_,fun same => ?_⟩
  · rcases List.mem_append.mp slash with slash | slash
    · exact (List.mem_append.mp slash).elim before solid
    · exact behind slash
  all_goals
    rw [same] at first
    cases first

-- The path of a spare file leads to its place, past what was there before.
-- The file is reached like the directory, by one step more.
theorem spareRoot_ways {directory : Option Path} (rooted : fs.spareRoot directory = .ok root) (step : IsStep (spareName mark)) :
    ∃ start before, cut (within (fs.spareDirectory directory) (spareName mark)) = (start,before ++ [spareName mark]) ∧
      before.foldlM fs.enter (if start = .root then [] else fs.here) = .ok root := by
  unfold spareRoot at rooted
  generalize fs.spareDirectory directory = above at rooted ⊢
  cases way : fs.approach (within above ".") with
  | error cause =>
    rw [way] at rooted
    cases rooted
  | ok found =>
    rw [way] at rooted
    cases rooted
    rcases within_cases above with rfl | ⟨front,seen⟩
    · rw [within_nil] at way ⊢
      cases way
      exact ⟨.here,[],cut_alone step.solid step.moves,rfl⟩
    · rw [seen _ (by decide)] at way
      rw [seen _ step.inner]
      obtain ⟨start,before,cuts⟩ := cut_below front
      have parts := (approach_ok_iff (by simp) (cuts ['.'] (by decide))).mp way
      exact ⟨start,before,cuts _ step.solid,parts.2.1⟩

theorem along_spare {directory : Option Path} (rooted : fs.spareRoot directory = .ok root) (solid : '/' ∉ mark) :
    ∀ q ∈ fs.along (within (fs.spareDirectory directory) (spareName mark)), q = spareName mark :: root ∨ ∃ e, fs.entry? q = some e := by
  have step := spareName_step solid
  have last (start : Place) (seen : List Place) :
      onward (start,seen) (spareName mark) = (spareName mark :: start,seen ++ [spareName mark :: start]) := by
    have stays : ¬ staysPut (spareName mark) = true := fun stays => (staysPut_iff.mp stays).elim step.filled step.moves
    simp [onward,stays,step.down]
  obtain ⟨start,before,parts,way⟩ := spareRoot_ways rooted step
  obtain ⟨passed,whole,known⟩ := enters_onward [] way
  intro q inside
  simp only [along,parts,List.foldl_append,whole,List.foldl_cons,List.foldl_nil,last,List.nil_append] at inside
  rcases List.mem_append.mp inside with inside | inside
  · exact .inr (known q inside)
  · exact .inl (List.mem_singleton.mp inside)

end Files
-- Nothing but spare files is new.
def Spared (w : Workshop) (fs fs' : Files) : Prop := ∃ spares, fs.Beside spares fs' ∧
  ∀ spare ∈ spares, ∃ root mark, fs.spareRoot w.spareDirectory = .ok root ∧ spare.1 = Files.spareName mark :: root

-- A page is made of what its path leads through and of what was there before: nobody knows what the spare files of
-- others are called.
def Discreet (w : Workshop) (fs : Files) : Prop := ∀ session, w.browser.launch = .ok session →
  ∀ fs₁ fs₂ p, Spared w fs fs₁ → Spared w fs fs₂ → (∀ q ∈ fs.along p, fs₁.entry? q = fs₂.entry? q) →
    session.openFile fs₁ p = session.openFile fs₂ p

-- No spare file gets a name by which a document came in.
def Unsought (w : Workshop) (fs : Files) (lots : List (Input × Luck)) : Prop :=
  ∀ lot ∈ lots, ∀ place, lot.2.place? w fs = some place → fs.entry? place = none →
    ∀ other ∈ lots, ∀ p, other.1.path = some p → place ∉ fs.along p

theorem Unsought.single (unsought : Unsought w fs lots) (among : lot ∈ lots) : Unsought w fs [lot] := by
  intro one inside place found vacant other inside' p path
  cases List.mem_singleton.mp inside
  cases List.mem_singleton.mp inside'
  exact unsought lot among place found vacant lot among p path

namespace Document

theorem advance_ended {c : Course} (departed : depart w luck fs i = some (fs',.ended c)) :
    (of i).advance w luck ⟨fs,none⟩ = some (⟨fs',none⟩,(of i).follow c) := by
  rw [advance_unfinished rfl]
  show (stages w luck ⟨fs,none⟩ i).map _ = _
  rw [stages,departed]
  rfl

theorem advance_opening {v : Visit} (departed : depart w luck fs i = some (fs',.opening v)) :
    (of i).advance w luck ⟨fs,none⟩ = some ((arrive w ⟨fs',none⟩ v).1,(of i).follow (arrive w ⟨fs',none⟩ v).2) := by
  rw [advance_unfinished rfl]
  show (stages w luck ⟨fs,none⟩ i).map _ = _
  rw [stages,departed]
  rfl

theorem makeSpare_same (root : fs'.spareRoot w.spareDirectory = fs.spareRoot w.spareDirectory) (spare : fs'.spare = fs.spare)
    (luck : Luck) (contents : Bytes) : (makeSpare w luck fs' contents).2 = (makeSpare w luck fs contents).2 := by
  unfold makeSpare spareAt Files.spareDirectory
  rw [root,spare]
  dsimp only
  cases fs.spareRoot w.spareDirectory with
  | error cause => rfl
  | ok root => cases luck.attempt <;> rfl

-- Where a document stops first does not depend on the files, as long as spare files go to the same place.
theorem depart_same (root : fs'.spareRoot w.spareDirectory = fs.spareRoot w.spareDirectory) (spare : fs'.spare = fs.spare)
    (luck : Luck) (i : Input) : (depart w luck fs' i).map (·.2) = (depart w luck fs i).map (·.2) := by
  unfold depart
  cases i.text with
  | error f => rfl
  | ok raw =>
    dsimp only
    cases prepare w.room w.level raw with
    | none => rfl
    | some p =>
      dsimp only [Option.bind_eq_bind,Option.bind_some]
      cases p.learned.tier with
      | document => rfl
      | browser =>
        unfold placePage
        cases i.path with
        | some path => rfl
        | none =>
          have same := makeSpare_same root spare luck (encode raw)
          dsimp only
          generalize makeSpare w luck fs' (encode raw) = first at same ⊢
          generalize makeSpare w luck fs (encode raw) = second at same ⊢
          obtain ⟨_,made⟩ := first
          obtain ⟨_,made'⟩ := second
          cases same
          cases made <;> rfl

theorem arrive_same {v : Visit} (page : (w.browser.openFile s.running s.files v.path).2 = (w.browser.openFile s'.running s'.files v.path).2) :
    (arrive w s v).2 = (arrive w s' v).2 := by
  unfold arrive
  dsimp only
  rw [page]

end Document

namespace Task

-- A document is where it would be if it were alone.
inductive Bound (w : Workshop) (fs : Files) (lot : Input × Luck) : Task → Prop
  | fresh : Bound w fs lot (fresh lot)
  | opening {v : Visit} {fs₁ : Files} (fits : lot.2.Fits w fs)
    (departed : Document.depart w lot.2 fs lot.1 = some (fs₁,.opening v)) : Bound w fs lot (.opening (.of lot.1) v)
  | done {s : Scene} {d : Document} (fits : lot.2.Fits w fs)
    (alone : (Document.of lot.1).advance w lot.2 ⟨fs,none⟩ = some (s,d)) : Bound w fs lot (.done d)

theorem Kept.spared {lucks : List Luck} {state : Scene × List Task} (kept : Kept w fs lucks left state) :
    Spared w fs state.1.files := by
  refine ⟨_,kept.files,fun spare inside => ?_⟩
  obtain ⟨luck,_,found⟩ := kept.placed spare inside
  obtain ⟨root,mark,rooted,_,same⟩ := Luck.place?_cases found
  exact ⟨root,mark,rooted,same⟩

theorem Kept.fits {lucks : List Luck} {state : Scene × List Task} (kept : Kept w fs lucks left state)
    (fits : luck.Fits w state.1.files) : luck.Fits w fs := by
  refine ⟨fun place found => kept.files.free (fits.vacant place ?_),fits.step⟩
  rw [kept.site,found]

theorem departs_spared {v : Visit} (fits : luck.Fits w fs) (departed : Document.depart w luck fs i = some (fs',.opening v)) :
    Spared w fs fs' := by
  cases Document.depart_departs fits departed with
  | straight => exact ⟨[],.refl fs,List.forall_mem_nil _⟩
  | @copied _ root mark rooted drawn =>
    have vacant := fits.vacant _ (Luck.place?_drawn rooted drawn)
    refine ⟨_,(Files.Beside.refl fs).put vacant _,?_⟩
    exact List.forall_mem_cons.mpr ⟨⟨root,mark,rooted,rfl⟩,List.forall_mem_nil _⟩

-- The page of a document that waits among others is the one it would have alone.
theorem page_alone {v : Visit} {state : Scene × List Task} (discreet : Discreet w fs) (unsought : Unsought w fs lots)
    (kept : Kept w fs (lots.map (·.2)) left state) (among : lot ∈ lots) (waits : .opening (.of lot.1) v ∈ state.2)
    (fits : lot.2.Fits w fs) (departed : Document.depart w lot.2 fs lot.1 = some (fs',.opening v)) :
    (w.browser.openFile state.1.running state.1.files v.path).2 = (w.browser.openFile none fs' v.path).2 := by
  have idle : w.browser.Runs none := nofun
  rw [(Browser.openFile_launch kept.runs _ _).1,(Browser.openFile_launch idle _ _).1]
  cases launched : w.browser.launch with
  | error cause => rfl
  | ok session =>
    refine discreet session launched _ _ _ kept.spared (departs_spared fits departed) ?_
    cases Document.depart_departs fits departed with
    | straight filed path =>
      intro q passed
      refine kept.files.elsewhere fun spare inside same => ?_
      obtain ⟨luck,drawn,found⟩ := kept.placed spare inside
      obtain ⟨other,member,rfl⟩ := List.mem_map.mp drawn
      refine unsought other member _ found (kept.files.vacant spare inside) lot among _ path ?_
      rwa [same]
    | @copied v root mark rooted drawn copy path =>
      intro q passed
      rw [path] at passed
      rcases Files.along_spare rooted (fits.step mark drawn) q passed with rfl | ⟨e,there⟩
      · rw [Files.put_here (List.cons_ne_nil _ _)]
        refine kept.files.holds (List.mem_append_left _ ?_)
        refine List.mem_filterMap.mpr ⟨_,waits,?_⟩
        simp [copy?,copy,Document.spareAt]
      · have vacant := fits.vacant _ (Luck.place?_drawn rooted drawn)
        rw [kept.files.widens.entry q e there,(Files.put_widens vacant _).entry q e there]

-- A turn takes a document where it would come alone.
theorem turn_bound {t t' : Task} {before after : List Task} (discreet : Discreet w fs) (unsought : Unsought w fs lots)
    (kept : Kept w fs (lots.map (·.2)) left (s,before ++ t :: after)) (among : lot ∈ lots) (opens : t.Fits w s.files)
    (turned : t.turn w s = some (s',t')) (bound : Bound w fs lot t) : Bound w fs lot t' := by
  cases bound with
  | fresh =>
    have fits := kept.fits opens
    obtain ⟨final,_,_⟩ | ⟨files,stop,_,departed,_,rfl⟩ := turn_waiting turned
    · cases final
    · have alone := Document.depart_same kept.root kept.files.spare lot.2 lot.1
      rw [show Document.depart w lot.2 s.files lot.1 = some (files,stop) from departed] at alone
      obtain ⟨⟨fs₁,stop'⟩,departed',same⟩ := Option.map_eq_some_iff.mp alone.symm
      cases same
      cases stop with
      | ended c => exact .done fits (Document.advance_ended departed')
      | opening v => exact .opening fits departed'
  | @opening v fs₁ fits departed =>
    obtain ⟨_,rfl⟩ := turn_opening turned
    have page := page_alone discreet unsought kept among (List.mem_append_right _ List.mem_cons_self) fits departed
    rw [@Document.arrive_same s ⟨fs₁,none⟩ w v page]
    exact .done fits (Document.advance_opening departed)
  | done fits alone =>
    cases turned
    exact .done fits alone

theorem forall₂_turn {R : Input × Luck → Task → Prop} {before after : List Task} {t t' : Task}
    (all : List.Forall₂ R lots (before ++ t :: after)) (next : ∀ lot ∈ lots, R lot t → R lot t') :
    List.Forall₂ R lots (before ++ t' :: after) := by
  induction before generalizing lots with
  | nil =>
    obtain ⟨lot,more,here,rest,rfl⟩ := List.forall₂_cons_right_iff.mp all
    exact .cons (next lot List.mem_cons_self here) rest
  | cons u before ih =>
    obtain ⟨lot,more,here,rest,rfl⟩ := List.forall₂_cons_right_iff.mp all
    exact .cons here (ih rest fun lot inside => next lot (List.mem_cons_of_mem _ inside))

theorem steps_bound {next : Scene × List Task} (discreet : Discreet w fs) (unsought : Unsought w fs lots)
    (steps : Steps w (⟨fs,none⟩,lots.map fresh) next) :
    (∃ left, Kept w fs (lots.map (·.2)) left next) ∧ List.Forall₂ (Bound w fs) lots next.2 := by
  induction steps with
  | refl =>
    refine ⟨⟨[],first_kept⟩,?_⟩
    rw [List.forall₂_map_right_iff,List.forall₂_same]
    exact fun lot _ => .fresh
  | tail _ step ih =>
    obtain ⟨⟨left,kept⟩,bound⟩ := ih
    refine ⟨step.kept kept,?_⟩
    cases step with
    | turn before after fits turned =>
      exact forall₂_turn bound fun lot among => turn_bound discreet unsought kept among fits turned

end Task

-- There is room for the drawing of a document, if it is a text.
def Input.IsDrawable (room : Nat) (i : Input) : Prop :=
  ∀ raw, i.text = .ok raw → (Amp.drawPageTo room (Dom.read raw)).isSome = true

theorem Document.depart_some_iff (w : Workshop) (luck : Luck) (fs : Files) (i : Input) :
    (depart w luck fs i).isSome = true ↔ i.IsDrawable w.room := by
  unfold depart Input.IsDrawable
  cases read : i.text with
  | error f => simp
  | ok raw =>
    have drawn : (prepare w.room w.level raw).isSome = (Amp.drawPageTo w.room (Dom.read raw)).isSome := by
      unfold prepare
      cases Amp.drawPageTo w.room (Dom.read raw) <;> rfl
    simp only [Except.ok.injEq,forall_eq']
    rw [← drawn]
    cases prepare w.room w.level raw with
    | none => simp
    | some p =>
      simp only [Option.bind_eq_bind,Option.bind_some,Option.isSome_some,iff_true]
      cases p.learned.tier with
      | document => rfl
      | browser =>
        dsimp only
        split <;> rfl

namespace Run

theorem firstTurns_some_iff (w : Workshop) (s : Scene) (inputs : List Input) :
    (firstTurns w s (inputs.map .of)).isSome = true ↔ ∀ i ∈ inputs, i.IsDrawable w.room := by
  induction inputs generalizing s with
  | nil => simp [firstTurns]
  | cons i more ih =>
    have first : (Task.turn w s (.waiting (.of i) (.fair w s.files))).isSome = true ↔ i.IsDrawable w.room := by
      rw [← Document.depart_some_iff w (.fair w s.files) s.files i]
      show (Option.map _ _).isSome = true ↔ _
      rw [Option.isSome_map]
      rfl
    rw [List.forall_mem_cons,← first,List.map_cons,firstTurns]
    cases Task.turn w s (.waiting (.of i) (.fair w s.files)) with
    | none => simp
    | some left =>
      rw [← ih left.1]
      cases rest : firstTurns w left.1 (more.map .of) with
      | none => simp [rest]
      | some others => simp [rest]

theorem nextTurns_some (w : Workshop) (s : Scene) {ts : List Task} (begun : ∀ t ∈ ts, t.Begun) :
    (nextTurns w s ts).isSome = true := by
  induction ts generalizing s with
  | nil => rfl
  | cons t more ih =>
    obtain ⟨here,after⟩ := List.forall_mem_cons.mp begun
    obtain ⟨left,turned⟩ : ∃ left, t.turn w s = some left := by
      cases t with
      | waiting d luck => exact absurd rfl (here d luck)
      | opening d v => exact ⟨_,rfl⟩
      | done d => exact ⟨_,rfl⟩
    rw [nextTurns,turned]
    obtain ⟨rest,turned⟩ := Option.isSome_iff_exists.mp (ih left.1 after)
    simp [turned]

theorem processBatch_some_iff (w : Workshop) (s : Scene) (inputs : List Input) :
    (processBatch w s (inputs.map .of)).isSome = true ↔ ∀ i ∈ inputs, i.IsDrawable w.room := by
  rw [← firstTurns_some_iff w s,processBatch]
  cases turned : firstTurns w s (inputs.map .of) with
  | none => simp
  | some left =>
    obtain ⟨_,_,_,begun⟩ := firstTurns_steps turned
    obtain ⟨rest,turned⟩ := Option.isSome_iff_exists.mp (nextTurns_some w left.1 begun)
    simp [turned]

theorem processAll_some_iff (w : Workshop) (s : Scene) (all : List (List Input)) :
    (processAll w s (all.map (List.map .of))).isSome = true ↔ ∀ i ∈ all.flatten, i.IsDrawable w.room := by
  induction all generalizing s with
  | nil => simp [processAll]
  | cons batch more ih =>
    have first := processBatch_some_iff w s batch
    rw [List.flatten_cons,List.forall_mem_append,← first,List.map_cons,processAll]
    cases processBatch w s (batch.map .of) with
    | none => simp
    | some left =>
      rw [← ih left.1]
      cases rest : processAll w left.1 (more.map (List.map .of)) with
      | none => simp [rest]
      | some others => simp [rest]

-- A run returns unless one of its documents has a page that is never drawn.
theorem perform_some_iff (r : Run) (m : Machine) (fs : Files) (inputs : List Input) :
    (r.perform m fs inputs).isSome = true ↔ ∀ i ∈ r.taken inputs, i.IsDrawable m.room := by
  rw [perform,Option.isSome_map,Run.processed,accepted,batches_map,processAll_some_iff,batches_flatten]
  rfl

-- The same run with batches of another size.
def resized (r : Run) (size : Nat) (positive : 0 < size) : Run where
  config := {r.config with batchSize := size}
  whitelist := r.whitelist
  isValid := by
    have valid := r.isValid
    unfold Config.validate at valid ⊢
    split at valid
    · cases valid
    · rw [if_neg (Nat.ne_of_gt positive)]
      exact valid

theorem Ends.alone {ds : List Document} (discreet : Discreet (r.workshop m) fs) (unsought : Unsought (r.workshop m) fs lots)
    (ends : r.Ends m fs lots s ds) : List.Forall₂ (fun lot d => lot.2.Fits (r.workshop m) fs ∧
      ∃ s, (Document.of lot.1).advance (r.workshop m) lot.2 ⟨fs,none⟩ = some (s,d)) lots ds := by
  have bound := (Task.steps_bound discreet unsought ends.steps).2
  rw [List.forall₂_map_right_iff] at bound
  refine bound.imp fun lot d known => ?_
  generalize same : Task.done d = t at known
  cases known with
  | fresh => cases same
  | opening => cases same
  | done fits alone =>
    cases same
    exact ⟨fits,_,alone⟩

-- A document that is processed alone has at most two turns.
theorem ends_alone (fits : lot.2.Fits (r.workshop m) fs)
    (alone : (Document.of lot.1).advance (r.workshop m) lot.2 ⟨fs,none⟩ = some (s,d)) : ∃ s, r.Ends m fs [lot] s [d] := by
  have single : batches r.config.batchSize [lot] = [[lot]] := by
    rw [batches,List.take_nil,List.drop_nil,batches]
  have steps : ∃ s, Task.Steps (r.workshop m) (⟨fs,none⟩,[.fresh lot]) (s,[.done d]) := by
    cases departed : Document.depart (r.workshop m) lot.2 fs lot.1 with
    | none =>
      rw [Document.advance_unfinished rfl,Document.stages] at alone
      rw [show Document.depart (r.workshop m) lot.2 fs (Document.of lot.1).input = none from departed] at alone
      cases alone
    | some left =>
      obtain ⟨fs',stop⟩ := left
      have first : Task.turn (r.workshop m) ⟨fs,none⟩ (.fresh lot) = _ := congrArg (Option.map _) departed
      cases stop with
      | ended c =>
        rw [Document.advance_ended departed] at alone
        cases alone
        exact ⟨_,.single (.turn [] [] fits first)⟩
      | opening v =>
        rw [Document.advance_opening departed] at alone
        cases alone
        exact ⟨_,.head (.turn [] [] fits first) (.single (.turn [] [] trivial rfl))⟩
  obtain ⟨s,steps⟩ := steps
  refine ⟨s,?_⟩
  rw [Ends,single]
  exact @Processes.cons _ _ _ _ [lot] [] [d] [] steps (.nil s)

-- However it is batched and whatever lot it is drawn, a document ends in one way if it is alone.
theorem lot_alone (discreet : Discreet (r.workshop m) fs) (unsought : Unsought (r.workshop m) fs [lot])
    (fits : lot.2.Fits (r.workshop m) fs)
    (alone : (Document.of lot.1).advance (r.workshop m) lot.2 ⟨fs,none⟩ = some (s,d)) : d.input = lot.1 ∧
      ∀ size positive ds, (∃ s, (r.resized size positive).Ends m fs [lot] s ds) ↔ ds = [d] := by
  constructor
  · obtain ⟨s,ends⟩ := ends_alone fits alone
    exact (List.cons.inj ends.inputs).1
  · intro size positive ds
    constructor
    · rintro ⟨s,ends⟩
      obtain ⟨d',more,⟨_,s',alone'⟩,rest,rfl⟩ := List.forall₂_cons_left_iff.mp
        (ends.alone (r := r.resized size positive) discreet unsought)
      cases rest
      cases alone.symm.trans alone'
      rfl
    · rintro rfl
      exact ends_alone (r := r.resized size positive) fits alone

-- The entry of a document tells how its stages ended, or that its output could not be written in the end.
inductive Entry (r : Run) (d : Document) : DocumentReport → Prop
  | ended : Entry r d d.report
  | unwritten {f : Failure} (listed : r.config.isStreamable = false) (kind : f.kind = .resource) : Entry r d (d.fail f).report

theorem Lands.entry {left : Files × Document} (listed : r.config.isStreamable = false) (lands : Lands r fs d left) :
    Entry r d left.2.report := by
  cases lands with
  | whole =>
    unfold deliver
    split
    · exact .ended
    · exact .unwritten listed (save_resource ‹_›)
  | unmade outer kind => exact .unwritten listed kind
  | refused made found part kind => exact .unwritten listed kind

theorem LandsAll.entries {ds ds' : List Document} (listed : r.config.isStreamable = false) (lands : LandsAll r fs ds fs' ds') :
    List.Forall₂ (Entry r) ds (ds'.map (·.report)) := by
  induction lands with
  | nil => exact .nil
  | cons one rest ih => exact .cons (one.entry listed) ih

theorem RunReport.of_sums (options : Config) (files : List DocumentReport) :
    let report := RunReport.of options files
    report.optimized + report.failed = report.files.length ∧ report.optimized = report.files.countP (·.isComplete) ∧
    report.selectorsRemoved = ((report.files.filter (·.isComplete)).map (·.removedCount)).sum ∧
    report.bytesSaved = ((report.files.filter (·.isComplete)).map (·.savedBytes)).sum := by
  refine ⟨?_,(List.countP_eq_length_filter ..).symm,?_,?_⟩
  · exact Nat.add_sub_of_le (List.length_filter_le _ _)
  · simp only [RunReport.of,List.sum,List.foldr_map]
  · simp only [RunReport.of,List.sum,List.foldr_map]

theorem Performs.ends {ended : List Document} {left : Files × Outcome} (performs : r.Performs m fs inputs lots ended left) :
    ∃ s, lots.map (·.1) = r.taken inputs ∧ r.Ends m fs lots s ended := by
  cases performs with
  | streamed alone taken ends => exact ⟨_,taken,ends⟩
  | listed all taken ends lands => exact ⟨_,taken,ends⟩

theorem Performs.entries {ended : List Document} {left : Files × Outcome} (performs : r.Performs m fs inputs lots ended left) :
    ∃ files, left.2.report = .of r.config files ∧ List.Forall₂ (Entry r) ended files := by
  cases performs with
  | streamed alone taken ends =>
    refine ⟨_,rfl,?_⟩
    rw [List.forall₂_map_right_iff]
    exact List.forall₂_same.mpr fun _ _ => .ended
  | listed all taken ends lands => exact ⟨_,rfl,lands.entries all⟩

-- What a run says of its documents, how they are batched, who has his turn when and what else is among them aside.
structure Isolates (r : Run) (m : Machine) (fs : Files) (lots : List (Input × Luck)) (ended : List Document)
    (report : RunReport) : Prop where
  alone : List.Forall₂ (fun lot d => d.input = lot.1 ∧
    ∀ size positive ds, (∃ s, (r.resized size positive).Ends m fs [lot] s ds) ↔ ds = [d]) lots ended
  entries : List.Forall₂ (Entry r) ended report.files
  counted : report.optimized + report.failed = report.files.length
  optimized : report.optimized = report.files.countP (·.isComplete)
  selectors : report.selectorsRemoved = ((report.files.filter (·.isComplete)).map (·.removedCount)).sum
  saved : report.bytesSaved = ((report.files.filter (·.isComplete)).map (·.savedBytes)).sum

theorem batches_isolate (r : Run) (m : Machine) (fs : Files) (inputs : List Input) (discreet : Discreet (r.workshop m) fs) :
    ((r.perform m fs inputs).isSome = true ↔ ∀ i ∈ r.taken inputs, i.IsDrawable m.room) ∧
    (∀ left, r.perform m fs inputs = some left → ∃ lots ended, r.Performs m fs inputs lots ended left) ∧
    ∀ lots ended left, r.Performs m fs inputs lots ended left → Unsought (r.workshop m) fs lots →
      lots.map (·.1) = r.taken inputs ∧ Isolates r m fs lots ended left.2.report := by
  refine ⟨perform_some_iff r m fs inputs,fun left ran => ?_,fun lots ended left performs unsought => ?_⟩
  · obtain ⟨lots,ended,_,performs⟩ := perform_performs ran
    exact ⟨lots,ended,performs⟩
  · obtain ⟨s,taken,ends⟩ := performs.ends
    obtain ⟨files,made,entries⟩ := performs.entries
    obtain ⟨counted,optimized,selectors,saved⟩ := RunReport.of_sums r.config files
    rw [made]
    refine ⟨taken,?_,entries,counted,optimized,selectors,saved⟩
    refine ((List.forall₂_and_left _ _).mpr ⟨fun lot among => among,ends.alone discreet unsought⟩).imp ?_
    rintro lot d ⟨among,fits,s,alone⟩
    exact lot_alone discreet (unsought.single among) fits alone

-- A browser that shows what stands where a path leads.
def reader : Machine where
  room := 1
  browser.launch := .ok ⟨fun fs p => match (fs.along p).getLast?.bind fs.entry? with
    | some (.file contents) => .ok (Oracle.ofMarkup .browser (decodeLossy contents))
    | _ => .error "navigation failed"⟩

theorem reader_discreet (fs : Files) : Discreet (thorough.workshop reader) fs := by
  rintro session launched fs₁ fs₂ p ⟨_,beside₁,_⟩ ⟨_,beside₂,_⟩ same
  cases launched
  have along₁ : fs₁.along p = fs.along p := by rw [Files.along,Files.along,beside₁.here]
  have along₂ : fs₂.along p = fs.along p := by rw [Files.along,Files.along,beside₂.here]
  dsimp only
  rw [along₁,along₂]
  cases last : (fs.along p).getLast? with
  | none => rfl
  | some q =>
    rw [Option.bind_some,Option.bind_some,same q (List.mem_of_getLast? last)]

-- One document from a file, one that needs a spare file, and one that fails.
def feedBytes : Bytes := encode "<amp-list></amp-list>"
def shelf : Files := Files.empty.put ["feed.html","work","tmp"] (.file feedBytes)
def mixed : List Input := [⟨"feed.html",some "feed.html",feedBytes⟩,.ofMemory "feed.html" feedBytes,.ofMemory "blank.html" [32]]

theorem batches_isolate_mixed : ∃ left, thorough.perform reader shelf mixed = some left ∧ ∃ lots ended,
    thorough.Performs reader shelf mixed lots ended left ∧ lots.map (·.1) = mixed ∧
    Isolates thorough reader shelf lots ended left.2.report := by
  obtain ⟨returns,goes,isolated⟩ := batches_isolate thorough reader shelf mixed (reader_discreet shelf)
  have drawable : ∀ i ∈ thorough.taken mixed, i.IsDrawable reader.room := by
    have departs : ∀ i ∈ mixed, (Document.depart (thorough.workshop reader) ⟨.refused [],none⟩ shelf i).isSome = true := by
      decide +kernel
    exact fun i among => (Document.depart_some_iff (thorough.workshop reader) _ _ i).mp (departs i among)
  obtain ⟨left,ran⟩ := Option.isSome_iff_exists.mp (returns.mpr drawable)
  obtain ⟨lots,ended,performs⟩ := goes left ran
  have unsought : Unsought (thorough.workshop reader) shelf lots := by
    intro lot _ place found vacant other among p path passed
    obtain ⟨_,taken,_⟩ := performs.ends
    have known : other.1 ∈ thorough.taken mixed := by
      rw [← taken]
      exact List.mem_map_of_mem among
    have there : ∀ i ∈ mixed, ∀ p ∈ i.path, ∀ q ∈ shelf.along p, shelf.entry? q ≠ none := by decide +kernel
    exact there _ known p path place passed vacant
  obtain ⟨taken,isolates⟩ := isolated lots ended left performs unsought
  exact ⟨left,ran,lots,ended,performs,taken,isolates⟩

end Run
end StyleTrim
