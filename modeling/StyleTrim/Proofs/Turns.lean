import Mathlib.Data.List.Flatten
import Mathlib.Logic.Relation
import StyleTrim.Proofs.Storage
import StyleTrim.Run
namespace StyleTrim
open Text Relation
variable {b : Browser} {d : Document} {m : Machine} {fs fs' : Files} {i : Input} {luck : Luck} {lots : List (Input × Luck)} {place : Place}
  {s s' : Scene} {stop : Stop} {t t' : Task} {w : Workshop} {running : Option Session} {left : List (Place × Bytes)}

-- The documents of a batch take turns in any order, so that several spare files may be there at once. How the disk
-- treats them is drawn beforehand, for each document by itself.

-- What runs is what launching gives.
def Browser.Runs (b : Browser) (running : Option Session) : Prop := ∀ session, running = some session → b.launch = .ok session

-- Whoever asks gets what launching gives, and leaves nothing else behind.
theorem Browser.session_launch (runs : b.Runs running) : (b.session running).2 = b.launch ∧ b.Runs (b.session running).1 := by
  cases running with
  | some session => exact ⟨(runs session rfl).symm,runs⟩
  | none =>
    unfold session
    cases launched : b.launch with
    | ok new =>
      refine ⟨rfl,fun session same => ?_⟩
      cases same
      exact launched
    | error cause => exact ⟨rfl,fun _ none => nomatch none⟩

theorem Browser.openFile_launch (runs : b.Runs running) (fs : Files) (p : Path) :
    (b.openFile running fs p).2 = b.launch >>= (·.openFile fs p) ∧ b.Runs (b.openFile running fs p).1 := by
  obtain ⟨same,left⟩ := session_launch runs
  rw [← same]
  unfold openFile
  generalize b.session running = asked at left ⊢
  rcases asked with ⟨running,_ | _⟩ <;> exact ⟨rfl,left⟩

-- Where the spare file of a document would stand.
def Luck.place? (w : Workshop) (fs : Files) (luck : Luck) : Option Place :=
  (fs.spareRoot w.spareDirectory).toOption.bind fun root => luck.attempt.mark?.map (Files.spareName · :: root)

theorem Luck.place?_drawn {root : Place} {mark : Text} (rooted : fs.spareRoot w.spareDirectory = .ok root)
    (drawn : luck.attempt.mark? = some mark) : luck.place? w fs = some (Files.spareName mark :: root) := by
  simp [place?,rooted,drawn,Except.toOption]

theorem Luck.place?_cases (found : luck.place? w fs = some place) : ∃ root mark, fs.spareRoot w.spareDirectory = .ok root ∧
    luck.attempt.mark? = some mark ∧ place = Files.spareName mark :: root := by
  obtain ⟨root,rooted,named⟩ := Option.bind_eq_some_iff.mp found
  obtain ⟨mark,drawn,same⟩ := Option.map_eq_some_iff.mp named
  cases way : fs.spareRoot w.spareDirectory with
  | error cause =>
    rw [way] at rooted
    cases rooted
  | ok root' =>
    rw [way] at rooted
    cases rooted
    exact ⟨root,mark,rfl,drawn,same.symm⟩

-- A new spare file has a name of its own, which is a single step.
structure Luck.Fits (w : Workshop) (fs : Files) (luck : Luck) : Prop where
  vacant : ∀ place, luck.place? w fs = some place → fs.entry? place = none
  step : ∀ mark, luck.attempt.mark? = some mark → '/' ∉ mark

theorem Luck.fair_fits (w : Workshop) (fs : Files) : (Luck.fair w fs).Fits w fs := by
  unfold fair
  cases rooted : (fs.spareRoot w.spareDirectory).toOption with
  | none => exact ⟨by simp [place?,rooted],nofun⟩
  | some root =>
    cases free : fs.freeMark? root with
    | none => exact ⟨by simp [place?,rooted,free,Attempt.mark?],by simp [free,Attempt.mark?]⟩
    | some mark =>
      refine ⟨fun place found => ?_,fun mark' same => ?_⟩
      · simp only [place?,rooted,Option.bind_some,free,Attempt.mark?,Option.map_some,Option.some.injEq] at found
        rw [← found]
        exact Files.freeMark?_vacant free
      · simp only [Option.bind_some,free,Attempt.mark?,Option.some.injEq] at same
        rw [← same]
        obtain ⟨n,_,rfl⟩ := List.mem_map.mp (List.mem_of_find?_eq_some free)
        intro slash
        cases Nat.isDigit_of_mem_toDigits (by decide) (by decide) slash

namespace Document

theorem follow_input (d : Document) (c : Course) : (d.follow c).input = d.input := by
  have reached (d : Document) (s : Status) : (d.reach s).input = d.input := by
    unfold reach
    split <;> rfl
  have failed (d : Document) (f : Failure) : (d.fail f).input = d.input := by
    unfold fail
    split <;> rfl
  cases c <;> simp only [follow,learn,reached,failed]

theorem spareAt_place (w : Workshop) (luck : Luck) (fs : Files) (root : Place) (mark : Text) :
    (spareAt w luck fs root mark).place = Files.spareName mark :: root := rfl

-- What making a spare file does to the files: nothing, or a new file is there. A part of one stays only if the disk
-- does not let go of it.
inductive Makes (w : Workshop) (luck : Luck) (fs : Files) (contents : Bytes) : Files → Except Failure Spare → Prop
  | none (f : Failure) : Makes w luck fs contents fs (.error f)
  | part {root : Place} {mark : Text} (rooted : fs.spareRoot w.spareDirectory = .ok root) (drawn : luck.attempt.mark? = some mark)
    (held : luck.undeleted ≠ none) (part : Bytes) (f : Failure) :
    Makes w luck fs contents (fs.put (Files.spareName mark :: root) (.file part)) (.error f)
  | whole {root : Place} {mark : Text} (rooted : fs.spareRoot w.spareDirectory = .ok root) (drawn : luck.attempt.mark? = some mark) :
    Makes w luck fs contents (fs.put (Files.spareName mark :: root) (.file contents)) (.ok (spareAt w luck fs root mark))

theorem makeSpare_makes (fits : luck.Fits w fs) (contents : Bytes) :
    Makes w luck fs contents (makeSpare w luck fs contents).1 (makeSpare w luck fs contents).2 := by
  unfold makeSpare
  dsimp only
  cases rooted : fs.spareRoot w.spareDirectory with
  | error cause => exact .none _
  | ok root =>
    dsimp only
    cases attempt : luck.attempt with
    | refused cause => exact .none _
    | written mark => exact .whole rooted (by rw [attempt]; rfl)
    | broken mark part cause =>
      have drawn : luck.attempt.mark? = some mark := by rw [attempt]; rfl
      dsimp only
      rw [Spare.drop,spareAt_place]
      cases held : luck.undeleted with
      | some cause' =>
        rw [if_pos (by simp [spareAt,held])]
        exact .part rooted drawn (by simp [held]) _ _
      | none =>
        rw [if_neg (by simp [spareAt,held]),Files.erase_put (fits.vacant _ (Luck.place?_drawn rooted drawn)) (List.cons_ne_nil _ _)]
        exact .none _

theorem arrive_files (w : Workshop) (s : Scene) (v : Visit) :
    (arrive w s v).1.files = (v.spare.map (·.drop s.files)).getD s.files := rfl

theorem arrive_running (w : Workshop) (s : Scene) (v : Visit) :
    (arrive w s v).1.running = (w.browser.openFile s.running s.files v.path).1 := rfl

-- The files when a document stops first. If it waits for its page, a spare file may wait with it.
inductive Departs (w : Workshop) (luck : Luck) (fs : Files) (i : Input) : Files → Stop → Prop
  | ended (c : Course) : Departs w luck fs i fs (.ended c)
  | spoiled {root : Place} {mark : Text} (rooted : fs.spareRoot w.spareDirectory = .ok root)
    (drawn : luck.attempt.mark? = some mark) (held : luck.undeleted ≠ none) (part : Bytes) (c : Course) :
    Departs w luck fs i (fs.put (Files.spareName mark :: root) (.file part)) (.ended c)
  | straight {v : Visit} (filed : v.spare = none) (path : i.path = some v.path) : Departs w luck fs i fs (.opening v)
  | copied {v : Visit} {root : Place} {mark : Text} (rooted : fs.spareRoot w.spareDirectory = .ok root)
    (drawn : luck.attempt.mark? = some mark) (copy : v.spare = some (spareAt w luck fs root mark))
    (path : v.path = (spareAt w luck fs root mark).path) :
    Departs w luck fs i (fs.put (Files.spareName mark :: root) (.file (encode v.raw))) (.opening v)

theorem depart_departs (fits : luck.Fits w fs) (departed : depart w luck fs i = some (fs',stop)) :
    Departs w luck fs i fs' stop := by
  unfold depart at departed
  split at departed
  · cases departed
    exact .ended _
  · rename_i raw _
    obtain ⟨p,_,rest⟩ := Option.bind_eq_some_iff.mp departed
    split at rest
    · cases rest
      exact .ended _
    · unfold placePage at rest
      cases path : i.path with
      | some p =>
        rw [path] at rest
        cases rest
        exact .straight rfl path
      | none =>
        rw [path] at rest
        have made := makeSpare_makes fits (encode raw)
        dsimp only at rest
        generalize makeSpare w luck fs (encode raw) = left at made rest
        obtain ⟨fs'',f | spare⟩ := left
        · cases rest
          cases made with
          | none => exact .ended _
          | part rooted drawn held part => exact .spoiled rooted drawn held part _
        · cases rest
          cases made with
          | @whole root mark rooted drawn =>
            exact .copied (v := ⟨raw,_,_,some (spareAt w luck fs root mark)⟩) rooted drawn rfl rfl

end Document

-- Where spare files go does not change while some are there.
theorem Files.Beside.root {directory : Option Path} {spares : List (Place × Bytes)} (beside : fs.Beside spares fs')
    (rooted : spares ≠ [] → ∃ root, fs.spareRoot directory = .ok root) : fs'.spareRoot directory = fs.spareRoot directory := by
  by_cases none : spares = []
  · rw [none] at beside
    rw [beside.same]
  · obtain ⟨root,found⟩ := rooted none
    rw [found]
    unfold Files.spareRoot Files.spareDirectory at found ⊢
    rw [beside.spare]
    generalize Path.within (directory.getD fs.spare) "." = p at found ⊢
    cases way : fs.approach p with
    | error cause =>
      rw [way] at found
      cases found
    | ok place =>
      rw [Files.approach_grows beside.widens.grows way,← found,way]

namespace Task

-- The file that waits together with a document.
def copy? : Task → Option (Place × Bytes)
  | .opening _ v => v.spare.map fun spare => (spare.place,encode v.raw)
  | _ => none

def Fits (w : Workshop) (fs : Files) : Task → Prop
  | .waiting _ luck => luck.Fits w fs
  | _ => True

-- The disk will let go of its spare file.
def Tidy : Task → Prop
  | .waiting _ luck => luck.undeleted = none
  | .opening _ v => ∀ spare, v.spare = some spare → spare.undeleted = none
  | .done _ => True

-- One document of a batch has its turn.
inductive Step (w : Workshop) : Scene × List Task → Scene × List Task → Prop
  | turn {s s' : Scene} {t t' : Task} (before after : List Task) (fits : t.Fits w s.files)
    (turned : t.turn w s = some (s',t')) : Step w (s,before ++ t :: after) (s',before ++ t' :: after)

abbrev Steps (w : Workshop) : Scene × List Task → Scene × List Task → Prop := ReflTransGen (Step w)

theorem turn_waiting {luck : Luck} (turned : turn w s (.waiting d luck) = some (s',t')) :
    (d.status.isFinal = true ∧ s' = s ∧ t' = .done d) ∨
    ∃ files stop, d.status.isFinal = false ∧ Document.depart w luck s.files d.input = some (files,stop) ∧
      s' = ⟨files,s.running⟩ ∧ t' = match stop with
        | .ended c => .done (d.follow c)
        | .opening v => .opening d v := by
  rw [turn] at turned
  split at turned
  · rename_i final
    cases turned
    exact .inl ⟨final,rfl,rfl⟩
  · rename_i unfinished
    obtain ⟨⟨files,stop⟩,departed,same⟩ := Option.map_eq_some_iff.mp turned
    refine .inr ⟨files,stop,Bool.eq_false_iff.mpr unfinished,departed,?_⟩
    cases stop <;> cases same <;> exact ⟨rfl,rfl⟩

theorem turn_opening {v : Visit} (turned : turn w s (.opening d v) = some (s',t')) :
    s' = (Document.arrive w s v).1 ∧ t' = .done (d.follow (Document.arrive w s v).2) := by
  cases turned
  exact ⟨rfl,rfl⟩

def Begun (t : Task) : Prop := ∀ d luck, t ≠ .waiting d luck

theorem turn_begun (turned : t.turn w s = some (s',t')) : t'.Begun := by
  cases t with
  | done d =>
    cases turned
    simp [Begun]
  | opening d v =>
    obtain ⟨_,rfl⟩ := turn_opening turned
    simp [Begun]
  | waiting d luck =>
    obtain ⟨_,_,rfl⟩ | ⟨files,stop,_,_,_,rfl⟩ := turn_waiting turned
    · simp [Begun]
    · cases stop <;> simp [Begun]

theorem turn_runs (turned : t.turn w s = some (s',t')) (runs : w.browser.Runs s.running) : w.browser.Runs s'.running := by
  cases t with
  | done d =>
    cases turned
    exact runs
  | opening d v =>
    obtain ⟨rfl,_⟩ := turn_opening turned
    rw [Document.arrive_running]
    exact (Browser.openFile_launch runs s.files v.path).2
  | waiting d luck =>
    obtain ⟨_,rfl,_⟩ | ⟨files,stop,_,_,rfl,_⟩ := turn_waiting turned
    · exact runs
    · exact runs

-- What a turn does to the files: a document may leave its spare file behind for good, and only to a disk that keeps it.
theorem turn_spares {others : List (Place × Bytes)} (turned : t.turn w s = some (s',t')) (fits : t.Fits w s.files)
    (beside : fs.Beside (t.copy?.toList ++ others) s.files) : ∃ more, fs.Beside (t'.copy?.toList ++ (more ++ others)) s'.files ∧
      (∀ spare ∈ t'.copy?.toList ++ more, spare ∈ t.copy?.toList ∨
        ∃ d luck, t = .waiting d luck ∧ luck.place? w s.files = some spare.1) ∧ (t.Tidy → more = [] ∧ t'.Tidy) := by
  cases t with
  | done d =>
    cases turned
    exact ⟨[],beside,nofun,fun tidy => ⟨rfl,tidy⟩⟩
  | opening d v =>
    obtain ⟨rfl,rfl⟩ := turn_opening turned
    rw [Document.arrive_files]
    simp only [copy?] at beside ⊢
    cases waits : v.spare with
    | none =>
      rw [waits] at beside
      exact ⟨[],beside,nofun,fun _ => ⟨rfl,trivial⟩⟩
    | some spare =>
      rw [waits] at beside
      cases held : spare.undeleted with
      | none =>
        refine ⟨[],?_,nofun,fun _ => ⟨rfl,trivial⟩⟩
        simpa [Spare.drop,held] using beside.erase
      | some cause =>
        refine ⟨[(spare.place,encode v.raw)],?_,?_,fun tidy => ?_⟩
        · simpa [Spare.drop,held] using beside
        · simp
        · have gone := tidy spare waits
          rw [held] at gone
          cases gone
  | waiting d luck =>
    obtain ⟨_,rfl,rfl⟩ | ⟨files,stop,_,departed,rfl,rfl⟩ := turn_waiting turned
    · exact ⟨[],beside,nofun,fun _ => ⟨rfl,trivial⟩⟩
    · cases Document.depart_departs fits departed with
      | ended c => exact ⟨[],beside,nofun,fun _ => ⟨rfl,trivial⟩⟩
      | straight filed _ =>
        refine ⟨[],?_,?_,?_⟩
        · simpa [copy?,filed] using beside
        · simp [copy?,filed]
        · simp [Tidy,filed]
      | spoiled rooted drawn held part c =>
        have found := Luck.place?_drawn rooted drawn
        refine ⟨[(_,part)],beside.put (fits.vacant _ found) part,?_,fun tidy => absurd tidy held⟩
        simp [copy?,found]
      | @copied v _ _ rooted drawn copy _ =>
        have found := Luck.place?_drawn rooted drawn
        refine ⟨[],?_,?_,?_⟩
        · simpa [copy?,copy,Document.spareAt] using beside.put (fits.vacant _ found) (encode v.raw)
        · simp [copy?,copy,found,Document.spareAt]
        · simp [Tidy,copy,Document.spareAt]

-- What holds of documents on their way, when the files were `fs` at first: besides these there are the files of those
-- that wait for their pages, and those that the disk has kept.
structure Kept (w : Workshop) (fs : Files) (lucks : List Luck) (left : List (Place × Bytes))
    (state : Scene × List Task) : Prop where
  runs : w.browser.Runs state.1.running
  files : fs.Beside (state.2.filterMap copy? ++ left) state.1.files
  placed : ∀ spare ∈ state.2.filterMap copy? ++ left, ∃ luck ∈ lucks, luck.place? w fs = some spare.1
  drawn : ∀ d luck, .waiting d luck ∈ state.2 → luck ∈ lucks
  tidy : (∀ luck ∈ lucks, luck.undeleted = none) → left = [] ∧ ∀ t ∈ state.2, t.Tidy

theorem Kept.root {lucks : List Luck} {state : Scene × List Task} (kept : Kept w fs lucks left state) :
    Files.spareRoot state.1.files w.spareDirectory = fs.spareRoot w.spareDirectory := by
  refine kept.files.root fun some => ?_
  obtain ⟨spare,inside⟩ := List.exists_mem_of_ne_nil _ some
  obtain ⟨luck,_,found⟩ := kept.placed spare inside
  obtain ⟨root,_,rooted,_⟩ := Luck.place?_cases found
  exact ⟨root,rooted⟩

theorem Kept.site {lucks : List Luck} {state : Scene × List Task} (kept : Kept w fs lucks left state) (luck : Luck) :
    luck.place? w state.1.files = luck.place? w fs := by
  rw [Luck.place?,kept.root,Luck.place?]

theorem copies_split (before after : List Task) (t : Task) (left : List (Place × Bytes)) :
    List.Perm ((before ++ t :: after).filterMap copy? ++ left)
      (t.copy?.toList ++ (before.filterMap copy? ++ after.filterMap copy? ++ left)) := by
  cases waits : t.copy? with
  | none => simp [waits]
  | some spare => simp [waits]

theorem Step.kept {lucks : List Luck} {state next : Scene × List Task} (step : Step w state next)
    (kept : Kept w fs lucks left state) : ∃ left, Kept w fs lucks left next := by
  cases step with
  | @turn s s' t t' before after fits turned =>
    have site := kept.site
    obtain ⟨runs,files,placed,drawn,tidy⟩ := kept
    have first := copies_split before after t left
    obtain ⟨more,beside,origin,cleans⟩ := turn_spares turned fits (files.shuffle first)
    have aside := List.perm_append_comm_assoc more (before.filterMap copy? ++ after.filterMap copy?) left
    have last := (aside.append_left _).trans (copies_split before after t' (more ++ left)).symm
    simp only [List.mem_append,List.mem_cons] at drawn
    refine ⟨more ++ left,turn_runs turned runs,beside.shuffle last,?_,?_,?_⟩
    · intro spare inside
      have known : spare ∈ t'.copy?.toList ++ more ∨ spare ∈ before.filterMap copy? ++ after.filterMap copy? ++ left := by
        rwa [← List.mem_append,List.append_assoc,last.mem_iff]
      rcases known with here | there
      · rcases origin spare here with held | ⟨d,luck,rfl,found⟩
        · exact placed spare (first.mem_iff.mpr (List.mem_append_left _ held))
        · exact ⟨luck,drawn d luck (.inr (.inl rfl)),(site luck).symm.trans found⟩
      · exact placed spare (first.mem_iff.mpr (List.mem_append_right _ there))
    · intro d luck inside
      simp only [List.mem_append,List.mem_cons] at inside
      obtain earlier | rfl | later := inside
      · exact drawn d luck (.inl earlier)
      · exact absurd rfl (turn_begun turned d luck)
      · exact drawn d luck (.inr (.inr later))
    · intro clean
      obtain ⟨rfl,all⟩ := tidy clean
      simp only [List.forall_mem_append,List.forall_mem_cons] at all ⊢
      obtain ⟨rfl,next⟩ := cleans all.2.1
      exact ⟨rfl,all.1,next,all.2.2⟩

theorem Steps.kept {lucks : List Luck} {state next : Scene × List Task} (steps : Steps w state next)
    (kept : Kept w fs lucks left state) : ∃ left, Kept w fs lucks left next := by
  induction steps with
  | refl => exact ⟨left,kept⟩
  | tail _ step ih =>
    obtain ⟨left,kept⟩ := ih
    exact step.kept kept

theorem turn_input (turned : t.turn w s = some (s',t')) : t'.document.input = t.document.input := by
  cases t with
  | done d =>
    cases turned
    rfl
  | opening d v =>
    obtain ⟨_,rfl⟩ := turn_opening turned
    exact Document.follow_input d _
  | waiting d luck =>
    obtain ⟨_,_,rfl⟩ | ⟨files,stop,_,_,_,rfl⟩ := turn_waiting turned
    · rfl
    · cases stop with
      | ended c => exact Document.follow_input d c
      | opening v => rfl

theorem Steps.inputs {state next : Scene × List Task} (steps : Steps w state next) :
    next.2.map (·.document.input) = state.2.map (·.document.input) := by
  induction steps with
  | refl => rfl
  | tail _ step ih =>
    rw [← ih]
    cases step with
    | turn before after _ turned => simp only [List.map_append,List.map_cons,turn_input turned]

-- The turns of some documents among others.
theorem Steps.among {state next : Scene × List Task} (before after : List Task) (steps : Steps w state next) :
    Steps w (state.1,before ++ state.2 ++ after) (next.1,before ++ next.2 ++ after) := by
  refine steps.lift (fun state => (state.1,before ++ state.2 ++ after)) fun state next step => ?_
  cases step with
  | turn first last fits turned =>
    show Step w (_,before ++ (first ++ _ :: last) ++ after) (_,before ++ (first ++ _ :: last) ++ after)
    simpa using Step.turn (before ++ first) (last ++ after) fits turned

-- A document that has not yet had a turn.
def fresh (lot : Input × Luck) : Task := .waiting (.of lot.1) lot.2

theorem first_kept : Kept w fs (lots.map (·.2)) [] (⟨fs,none⟩,lots.map fresh) := by
  have none : (lots.map fresh).filterMap copy? ++ [] = [] := by
    simp [fresh,copy?]
  refine ⟨nofun,?_,?_,?_,?_⟩
  · rw [none]
    exact .refl fs
  · rw [none]
    exact List.forall_mem_nil _
  · intro d luck inside
    obtain ⟨lot,among,same⟩ := List.mem_map.mp inside
    cases same
    exact List.mem_map_of_mem among
  · intro clean
    refine ⟨rfl,fun t inside => ?_⟩
    obtain ⟨lot,among,rfl⟩ := List.mem_map.mp inside
    exact clean _ (List.mem_map_of_mem among)

end Task

theorem batches_flatten (size : Nat) (items : List α) : (batches size items).flatten = items := by
  induction length : items.length using Nat.strongRecOn generalizing items with
  | ind n ih =>
    cases items with
    | nil => rw [batches]; rfl
    | cons x more =>
      rw [batches,List.flatten_cons,List.cons_append,ih _ _ _ rfl,List.take_append_drop]
      rw [← length,List.length_cons,List.length_drop]
      omega

theorem batches_map (f : α → β) (size : Nat) (items : List α) :
    batches size (items.map f) = (batches size items).map (List.map f) := by
  induction length : items.length using Nat.strongRecOn generalizing items with
  | ind n ih =>
    cases items with
    | nil => rw [List.map_nil,batches,batches]; rfl
    | cons x more =>
      rw [List.map_cons,batches,batches,← List.map_take,← List.map_drop,ih _ _ _ rfl]
      · rfl
      · rw [← length,List.length_cons,List.length_drop]
        omega

-- Whatever is known of the items, they are batched in the same way.
theorem batches_lift {f : α → β} {all : List (List α)} {items : List β} (same : all.map (List.map f) = batches size items) :
    batches size all.flatten = all ∧ all.flatten.map f = items := by
  have flat : all.flatten.map f = items := by rw [List.map_flatten,same,batches_flatten]
  have batched := batches_map f size all.flatten
  rw [flat,← same] at batched
  have lengths := congrArg (List.map List.length) batched
  simp only [List.map_map,Function.comp_def,List.length_map] at lengths
  exact ⟨List.eq_iff_flatten_eq.mpr ⟨batches_flatten size _,lengths.symm⟩,flat⟩

namespace Run

-- One batch after another, each until all its documents are done.
inductive Processes (w : Workshop) : Scene → List (List (Input × Luck)) → Scene → List Document → Prop
  | nil (s : Scene) : Processes w s [] s []
  | cons {s s' s'' : Scene} {batch more ds ds'} (steps : Task.Steps w (s,batch.map .fresh) (s',ds.map .done))
    (rest : Processes w s' more s'' ds') : Processes w s (batch :: more) s'' (ds ++ ds')

theorem Processes.steps {all : List (List (Input × Luck))} {ds : List Document} (processes : Processes w s all s' ds) :
    Task.Steps w (s,all.flatten.map .fresh) (s',ds.map .done) := by
  induction processes with
  | nil => exact .refl
  | @cons s s' s'' batch more ds ds' steps rest ih =>
    have first := steps.among [] (more.flatten.map .fresh)
    have later := ih.among (ds.map .done) []
    simp only [List.nil_append,List.append_nil] at first later
    rw [List.flatten_cons,List.map_append,List.map_append]
    exact first.trans later

-- How the stages of a run may end, by what comes in and what the disk has in store.
def Ends (r : Run) (m : Machine) (fs : Files) (lots : List (Input × Luck)) (s : Scene) (ds : List Document) : Prop :=
  Processes (r.workshop m) ⟨fs,none⟩ (batches r.config.batchSize lots) s ds

theorem Ends.steps {r : Run} {ds : List Document} (ends : r.Ends m fs lots s ds) :
    Task.Steps (r.workshop m) (⟨fs,none⟩,lots.map .fresh) (s,ds.map .done) := by
  have steps := Processes.steps ends
  rwa [batches_flatten] at steps

-- The files are those at the beginning if the disk has kept none.
theorem Ends.files {r : Run} {ds : List Document} (ends : r.Ends m fs lots s ds)
    (fair : ∀ lot ∈ lots, lot.2.undeleted = none) : s.files = fs := by
  obtain ⟨left,_,beside,_,_,tidy⟩ := ends.steps.kept Task.first_kept
  obtain ⟨rfl,_⟩ := tidy (List.forall_mem_map.mpr fair)
  have none : (ds.map Task.done).filterMap Task.copy? = [] := by
    simp [Task.copy?]
  rw [none] at beside
  exact beside.same

theorem Ends.inputs {r : Run} {ds : List Document} (ends : r.Ends m fs lots s ds) :
    ds.map (·.input) = lots.map (·.1) := by
  have kept := ends.steps.inputs
  simp only [List.map_map,Function.comp_def] at kept
  exact kept

-- Every document is drawn a lot in which nothing goes wrong.
structure Draws (inputs : List Input) (lots : List (Input × Luck)) : Prop where
  inputs : lots.map (·.1) = inputs
  fair : ∀ lot ∈ lots, lot.2.undeleted = none

theorem firstTurns_steps {inputs : List Input} {ts : List Task} (turned : firstTurns w s (inputs.map .of) = some (s',ts)) :
    ∃ lots, Draws inputs lots ∧ (∀ before, Task.Steps w (s,before ++ lots.map .fresh) (s',before ++ ts)) ∧
      ∀ t ∈ ts, t.Begun := by
  induction inputs generalizing s ts with
  | nil =>
    cases turned
    exact ⟨[],⟨rfl,List.forall_mem_nil _⟩,fun _ => .refl,List.forall_mem_nil _⟩
  | cons i more ih =>
    obtain ⟨⟨s₁,t⟩,first,rest⟩ := Option.bind_eq_some_iff.mp turned
    obtain ⟨⟨s₂,ts'⟩,others,same⟩ := Option.bind_eq_some_iff.mp rest
    cases same
    obtain ⟨lots,⟨inputs,fair⟩,steps,begun⟩ := ih others
    refine ⟨(i,.fair w s.files) :: lots,⟨by rw [List.map_cons,inputs],?_⟩,fun before => ?_,?_⟩
    · exact List.forall_mem_cons.mpr ⟨rfl,fair⟩
    · have later := steps (before ++ [t])
      simp only [List.append_assoc,List.singleton_append] at later
      exact .head (.turn before (lots.map .fresh) (Luck.fair_fits w s.files) first) later
    · exact List.forall_mem_cons.mpr ⟨Task.turn_begun first,begun⟩

theorem nextTurns_steps {ts ts' : List Task} (begun : ∀ t ∈ ts, t.Begun)
    (turned : nextTurns w s ts = some (s',ts')) : (∀ before, Task.Steps w (s,before ++ ts) (s',before ++ ts')) ∧
      ts' = (ts'.map Task.document).map .done := by
  induction ts generalizing s ts' with
  | nil =>
    cases turned
    exact ⟨fun _ => .refl,rfl⟩
  | cons t more ih =>
    obtain ⟨⟨s₁,t'⟩,first,rest⟩ := Option.bind_eq_some_iff.mp turned
    obtain ⟨⟨s₂,more'⟩,others,same⟩ := Option.bind_eq_some_iff.mp rest
    cases same
    obtain ⟨here,after⟩ := List.forall_mem_cons.mp begun
    obtain ⟨steps,done⟩ := ih after others
    have ended : t.Fits w s.files ∧ t' = .done t'.document := by
      cases t with
      | waiting d luck => exact absurd rfl (here d luck)
      | opening d v =>
        obtain ⟨_,rfl⟩ := Task.turn_opening first
        exact ⟨trivial,rfl⟩
      | done d =>
        cases first
        exact ⟨trivial,rfl⟩
    refine ⟨fun before => ?_,?_⟩
    · have later := steps (before ++ [t'])
      simp only [List.append_assoc,List.singleton_append] at later
      exact .head (.turn before more ended.1 first) later
    · rw [List.map_cons,List.map_cons,← ended.2,← done]

theorem processBatch_steps {inputs : List Input} {ds : List Document} (processed : processBatch w s (inputs.map .of) = some (s',ds)) :
    ∃ lots, Draws inputs lots ∧ Task.Steps w (s,lots.map .fresh) (s',ds.map .done) := by
  obtain ⟨⟨s₁,ts⟩,first,rest⟩ := Option.bind_eq_some_iff.mp processed
  obtain ⟨⟨s₂,ts'⟩,next,same⟩ := Option.bind_eq_some_iff.mp rest
  cases same
  obtain ⟨lots,draws,steps,begun⟩ := firstTurns_steps first
  obtain ⟨more,done⟩ := nextTurns_steps begun next
  rw [← done]
  exact ⟨lots,draws,(steps []).trans (more [])⟩

theorem processAll_processes {all : List (List Input)} {ds : List Document}
    (processed : processAll w s (all.map (List.map .of)) = some (s',ds)) :
    ∃ lots, lots.map (List.map Prod.fst) = all ∧ (∀ lot ∈ lots.flatten, lot.2.undeleted = none) ∧ Processes w s lots s' ds := by
  induction all generalizing s ds with
  | nil =>
    cases processed
    exact ⟨[],rfl,List.forall_mem_nil _,.nil _⟩
  | cons batch more ih =>
    obtain ⟨⟨s₁,ds₁⟩,first,rest⟩ := Option.bind_eq_some_iff.mp processed
    obtain ⟨⟨s₂,ds₂⟩,others,same⟩ := Option.bind_eq_some_iff.mp rest
    cases same
    obtain ⟨lots,⟨inputs,fair⟩,steps⟩ := processBatch_steps first
    obtain ⟨lots',inputs',fair',processes⟩ := ih others
    refine ⟨lots :: lots',by rw [List.map_cons,inputs,inputs'],?_,.cons steps processes⟩
    rw [List.flatten_cons]
    exact List.forall_mem_append.mpr ⟨fair,fair'⟩

theorem processed_ends {r : Run} {inputs : List Input} {ds : List Document} (processed : r.processed m fs inputs = some (s,ds)) :
    ∃ lots, Draws (r.taken inputs) lots ∧ r.Ends m fs lots s ds := by
  rw [Run.processed,accepted,batches_map] at processed
  obtain ⟨lots,inputs,fair,processes⟩ := processAll_processes processed
  obtain ⟨batched,flat⟩ := batches_lift inputs
  refine ⟨lots.flatten,⟨flat,fair⟩,?_⟩
  rwa [Ends,batched]

end Run
end StyleTrim
