import StyleTrim.Proofs.Decoding
import StyleTrim.Proofs.Lifecycle
import StyleTrim.Proofs.Turns
namespace StyleTrim
open Text
variable {fs : Files} {i : Input} {l l' : Level} {luck luck' : Luck} {page : Dom} {s s' : Scene} {w w' : Workshop} {raw cause : Text}
  {f : Failure}

-- How much work is allowed matters for those documents alone that a browser has to show. For all others nothing is
-- opened, whatever is allowed; and where no browser can be launched, only the former fail for it.

-- The components that follow data on the page of a document, as far as it has one.
def Input.dataTags (room : Nat) (i : Input) : List Text :=
  ((i.text.toOption.bind fun raw => Amp.drawPageTo room (Dom.read raw)).map Amp.dataTagsOf).getD []

def Input.FollowsData (room : Nat) (i : Input) : Prop := i.dataTags room ≠ []

instance (room : Nat) (i : Input) : Decidable (i.FollowsData room) := inferInstanceAs (Decidable (i.dataTags room ≠ []))

theorem Input.followsData_page (follows : i.FollowsData w.room) : ∃ raw page, i.text = .ok raw ∧
    Amp.drawPageTo w.room (Dom.read raw) = some page ∧ Amp.dataTagsOf page ≠ [] := by
  unfold FollowsData dataTags at follows
  cases read : i.text with
  | error f => simp [read,Except.toOption] at follows
  | ok raw =>
    cases drawn : Amp.drawPageTo w.room (Dom.read raw) with
    | none => simp [read,Except.toOption,drawn] at follows
    | some page => exact ⟨raw,page,rfl,drawn,by simpa [read,Except.toOption,drawn] using follows⟩

theorem Input.dataTags_page (read : i.text = .ok raw) (drawn : Amp.drawPageTo w.room (Dom.read raw) = some page) :
    i.dataTags w.room = Amp.dataTagsOf page := by
  simp [dataTags,read,Except.toOption,drawn]

theorem Input.text_encode (read : i.text = .ok raw) : encode raw = i.contents := by
  unfold Input.text at read
  split at read
  · cases read
  · rename_i decoded
    split at read
    · cases read
    · cases read
      exact (decode_iff.mp decoded).symm

theorem Level.tier_needed (allowed : l ≠ .document) : l.tier true = .browser := by simp [tier,allowed]

theorem Level.tier_needless (l : Level) : l.tier false = .document := by simp [tier]

namespace Prepared

-- Of all that is learned from a page, the tier alone depends on what is allowed.
theorem cases_of (page : Dom) : ∃ sheet oracle warnings, ∀ l : Level, Prepared.of l page =
    ⟨sheet,oracle,⟨warnings,l.tier !(Amp.dataTagsOf page).isEmpty,!(Amp.dataTagsOf page).isEmpty⟩⟩ := by
  unfold Prepared.of
  generalize Css.read page.customStyleText = read
  obtain ⟨sheet,complaints⟩ := read
  exact ⟨sheet,_,_,fun _ => rfl⟩

theorem needless (none : Amp.dataTagsOf page = []) (l l' : Level) :
    Prepared.of l page = .of l' page ∧ (Prepared.of l page).learned.tier = .document := by
  obtain ⟨sheet,oracle,warnings,prepared⟩ := cases_of page
  rw [none] at prepared
  rw [prepared,prepared]
  simp [Level.tier_needless]

theorem needed (some : Amp.dataTagsOf page ≠ []) (allowed : l ≠ .document) (higher : l' ≠ .document) :
    Prepared.of l page = .of l' page ∧ (Prepared.of l page).learned.tier = .browser := by
  obtain ⟨sheet,oracle,warnings,prepared⟩ := cases_of page
  rw [show (!(Amp.dataTagsOf page).isEmpty) = true by simpa using some] at prepared
  rw [prepared,prepared,Level.tier_needed allowed,Level.tier_needed higher]
  exact ⟨rfl,rfl⟩

theorem plain (page : Dom) (l : Level) : (Prepared.of .document page).learned.tier = .document ∧
    (Prepared.of .document page).learned.warnings = (Prepared.of l page).learned.warnings := by
  obtain ⟨sheet,oracle,warnings,prepared⟩ := cases_of page
  rw [prepared,prepared]
  exact ⟨rfl,rfl⟩

end Prepared

namespace Document

theorem advance_first (w : Workshop) (luck : Luck) (s : Scene) (i : Input) :
    (of i).advance w luck s = (stages w luck s i).map fun left => (left.1,(of i).follow left.2) := advance_unfinished rfl w luck s

theorem prepare_drawn {room : Nat} (drawn : Amp.drawPageTo room (Dom.read raw) = some page) (l : Level) :
    prepare room l raw = some (.of l page) := by
  rw [prepare,drawn,Option.map_some]

-- The course of a document that no browser is needed for.
def plainCourse (w : Workshop) (raw : Text) (p : Prepared) : Course :=
  finish raw p.learned (Cleaning.byDocument w.whitelist p.sheet.classify p.learned.followsData p.oracle p.sheet)

-- A document that is worked on alone leaves everything around it as it is and depends on nothing there.
theorem stages_plain (read : i.text = .ok raw) (drawn : Amp.drawPageTo w.room (Dom.read raw) = some page)
    (plain : (Prepared.of w.level page).learned.tier = .document) (luck : Luck) (s : Scene) :
    stages w luck s i = some (s,plainCourse w raw (.of w.level page)) := by
  unfold stages depart
  simp only [read,prepare_drawn drawn,Option.bind_eq_bind,Option.bind_some,plain]
  rfl

theorem stages_needed (read : i.text = .ok raw) (drawn : Amp.drawPageTo w.room (Dom.read raw) = some page)
    (needed : (Prepared.of w.level page).learned.tier = .browser) (luck : Luck) (s : Scene) :
    stages w luck s i = some (match placePage w luck s.files i raw with
      | (fs,.error f) => (⟨fs,s.running⟩,.unopened (Prepared.of w.level page).learned f)
      | (fs,.ok (path,spare)) => arrive w ⟨fs,s.running⟩ ⟨raw,.of w.level page,path,spare⟩) := by
  unfold stages depart
  simp only [read,prepare_drawn drawn,Option.bind_eq_bind,Option.bind_some,needed]
  generalize placePage w luck s.files i raw = placed
  obtain ⟨fs,_ | _⟩ := placed <;> rfl

-- The level is looked at once, when the page is read.
theorem stages_level (read : i.text = .ok raw) (drawn : Amp.drawPageTo w.room (Dom.read raw) = some page)
    (same : Prepared.of l page = .of w.level page) (luck : Luck) (s : Scene) :
    stages {w with level := l} luck s i = stages w luck s i := by
  unfold stages depart
  simp only [read,prepare_drawn drawn,Option.bind_eq_bind,Option.bind_some,same]
  rfl

-- Why its page is not open, if no browser can be launched: for that, unless a spare file is needed and cannot be made
-- or filled.
inductive Unopened (w : Workshop) (luck : Luck) (s : Scene) (i : Input) (cause : Text) : Failure → Prop
  | browser (placed : i.path = none → ∃ fs spare, makeSpare w luck s.files i.contents = (fs,.ok spare)) :
    Unopened w luck s i cause ⟨.browser,cause⟩
  | unmade {fs : Files} {refusal : Text} (memory : i.path = none)
    (refused : makeSpare w luck s.files i.contents = (fs,.error ⟨.resource,("cannot create temporary file: " : Text) ++ refusal⟩)) :
    Unopened w luck s i cause ⟨.resource,("cannot create temporary file: " : Text) ++ refusal⟩
  | unfilled {fs : Files} {p refusal : Text} (memory : i.path = none)
    (refused : makeSpare w luck s.files i.contents = (fs,.error ⟨.resource,("cannot write " : Text) ++ p ++ ": " ++ refusal⟩)) :
    Unopened w luck s i cause ⟨.resource,("cannot write " : Text) ++ p ++ ": " ++ refusal⟩

-- What becomes of a document that no browser could show.
structure GivenUp (w : Workshop) (luck : Luck) (s : Scene) (i : Input) (cause : Text) (left : Scene × Document) : Prop where
  scene : left.1 = s
  status : left.2.status = .failed
  timeline : left.2.timeline = [.instantiated,.started,.failed]
  failure : ∃ f, left.2.failure = some f ∧ Unopened w luck s i cause f
  tier : left.2.tier = some .browser
  output : left.2.outputBytes = i.contents
  removals : left.2.removals = .none
  warnings : ∃ plain, (of i).advance {w with level := .document} luck s = some plain ∧ left.2.warnings = plain.2.warnings

theorem follow_unopened (read : i.text = .ok raw) (drawn : Amp.drawPageTo w.room (Dom.read raw) = some page)
    (needed : (Prepared.of w.level page).learned.tier = .browser) (unopened : Unopened w luck s i cause f) :
    GivenUp w luck s i cause (s,(of i).follow (.unopened (Prepared.of w.level page).learned f)) := by
  refine ⟨rfl,rfl,rfl,⟨f,rfl,unopened⟩,congrArg some needed,rfl,rfl,?_⟩
  obtain ⟨plain,same⟩ := Prepared.plain page w.level
  have first := stages_plain (w := {w with level := .document}) read drawn plain luck s
  refine ⟨(s,(of i).follow (plainCourse {w with level := .document} raw (.of .document page))),?_,same.symm⟩
  rw [advance_first,first,Option.map_some]

theorem openFile_unlaunched (launch : w.browser.launch = .error cause) (fs : Files) (p : Path) :
    w.browser.openFile none fs p = (none,.error cause) := by
  unfold Browser.openFile Browser.session
  rw [launch]

theorem arrive_unlaunched {v : Visit} (launch : w.browser.launch = .error cause)
    (tidy : v.spare.bind Spare.complaint? = none) : arrive w ⟨fs,none⟩ v =
      (⟨(v.spare.map (·.drop fs)).getD fs,none⟩,.unopened v.prepared.learned ⟨.browser,cause⟩) := by
  unfold arrive
  rw [openFile_unlaunched launch,tidy]
  simp

-- What comes of a spare file on a disk that lets go of it.
theorem makeSpare_cases (fits : luck.Fits w fs) (tidy : luck.undeleted = none) (contents : Bytes) :
    (∃ refusal, makeSpare w luck fs contents = (fs,.error ⟨.resource,("cannot create temporary file: " : Text) ++ refusal⟩)) ∨
    (∃ p refusal, makeSpare w luck fs contents = (fs,.error ⟨.resource,("cannot write " : Text) ++ p ++ ": " ++ refusal⟩)) ∨
    ∃ place p, fs.entry? place = none ∧ place ≠ [] ∧
      makeSpare w luck fs contents = (fs.put place (.file contents),.ok ⟨place,p,none⟩) := by
  unfold makeSpare
  cases rooted : fs.spareRoot w.spareDirectory with
  | error cause => exact .inl ⟨_,rfl⟩
  | ok root =>
    dsimp only
    cases attempt : luck.attempt with
    | refused cause => exact .inl ⟨_,rfl⟩
    | broken mark part cause =>
      have vacant := fits.vacant _ (Luck.place?_drawn rooted (by rw [attempt]; rfl))
      dsimp only
      rw [Spare.drop,if_neg (by simp [spareAt,tidy]),spareAt_place,Files.erase_put vacant (List.cons_ne_nil _ _)]
      exact .inr (.inl ⟨_,_,rfl⟩)
    | written mark =>
      have vacant := fits.vacant _ (Luck.place?_drawn rooted (by rw [attempt]; rfl))
      refine .inr (.inr ⟨_,(spareAt w luck fs root mark).path,vacant,List.cons_ne_nil _ _,?_⟩)
      simp only [spareAt,tidy]

theorem stages_unlaunched (launch : w.browser.launch = .error cause) (idle : s.running = none) (read : i.text = .ok raw)
    (drawn : Amp.drawPageTo w.room (Dom.read raw) = some page) (needed : (Prepared.of w.level page).learned.tier = .browser)
    (tidy : luck.undeleted = none) (fits : luck.Fits w s.files) :
    ∃ f, stages w luck s i = some (s,.unopened (Prepared.of w.level page).learned f) ∧ Unopened w luck s i cause f := by
  have first : s = ⟨s.files,none⟩ := by rw [← idle]
  rw [stages_needed read drawn needed,placePage,idle]
  cases path : i.path with
  | some p =>
    refine ⟨_,?_,.browser fun memory => by simp [path] at memory⟩
    dsimp only
    rw [arrive_unlaunched launch rfl]
    exact congrArg some (Prod.ext first.symm rfl)
  | none =>
    dsimp only
    rw [Input.text_encode read]
    obtain ⟨refusal,made⟩ | ⟨p,refusal,made⟩ | ⟨place,p,vacant,named,made⟩ := makeSpare_cases fits tidy i.contents
    · rw [made]
      exact ⟨_,congrArg some (Prod.ext first.symm rfl),.unmade path made⟩
    · rw [made]
      exact ⟨_,congrArg some (Prod.ext first.symm rfl),.unfilled path made⟩
    · refine ⟨_,?_,.browser fun _ => ⟨_,_,made⟩⟩
      rw [made]
      dsimp only
      rw [arrive_unlaunched launch rfl]
      have gone : Spare.drop ⟨place,p,none⟩ (s.files.put place (.file i.contents)) = s.files := Files.erase_put vacant named _
      rw [Option.map_some,Option.getD_some,gone]
      exact congrArg some (Prod.ext first.symm rfl)

theorem stages_needless (needless : ¬ i.FollowsData w.room) (rooms : w.room = w'.room) (lists : w.whitelist = w'.whitelist)
    (luck luck' : Luck) (s s' : Scene) :
    stages w luck s i = (stages w' luck' s' i).map fun left => (s,left.2) := by
  cases read : i.text with
  | error f =>
    have refused (w : Workshop) (luck : Luck) (s : Scene) : stages w luck s i = some (s,.refused f) := by
      unfold stages depart
      rw [read]
      rfl
    rw [refused,refused]
    rfl
  | ok raw =>
    cases drawn : Amp.drawPageTo w.room (Dom.read raw) with
    | none =>
      have stuck (v : Workshop) (same : w.room = v.room) (luck : Luck) (s : Scene) : stages v luck s i = none := by
        unfold stages depart prepare
        simp only [read,← same,drawn]
        rfl
      rw [stuck w rfl,stuck w' rooms]
      rfl
    | some page =>
      have none : Amp.dataTagsOf page = [] := by
        rw [← Input.dataTags_page read drawn]
        exact not_not.mp needless
      obtain ⟨same,plain⟩ := Prepared.needless none w.level w'.level
      rw [stages_plain read drawn plain,stages_plain read (rooms ▸ drawn) (same ▸ plain),same,Option.map_some,plainCourse,lists]
      rfl

theorem level_matters_with_data (i : Input) :
    (∀ w, ¬ i.FollowsData w.room → ∀ w', w.room = w'.room → w.whitelist = w'.whitelist → ∀ luck luck' s s',
      (of i).advance w luck s = ((of i).advance w' luck' s').map fun left => (s,left.2)) ∧
    (∀ w, i.FollowsData w.room → w.level ≠ .document → ∀ luck s,
      (∀ level ≠ .document, (of i).advance {w with level := level} luck s = (of i).advance w luck s) ∧
      ∀ cause, w.browser.launch = .error cause → s.running = none → luck.undeleted = none → luck.Fits w s.files →
        ∃ left, (of i).advance w luck s = some left ∧ GivenUp w luck s i cause left) := by
  refine ⟨fun w needless w' rooms lists luck luck' s s' => ?_,fun w follows allowed luck s => ?_⟩
  · rw [advance_first,advance_first,stages_needless needless rooms lists luck luck' s s']
    simp only [Option.map_map]
    rfl
  · obtain ⟨raw,page,read,drawn,some⟩ := Input.followsData_page follows
    refine ⟨fun level higher => ?_,fun cause launch idle tidy fits => ?_⟩
    · rw [advance_first,advance_first,stages_level read drawn (Prepared.needed some higher allowed).1]
    · have needed := (Prepared.needed some allowed allowed).2
      obtain ⟨f,ran,unopened⟩ := stages_unlaunched launch idle read drawn needed tidy fits
      rw [advance_first,ran]
      exact ⟨_,rfl,follow_unopened read drawn needed unopened⟩

def feed : Input := .ofMemory "feed.html" (encode "<amp-list></amp-list>")
def note : Input := .ofMemory "note.html" (encode "<p></p>")

-- Without a browser, and with a spare directory that is there or not.
def unlaunched (l : Level) (spare : Path) : Workshop := ⟨.bare 1,l,.empty,some spare⟩
def atRest : Scene := ⟨.empty,none⟩
def written : Luck := ⟨.written "x",none⟩

theorem level_matters_for_feed :
    (of note).advance (unlaunched .document "/tmp") written atRest =
      ((of note).advance (unlaunched .thorough "/none") written atRest).map (fun left => (atRest,left.2)) ∧
    (of feed).advance (unlaunched .thorough "/tmp") written atRest = (of feed).advance (unlaunched .browser "/tmp") written atRest ∧
    ∃ cause left, Browser.missing.launch = .error cause ∧ (of feed).advance (unlaunched .browser "/tmp") written atRest = some left ∧
      GivenUp (unlaunched .browser "/tmp") written atRest feed cause left := by
  have needless : ¬ note.FollowsData 1 := by decide +kernel
  have follows : feed.FollowsData 1 := by decide +kernel
  have alike := (level_matters_with_data note).1 (unlaunched .document "/tmp") needless (unlaunched .thorough "/none") rfl rfl
  have allowed : (unlaunched .browser "/tmp").level ≠ .document := nofun
  have fits : written.Fits (unlaunched .browser "/tmp") atRest.files := by
    have aim : written.place? (unlaunched .browser "/tmp") atRest.files = some ([("amp-uncss-x.html" : Text),("tmp" : Text)] : Place) := by
      decide +kernel
    refine ⟨fun place found => ?_,fun mark drawn => ?_⟩
    · rw [aim] at found
      cases found
      rfl
    · cases drawn
      decide
  obtain ⟨levels,fails⟩ := (level_matters_with_data feed).2 (unlaunched .browser "/tmp") follows allowed written atRest
  obtain ⟨left,ran,given⟩ := fails _ rfl rfl rfl fits
  exact ⟨alike written written atRest atRest,levels .thorough nofun,_,left,rfl,ran,given⟩

end Document
end StyleTrim
