import StyleTrim.Proofs.Deliveries
namespace StyleTrim.Run
open Text
variable {d : Document} {m : Machine} {fs : Files} {lots : List (Input × Luck)} {p : Path} {place : Place} {r : Run}
  {inputs : List Input}

-- Which files a run may change. A disk may refuse at any point what is written to it. All that is left of a run,
-- however it goes, is at the places of its outputs.

-- What becomes of the output of a document. A directory above it may be refused, so that only those further up are
-- made, or what is written to its place ends before all is there.
inductive Lands (r : Run) (fs : Files) (d : Document) : Files × Document → Prop
  | whole : Lands r fs d (r.deliver fs d)
  | unmade {above f} (outer : above <:+ Path.directoriesOf (r.config.outputPath d.input.name)) (kind : f.kind = .resource) :
    Lands r fs d ((fs.ensureDirectories above).1,d.fail f)
  | refused {room f} {place : Place} (made : makeRoom fs (r.config.outputPath d.input.name) = (room,.ok ()))
    (found : room.target (r.config.outputPath d.input.name) = .ok place) (part : Bytes) (kind : f.kind = .resource) :
    Lands r fs d (room.put place (.file part),d.fail f)

inductive LandsAll (r : Run) : Files → List Document → Files → List Document → Prop
  | nil (fs : Files) : LandsAll r fs [] fs []
  | cons {fs fs' : Files} {d more left ds} (one : Lands r fs d left) (rest : LandsAll r left.1 more fs' ds) :
    LandsAll r fs (d :: more) fs' (left.2 :: ds)

theorem landsAll_whole (r : Run) (fs : Files) (ds : List Document) :
    LandsAll r fs ds (r.deliverAll fs ds).1 (r.deliverAll fs ds).2 := by
  induction ds generalizing fs with
  | nil => exact .nil fs
  | cons d more ih => exact .cons .whole (ih _)

-- The only file that an output can change is the one that its path leads to from then on.
structure Confined (p : Path) (fs fs' : Files) : Prop where
  grows : fs.Grows fs'
  changed : ∀ q c, (fs'.entry? q = some (.file c) ↔ fs.entry? q = some (.file c)) ∨
    fs'.target p = .ok q ∧ ∃ c', fs'.entry? q = some (.file c')

theorem makeRoom_confined (fs : Files) (p : Path) : Confined p fs (makeRoom fs p).1 := by
  refine ⟨(makeRoom_widens fs p).grows,fun q c => .inl ?_⟩
  unfold makeRoom
  split
  · exact Iff.rfl
  · exact Files.ensureDirectories_files fs _

theorem Confined.put {room : Files} (confined : Confined p fs room) (found : room.target p = .ok place) (part : Bytes) :
    Confined p fs (room.put place (.file part)) := by
  have grows := Files.put_grows (Files.target_open found) part
  have here : Files.entry? (room.put place (.file part)) place = some (.file part) := Files.put_here (Files.target_named found) _
  refine ⟨confined.grows.trans grows,fun q c => ?_⟩
  by_cases same : q = place
  · rw [same]
    exact .inr ⟨Files.target_stays found grows here,part,here⟩
  · rcases confined.changed q c with kept | ⟨there,c',file⟩
    · exact .inl (by rw [Files.put_other same,kept])
    · rw [found] at there
      cases there
      exact absurd rfl same

theorem save_confined (fs : Files) (p : Path) (contents : Bytes) : Confined p fs (save fs p contents).1 := by
  have room := makeRoom_confined fs p
  unfold save
  rcases made : makeRoom fs p with ⟨fs',f | _⟩ <;> rw [made] at room
  · exact room
  · dsimp only
    unfold Files.write
    cases found : fs'.target p with
    | error cause => exact room
    | ok place => exact room.put found contents

theorem Lands.confined {left : Files × Document} (lands : Lands r fs d left) :
    Confined (r.config.outputPath d.input.name) fs left.1 := by
  cases lands with
  | whole =>
    have saved := save_confined fs (r.config.outputPath d.input.name) d.outputBytes
    unfold deliver
    split <;> rename_i written <;> rwa [written] at saved
  | unmade =>
    exact ⟨(Files.ensureDirectories_widens fs _).grows,fun q c => .inl (Files.ensureDirectories_files fs _)⟩
  | refused made found part =>
    have room := makeRoom_confined fs (r.config.outputPath d.input.name)
    rw [made] at room
    exact room.put found part

-- A file to which an output led is that of the same output in the end.
theorem LandsAll.elsewhere {ds ds' : List Document} {final : Files} (lands : LandsAll r fs ds final ds') :
    fs.Grows final ∧ ∀ q c, (∀ d ∈ ds, final.target (r.config.outputPath d.input.name) ≠ .ok q) →
      (final.entry? q = some (.file c) ↔ fs.entry? q = some (.file c)) := by
  induction lands with
  | nil fs => exact ⟨.refl fs,fun _ _ _ => Iff.rfl⟩
  | @cons fs final d more left ds' one rest ih =>
    obtain ⟨grows,changed⟩ := one.confined
    obtain ⟨later,ih⟩ := ih
    refine ⟨grows.trans later,fun q c elsewhere => ?_⟩
    obtain ⟨here,after⟩ := List.forall_mem_cons.mp elsewhere
    refine (ih q c after).trans ?_
    rcases changed q c with kept | ⟨found,c',file⟩
    · exact kept
    · obtain ⟨c'',still⟩ := later.file q c' file
      exact absurd (Files.target_stays found later still) here

-- A run as it may go, and the documents before anything is delivered.
inductive Performs (r : Run) (m : Machine) (fs : Files) (inputs : List Input) :
    List (Input × Luck) → List Document → Files × Outcome → Prop
  | streamed {lots s ds} (alone : r.config.isStreamable = true) (taken : lots.map (·.1) = r.taken inputs)
    (ends : r.Ends m fs lots s ds) : Performs r m fs inputs lots ds (s.files,⟨r.reported ds,ds.head?.map (·.stream)⟩)
  | listed {lots s ds final ds'} (all : r.config.isStreamable = false) (taken : lots.map (·.1) = r.taken inputs)
    (ends : r.Ends m fs lots s ds) (lands : LandsAll r s.files ds final ds') :
    Performs r m fs inputs lots ds (final,⟨r.reported ds',none⟩)

-- The program runs in one of these ways, on a disk that refuses nothing.
theorem perform_performs {left : Files × Outcome} (ran : r.perform m fs inputs = some left) :
    ∃ lots ds, (∀ lot ∈ lots, lot.2.undeleted = none) ∧ r.Performs m fs inputs lots ds left := by
  obtain ⟨⟨s,ds⟩,processed,same⟩ := Option.map_eq_some_iff.mp ran
  obtain ⟨lots,⟨taken,fair⟩,ends⟩ := processed_ends processed
  refine ⟨lots,ds,fair,?_⟩
  dsimp only at same
  rw [← same]
  unfold close
  split
  · exact .streamed ‹_› taken ends
  · exact .listed (Bool.eq_false_iff.mpr ‹_›) taken ends (landsAll_whole r _ _)

theorem other_files_stay (r : Run) (m : Machine) (fs : Files) (inputs : List Input) :
    (∀ left, r.perform m fs inputs = some left →
      ∃ lots ds, (∀ lot ∈ lots, lot.2.undeleted = none) ∧ r.Performs m fs inputs lots ds left) ∧
    ∀ lots, (∀ lot ∈ lots, lot.2.undeleted = none) → (∀ s ds, r.Ends m fs lots s ds → s.files = fs) ∧
      ∀ ds left, r.Performs m fs inputs lots ds left → ∀ q c,
        (r.config.isStreamable = false → ∀ i ∈ inputs, left.1.target (r.config.outputPath i.name) ≠ .ok q) →
        ( Files.entry? left.1 q = some (.file c) ↔ fs.entry? q = some (.file c)) := by
  refine ⟨fun left => perform_performs,fun lots fair => ⟨fun s ds ends => ends.files fair,?_⟩⟩
  intro ds left performs q c elsewhere
  cases performs with
  | streamed alone taken ends => rw [ends.files fair]
  | listed all taken ends lands =>
    rw [ends.files fair] at lands
    refine lands.elsewhere.2 q c fun d among => elsewhere all d.input ?_
    have known := List.mem_map_of_mem (f := (·.input)) among
    rwa [ends.inputs,taken,Run.taken,if_neg (Bool.eq_false_iff.mp all)] at known

def thorough : Run := ⟨{Config.standard with level := .thorough},.empty,rfl⟩

-- A file beside the outputs, and a document that no browser can show.
def beside : Files := Files.empty.put ["kept.html","work","tmp"] (.file [104,105])
def unshown : List Input := [.ofMemory "feed.html" (encode "<amp-list></amp-list>")]

theorem other_files_stay_beside : ∃ left, thorough.perform (.bare 1) beside unshown = some left ∧
    ∃ lots ds, thorough.Performs (.bare 1) beside unshown lots ds left ∧
      Files.entry? left.1 ["kept.html","work","tmp"] = some (.file [104,105]) := by
  have aims : (thorough.perform (.bare 1) beside unshown).map (fun left =>
      unshown.map fun i => left.1.target (thorough.config.outputPath i.name)) = some [.ok ["feed.html","dist","work","tmp"]] := by
    decide +kernel
  obtain ⟨left,ran,aims⟩ := Option.map_eq_some_iff.mp aims
  obtain ⟨goes,stay⟩ := other_files_stay thorough (.bare 1) beside unshown
  obtain ⟨lots,ds,fair,performs⟩ := goes left ran
  refine ⟨left,ran,lots,ds,performs,((stay lots fair).2 ds left performs _ _ fun _ i among => ?_).mpr rfl⟩
  have aim := List.mem_map_of_mem (f := fun i => left.1.target (thorough.config.outputPath i.name)) among
  rw [aims,List.mem_singleton] at aim
  rw [aim]
  decide

end StyleTrim.Run
