import StyleTrim.Proofs.Turns
namespace StyleTrim.Run
open Text

-- Outputs are written one after the other, under names that documents may have in common. What a file holds in
-- the end is what was written to its place last, and nobody who was written over learns of it.

theorem save_resource {fs fs' : Files} {p : Path} {contents : Bytes} {f : Failure}
    (failed : save fs p contents = (fs',.error f)) : f.kind = .resource := by
  unfold save at failed
  split at failed
  · rename_i blocked
    cases failed
    unfold makeRoom at blocked
    split at blocked
    · cases blocked
    · rcases made : fs.ensureDirectories (Path.directoriesOf p) with ⟨_,cause|_⟩ <;> rw [made] at blocked <;> cases blocked
      rfl
  · split at failed
    · cases failed
    · cases failed
      rfl

-- Where the output of a document is written, once there is room for it.
def destination? (r : Run) (fs : Files) (d : Document) : Option Place :=
  match makeRoom fs (r.config.outputPath d.input.name) with
  | (_,.error _) => none
  | (fs,.ok ()) => (fs.target (r.config.outputPath d.input.name)).toOption

theorem makeRoom_widens (fs : Files) (p : Path) : fs.Widens (makeRoom fs p).1 := by
  unfold makeRoom
  split
  · exact .refl fs
  · exact Files.ensureDirectories_widens fs _

-- A document is written as it is, or it fails and only directories are new.
inductive Delivered (r : Run) (fs : Files) (d : Document) : Option Place → Files × Document → Prop
  | written {room place} (widens : fs.Widens room) (found : room.target (r.config.outputPath d.input.name) = .ok place) :
    Delivered r fs d (some place) (room.put place (.file d.outputBytes),d)
  | unwritten {room f} (widens : fs.Widens room) (kind : f.kind = .resource) : Delivered r fs d none (room,d.fail f)

theorem deliver_cases (r : Run) (fs : Files) (d : Document) : Delivered r fs d (r.destination? fs d) (r.deliver fs d) := by
  have widens := makeRoom_widens fs (r.config.outputPath d.input.name)
  have resource {fs' f} := @save_resource fs fs' (r.config.outputPath d.input.name) d.outputBytes f
  unfold destination? deliver
  unfold save at resource ⊢
  rcases made : makeRoom fs (r.config.outputPath d.input.name) with ⟨room,f|_⟩
  · rw [made] at widens resource
    exact .unwritten widens (resource rfl)
  · rw [made] at widens resource
    dsimp only at resource ⊢
    unfold Files.write at resource ⊢
    cases found : room.target (r.config.outputPath d.input.name) with
    | ok place => exact .written widens found
    | error cause =>
      rw [found] at resource
      exact .unwritten widens (resource rfl)

theorem Delivered.grows {r : Run} {fs fs' : Files} {d d' : Document} {aim : Option Place}
    (delivered : Delivered r fs d aim (fs',d')) : fs.Grows fs' := by
  cases delivered with
  | written widens found => exact widens.grows.trans (Files.put_grows (Files.target_open found) _)
  | unwritten widens _ => exact widens.grows

-- What is written, in order.
def writes (r : Run) (fs : Files) : List Document → List (Place × Bytes)
  | [] => []
  | d :: more => ((r.destination? fs d).map (·,d.outputBytes)).toList ++ writes r (r.deliver fs d).1 more

theorem deliverAll_grows (r : Run) (fs : Files) (ds : List Document) : fs.Grows (r.deliverAll fs ds).1 := by
  induction ds generalizing fs with
  | nil => exact .refl fs
  | cons d more ih => exact (deliver_cases r fs d).grows.trans (ih _)

-- A file holds what was written to its place last, and what it held before if nothing was.
theorem deliverAll_entry {fs : Files} {place : Place} {contents : Bytes} (r : Run) (ds : List Document)
    (there : fs.entry? place = some (.file contents)) :
    Files.entry? (r.deliverAll fs ds).1 place = some (.file (((r.writes fs ds).reverse.lookup place).getD contents)) := by
  induction ds generalizing fs contents with
  | nil => exact there
  | cons d more ih =>
    have step := deliver_cases r fs d
    show Files.entry? (r.deliverAll (r.deliver fs d).1 more).1 place = _
    rw [writes]
    generalize r.destination? fs d = aim at step ⊢
    generalize r.deliver fs d = left at step ⊢
    cases step with
    | unwritten widens _ => exact ih (widens.entry _ _ there)
    | written widens found =>
      rename_i room other
      have last : (Option.map (·,d.outputBytes) (some other)).toList = [(other,d.outputBytes)] := rfl
      rw [last,List.reverse_append,List.reverse_singleton,List.lookup_append,List.lookup_cons]
      by_cases same : place = other
      · have here : Files.entry? (room.put other (.file d.outputBytes)) place = some (.file d.outputBytes) := by
          rw [same,Files.put_here (Files.target_named found)]
        rw [ih here,beq_iff_eq.mpr same]
        cases (r.writes (room.put other (.file d.outputBytes)) more).reverse.lookup place <;> rfl
      · have kept : Files.entry? (room.put other (.file d.outputBytes)) place = some (.file contents) := by
          rw [Files.put_other same]
          exact widens.entry _ _ there
        rw [ih kept,beq_false_of_ne same]
        cases (r.writes (room.put other (.file d.outputBytes)) more).reverse.lookup place <;> rfl

-- How a document fares, by its destination and by what is written after it: it is reported as it is and its file
-- holds what was written there last, or it is given up because it could not be written. If it had failed before,
-- that does not show.
inductive Fares (r : Run) (final : Files) (later : List (Place × Bytes)) (d : Document) : Option Place → DocumentReport → Prop
  | written {place}
    (held : final.read (r.config.outputPath d.input.name) = .ok ((later.reverse.lookup place).getD d.outputBytes)) :
    Fares r final later d (some place) d.report
  | unwritten {f} (kind : f.kind = .resource) : Fares r final later d none (d.fail f).report

-- How all documents fare, each when it is its turn.
inductive Arrives (r : Run) (final : Files) : Files → List Document → List DocumentReport → Prop
  | nil {fs} : Arrives r final fs [] []
  | cons {fs d e more entries} (fares : Fares r final (r.writes (r.deliver fs d).1 more) d (r.destination? fs d) e)
    (rest : Arrives r final (r.deliver fs d).1 more entries) : Arrives r final fs (d :: more) (e :: entries)

theorem deliverAll_arrives (r : Run) (fs : Files) (ds : List Document) :
    Arrives r (r.deliverAll fs ds).1 fs ds ((r.deliverAll fs ds).2.map (·.report)) := by
  induction ds generalizing fs with
  | nil => exact .nil
  | cons d more ih =>
    refine .cons ?_ (ih _)
    have step := deliver_cases r fs d
    show Fares r (r.deliverAll (r.deliver fs d).1 more).1 _ d _ (r.deliver fs d).2.report
    generalize r.destination? fs d = aim at step ⊢
    generalize r.deliver fs d = left at step ⊢
    cases step with
    | unwritten widens kind => exact .unwritten kind
    | written widens found =>
      have grows := (Files.put_grows (Files.target_open found) d.outputBytes).trans (deliverAll_grows r _ more)
      exact .written (Files.target_read found grows (deliverAll_entry r more (Files.put_here (Files.target_named found) _)))

theorem outputs_last {r : Run} {m : Machine} {fs : Files} {inputs : List Input} {left : Files × Outcome}
    (listed : r.config.isStreamable = false) (ran : r.perform m fs inputs = some left) :
    ∃ s ds, r.processed m fs inputs = some (s,ds) ∧ Arrives r left.1 fs ds left.2.report.files := by
  obtain ⟨⟨s,ds⟩,processed,same⟩ := Option.map_eq_some_iff.mp ran
  obtain ⟨lots,draws,ends⟩ := processed_ends processed
  have closed : r.close s.files ds = ((r.deliverAll s.files ds).1,⟨r.reported (r.deliverAll s.files ds).2,none⟩) :=
    if_neg (Bool.eq_false_iff.mp listed)
  dsimp only at same
  rw [closed,ends.files draws.fair] at same
  rw [← same]
  exact ⟨s,ds,processed,deliverAll_arrives r fs ds⟩

def standard : Run := ⟨.standard,.empty,rfl⟩

-- Two documents of one name, both blank. They fail for that and for nothing else, but only the second one is kept.
def twins : List Input := [.ofMemory "a.html" [32],.ofMemory "a.html" [32,32]]

theorem twins_clash : standard.config.isStreamable = false ∧ ∃ left, standard.perform (.bare 1) .empty twins = some left ∧
    (∃ s ds, standard.processed (.bare 1) .empty twins = some (s,ds) ∧ Arrives standard left.1 .empty ds left.2.report.files) ∧
    left.1.read "dist/a.html" = .ok [32,32] ∧
    left.2.report.files.map (·.failure) = [some ("parse error: input is empty" : Text),some ("parse error: input is empty" : Text)] := by
  have ended : (standard.perform (.bare 1) .empty twins).map (fun left => (left.1.read "dist/a.html",left.2.report.files.map (·.failure))) =
      some (.ok [32,32],[some ("parse error: input is empty" : Text),some ("parse error: input is empty" : Text)]) := by
    decide +kernel
  obtain ⟨left,ran,same⟩ := Option.map_eq_some_iff.mp ended
  obtain ⟨kept,failed⟩ := Prod.mk.inj same
  exact ⟨rfl,left,ran,outputs_last rfl ran,kept,failed⟩

end StyleTrim.Run
