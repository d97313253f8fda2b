import StyleTrim.Document.Stages
import StyleTrim.Proofs.Decoding
namespace StyleTrim
open Text

-- What becomes of a document, whoever calls for it and however far its stages get.

-- The failure that the stages end with.
def Course.failure? : Course → Option Failure
  | .refused f | .unread f | .unopened _ f | .unwritten _ _ f => some f
  | .finished _ _ _ => none

namespace Document
variable {d d' : Document} {i : Input} {reported : List Failure}

-- The document is taken through its stages, be it that they are run or that they get as far as is said, or
-- it is given up from outside.
inductive Call where
  | process (w : Workshop) (luck : Luck) (s : Scene)
  | pass (c : Course)
  | giveUp (f : Failure)

-- Stages that do not return leave no document.
def answer (d : Document) : Call → Option Document
  | .process w luck s => (d.advance w luck s).map (·.2)
  | .pass c => some (if d.status.isFinal then d else d.follow c)
  | .giveUp f => some (d.fail f)

-- The failure that a call reports. Where nothing is done, nothing fails.
def failure? (d : Document) : Call → Option Failure
  | .process w luck s => if d.status.isFinal then none else (stages w luck s d.input).bind (·.2.failure?)
  | .pass c => if d.status.isFinal then none else c.failure?
  | .giveUp f => some f

-- All failures that a sequence of calls reports, in order.
def failures (d : Document) : List Call → List Failure
  | [] => []
  | call :: more => (d.failure? call).toList ++ match d.answer call with
    | some d => failures d more
    | none => []

def histories : List (List Status) :=
  [[.instantiated],[.instantiated,.failed],[.instantiated,.started,.failed],[.instantiated,.started,.optimized,.failed],
    [.instantiated,.started,.optimized,.complete],[.instantiated,.started,.optimized,.complete,.failed]]

-- Between two calls a document is new, complete or failed: status, history and output belong together, and
-- something was reported exactly if it failed.
inductive Standing : Status → List Status → Option Text → List Failure → Prop
  | new : Standing .instantiated [.instantiated] none []
  | complete (html : Text) : Standing .complete [.instantiated,.started,.optimized,.complete] (some html) []
  | failed {t f more} (known : t ∈ histories) (last : t.getLast? = some .failed) : Standing .failed t none (f :: more)

structure Sound (i : Input) (reported : List Failure) (d : Document) : Prop where
  input : d.input = i
  first : d.failure = reported.head?
  standing : Standing d.status d.timeline d.output reported

theorem of_sound (i : Input) : Sound i [] (.of i) := ⟨rfl,rfl,.new⟩

-- The stages of a new document, by how far they get.
theorem follow_sound (sound : Sound i reported d) (unfinished : d.status.isFinal = false) (c : Course) :
    Sound i (reported ++ c.failure?.toList) (d.follow c) := by
  obtain ⟨input,status,timeline,warnings,tier,followsData,removals,output,failure⟩ := d
  obtain ⟨same,first,standing⟩ := sound
  cases standing with
  | new =>
    cases c with
    | refused f => exact ⟨same,rfl,.failed (t := [.instantiated,.failed]) (by decide) rfl⟩
    | unread f => exact ⟨same,rfl,.failed (t := [.instantiated,.started,.failed]) (by decide) rfl⟩
    | unopened l f => exact ⟨same,rfl,.failed (t := [.instantiated,.started,.failed]) (by decide) rfl⟩
    | unwritten l r f => exact ⟨same,rfl,.failed (t := [.instantiated,.started,.optimized,.failed]) (by decide) rfl⟩
    | finished l r html => exact ⟨same,first,.complete html⟩
  | complete => cases unfinished
  | failed => cases unfinished

-- A complete document can still be given up; one that has failed keeps its first failure.
theorem fail_sound (sound : Sound i reported d) (f : Failure) : Sound i (reported ++ [f]) (d.fail f) := by
  obtain ⟨input,status,timeline,warnings,tier,followsData,removals,output,failure⟩ := d
  obtain ⟨same,first,standing⟩ := sound
  cases standing with
  | new => exact ⟨same,rfl,.failed (t := [.instantiated,.failed]) (by decide) rfl⟩
  | complete => exact ⟨same,rfl,.failed (t := [.instantiated,.started,.optimized,.complete,.failed]) (by decide) rfl⟩
  | failed known last => exact ⟨same,first,.failed known last⟩

theorem advance_final (final : d.status.isFinal = true) (w : Workshop) (luck : Luck) (s : Scene) :
    d.advance w luck s = some (s,d) := if_pos final

theorem advance_unfinished (unfinished : d.status.isFinal = false) (w : Workshop) (luck : Luck) (s : Scene) :
    d.advance w luck s = (stages w luck s d.input).map fun left => (left.1,d.follow left.2) :=
  if_neg (Bool.eq_false_iff.mp unfinished)

theorem answer_sound (sound : Sound i reported d) {call : Call} (answered : d.answer call = some d') :
    Sound i (reported ++ (d.failure? call).toList) d' := by
  cases call with
  | giveUp f =>
    cases answered
    exact fail_sound sound f
  | process w luck s =>
    rw [answer] at answered
    rw [failure?]
    cases final : d.status.isFinal with
    | true =>
      rw [advance_final final] at answered
      cases answered
      simpa using sound
    | false =>
      rw [advance_unfinished final] at answered
      cases course : stages w luck s d.input with
      | none => simp [course] at answered
      | some left =>
        rw [course] at answered
        cases answered
        exact follow_sound sound final left.2
  | pass c =>
    cases answered
    rw [failure?]
    cases final : d.status.isFinal with
    | true => simpa using sound
    | false => exact follow_sound sound final c

theorem answers_sound (sound : Sound i reported d) (calls : List Call) (answered : calls.foldlM answer d = some d') :
    Sound i (reported ++ d.failures calls) d' := by
  induction calls generalizing d reported with
  | nil =>
    cases answered
    simpa [failures] using sound
  | cons call more ih =>
    rw [List.foldlM_cons] at answered
    obtain ⟨next,first,rest⟩ := Option.bind_eq_some_iff.mp answered
    rw [failures,first,← List.append_assoc]
    exact ih (answer_sound sound first) rest

-- What holds of a document that came in as `i`, when these failures have been reported.
structure Lawful (i : Input) (reported : List Failure) (d : Document) : Prop where
  input : d.input = i
  history : d.timeline ∈ histories
  last : d.timeline.getLast? = some d.status
  failed : d.failure.isSome = true ↔ d.status = .failed
  first : d.failure = reported.head?
  output : d.outputBytes ≠ i.contents → d.status = .complete
  rests : d.status.isFinal = true → ∀ w luck s, d.advance w luck s = some (s,d)

theorem Sound.lawful (sound : Sound i reported d) : Lawful i reported d := by
  have rests : d.status.isFinal = true → ∀ w luck s, d.advance w luck s = some (s,d) := advance_final
  obtain ⟨input,status,timeline,warnings,tier,followsData,removals,output,failure⟩ := d
  obtain ⟨same,first,standing⟩ := sound
  cases same
  cases first
  cases standing with
  | new => exact ⟨rfl,.head _,rfl,by simp,rfl,fun changed => absurd rfl changed,rests⟩
  | complete html => exact ⟨rfl,List.mem_of_getElem? (i := 4) rfl,rfl,by simp,rfl,fun _ => rfl,rests⟩
  | failed known last => exact ⟨rfl,known,last,by simp,rfl,fun changed => absurd rfl changed,rests⟩

theorem calls_lawful (i : Input) (calls : List Call) (d : Document) (answered : calls.foldlM answer (.of i) = some d) :
    Lawful i ((of i).failures calls) d := (answers_sound (of_sound i) calls answered).lawful

-- A blank document that is given up once more keeps its first failure.
def blank : Input := .ofMemory "blank.html" [32]
def blankFailure : Failure := ⟨.parse,"input is empty"⟩
def lostFailure : Failure := ⟨.resource,"lost"⟩
def blankCalls : List Call := [.process ⟨.bare 0,.document,.empty,none⟩ ⟨.refused [],none⟩ ⟨.empty,none⟩,.giveUp lostFailure]

theorem calls_lawful_blank : blankCalls.foldlM answer (of blank) = some ((of blank).fail blankFailure) ∧
    Lawful blank [blankFailure,lostFailure] ((of blank).fail blankFailure) :=
  ⟨rfl,calls_lawful blank blankCalls _ rfl⟩

-- A complete document has one new text for both ways out. Any other one goes as the bytes that came in, or as what
-- these are read as.
theorem Sound.leaves (sound : Sound i reported d) : (d.status = .complete → encode d.stream.html = d.outputBytes) ∧
    (d.status ≠ .complete → d.outputBytes = i.contents ∧ d.stream.html = decodeLossy i.contents) := by
  obtain ⟨input,status,timeline,warnings,tier,followsData,removals,output,failure⟩ := d
  obtain ⟨same,first,standing⟩ := sound
  cases same
  cases standing with
  | new => exact ⟨nofun,fun _ => ⟨rfl,rfl⟩⟩
  | complete html => exact ⟨fun _ => rfl,fun other => absurd rfl other⟩
  | failed known last => exact ⟨nofun,fun _ => ⟨rfl,rfl⟩⟩

-- The bytes that are streamed are those that are written as a file, but for what is no text.
theorem stream_delivers_iff (i : Input) (calls : List Call) (d : Document) (answered : calls.foldlM answer (.of i) = some d) :
    d.stream.report = d.report ∧ d.report.outputSize = d.outputBytes.length ∧
    (d.status ≠ .complete → d.outputBytes = i.contents ∧ d.stream.html = decodeLossy i.contents) ∧
    (encode d.stream.html = d.outputBytes ↔ d.status = .complete ∨ ∃ s, decode i.contents = .ok s) := by
  obtain ⟨complete,other⟩ := (answers_sound (of_sound i) calls answered).leaves
  refine ⟨rfl,rfl,other,?_⟩
  by_cases done : d.status = .complete
  · exact iff_of_true (complete done) (.inl done)
  · obtain ⟨bytes,text⟩ := other done
    rw [bytes,text,encode_decodeLossy_iff]
    exact (or_iff_right done).symm

theorem stream_delivers_blank : blankCalls.foldlM answer (of blank) = some ((of blank).fail blankFailure) ∧
    (encode ((of blank).fail blankFailure).stream.html = ((of blank).fail blankFailure).outputBytes ↔
      ((of blank).fail blankFailure).status = .complete ∨ ∃ s, decode blank.contents = .ok s) :=
  ⟨rfl,(stream_delivers_iff blank blankCalls _ rfl).2.2.2⟩

end Document
end StyleTrim
