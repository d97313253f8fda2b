import StyleTrim.Document.Stages
namespace StyleTrim
open Text

-- A run that may begin: its options are valid, and the whitelist is the one they describe.
structure Run where
  config : Config
  whitelist : Whitelist
  isValid : config.validate = .ok whitelist

structure Outcome where
  report : RunReport
  stream : Option Streamed
deriving DecidableEq, Repr

-- A document of a batch: it waits for its first turn, or for its page, or it is done.
inductive Task where
  | waiting (d : Document) (luck : Luck)
  | opening (d : Document) (v : Visit)
  | done (d : Document)

namespace Task

def document : Task → Document
  | .waiting d _ | .opening d _ | .done d => d

def turn (w : Workshop) (s : Scene) : Task → Option (Scene × Task)
  | .waiting d luck =>
    if d.status.isFinal then some (s,.done d)
    else (Document.depart w luck s.files d.input).map fun
      | (files,.ended c) => (⟨files,s.running⟩,.done (d.follow c))
      | (files,.opening v) => (⟨files,s.running⟩,.opening d v)
  | .opening d v =>
    let (s,course) := Document.arrive w s v
    some (s,.done (d.follow course))
  | .done d => some (s,.done d)

end Task

def batches (size : Nat) : List α → List (List α)
  | [] => []
  | x :: more => (x :: more.take (size - 1)) :: batches size (more.drop (size - 1))
termination_by xs => xs.length
decreasing_by simp only [List.length_cons,List.length_drop]; omega

namespace Run

def ofConfig (c : Config) : Except ConfigError Run :=
  match h : c.validate with
  | .ok w => .ok ⟨c,w,h⟩
  | .error e => .error e

def workshop (r : Run) (m : Machine) : Workshop := ⟨m,r.config.level,r.whitelist,r.config.spareDirectory⟩

def taken (r : Run) (inputs : List Input) : List Input := if r.config.isStreamable then inputs.take 1 else inputs

def accepted (r : Run) (inputs : List Input) : List Document := (r.taken inputs).map .of

def firstTurns (w : Workshop) (s : Scene) : List Document → Option (Scene × List Task)
  | [] => some (s,[])
  | d :: more => do
    let (s,t) ← Task.turn w s (.waiting d (.fair w s.files))
    let (s,more) ← firstTurns w s more
    return (s,t :: more)

def nextTurns (w : Workshop) (s : Scene) : List Task → Option (Scene × List Task)
  | [] => some (s,[])
  | t :: more => do
    let (s,t) ← t.turn w s
    let (s,more) ← nextTurns w s more
    return (s,t :: more)

-- The documents of a batch do not wait for each other. After two turns they are done.
def processBatch (w : Workshop) (s : Scene) (ds : List Document) : Option (Scene × List Document) := do
  let (s,opening) ← firstTurns w s ds
  let (s,done) ← nextTurns w s opening
  return (s,done.map Task.document)

def processAll (w : Workshop) (s : Scene) : List (List Document) → Option (Scene × List Document)
  | [] => some (s,[])
  | batch :: more => do
    let (s,batch) ← processBatch w s batch
    let (s,more) ← processAll w s more
    return (s,batch ++ more)

def processed (r : Run) (m : Machine) (fs : Files) (inputs : List Input) : Option (Scene × List Document) :=
  processAll (r.workshop m) ⟨fs,none⟩ (batches r.config.batchSize (r.accepted inputs))

def cannotCreate (p : Path) (cause : FileError) : Failure :=
  ⟨.resource,("cannot create " : Text) ++ p ++ ": " ++ cause.message⟩
def cannotWrite (p : Path) (cause : FileError) : Failure :=
  ⟨.resource,("cannot write " : Text) ++ p ++ ": " ++ cause.message⟩

def makeRoom (fs : Files) (p : Path) : Files × Except Failure Unit :=
  match Path.parent? p with
  | none => (fs,.ok ())
  | some above =>
    let (fs,made) := fs.ensureDirectories (Path.directoriesOf p)
    (fs,made.mapError (cannotCreate above))

def save (fs : Files) (p : Path) (contents : Bytes) : Files × Except Failure Unit :=
  match makeRoom fs p with
  | (fs,.error f) => (fs,.error f)
  | (fs,.ok ()) => match fs.write p contents with
    | .ok fs => (fs,.ok ())
    | .error cause => (fs,.error (cannotWrite p cause))

def deliver (r : Run) (fs : Files) (d : Document) : Files × Document :=
  match save fs (r.config.outputPath d.input.name) d.outputBytes with
  | (fs,.ok ()) => (fs,d)
  | (fs,.error f) => (fs,d.fail f)

def deliverAll (r : Run) (fs : Files) : List Document → Files × List Document
  | [] => (fs,[])
  | d :: more =>
    let (fs,d) := r.deliver fs d
    let (fs,more) := deliverAll r fs more
    (fs,d :: more)

def reported (r : Run) (ds : List Document) : RunReport := .of r.config (ds.map (·.report))

-- What is delivered in the end: files, or the first document as text in streamable mode.
def close (r : Run) (fs : Files) (ds : List Document) : Files × Outcome :=
  if r.config.isStreamable then (fs,⟨r.reported ds,ds.head?.map (·.stream)⟩)
  else
    let (fs,ds) := r.deliverAll fs ds
    (fs,⟨r.reported ds,none⟩)

def perform (r : Run) (m : Machine) (fs : Files) (inputs : List Input) : Option (Files × Outcome) :=
  (r.processed m fs inputs).map fun (s,ds) => r.close s.files ds

end Run
end StyleTrim
