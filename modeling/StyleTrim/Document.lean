import StyleTrim.Files
import StyleTrim.Report
namespace StyleTrim
open Text

-- Why a document could not be finished: it is no document, the browser did not help, or a
-- file that is needed could not be used.
inductive FailureKind where
  | parse
  | browser
  | resource
deriving DecidableEq, Repr

def FailureKind.name : FailureKind → Text
  | .parse => "parse"
  | .browser => "browser"
  | .resource => "resource"

structure Failure where
  kind : FailureKind
  message : Text
deriving DecidableEq, Repr

def Failure.text (f : Failure) : Text := f.kind.name ++ " error: " ++ f.message

-- A document as it came in. The path is known if it was read from a file.
structure Input where
  name : Text
  path : Option Path
  contents : Bytes
deriving DecidableEq, Repr

namespace Input

def ofFile (fs : Files) (p : Path) : Except Failure Input :=
  match fs.read p with
  | .ok contents => .ok ⟨(Path.fileName? p).getD p,some p,contents⟩
  | .error cause => .error ⟨.resource,("cannot read " : Text) ++ p ++ ": " ++ cause.message⟩

def ofMemory (name : Text) (contents : Bytes) : Input := ⟨name,none,contents⟩

def text (i : Input) : Except Failure Text :=
  match decode i.contents with
  | .error e => .error ⟨.parse,("input is not valid UTF-8: " : Text) ++ e.message⟩
  | .ok s => if (trim s).isEmpty then .error ⟨.parse,"input is empty"⟩ else .ok s

end Input

-- A document on its way, and everything that was learned about it.
structure Document where
  input : Input
  status : Status
  timeline : List Status
  warnings : List Text
  tier : Option Tier
  followsData : Bool
  removals : Removals
  output : Option Text
  failure : Option Failure
deriving DecidableEq, Repr

structure Learned where
  warnings : List Text
  tier : Tier
  followsData : Bool
deriving DecidableEq, Repr

-- How far a document gets: what its stages yield, and the failure that keeps it from going on. It may be
-- no text, have no page, not be opened in the browser, or not be written in its new form.
inductive Course where
  | refused (f : Failure)
  | unread (f : Failure)
  | unopened (l : Learned) (f : Failure)
  | unwritten (l : Learned) (r : Removals) (f : Failure)
  | finished (l : Learned) (r : Removals) (html : Text)
deriving DecidableEq, Repr

structure Streamed where
  html : Text
  report : DocumentReport
deriving DecidableEq, Repr

namespace Document

def of (i : Input) : Document :=
  ⟨i,.instantiated,[.instantiated],[],none,false,.none,none,none⟩

-- Moves on to another status. A final status is never left this way.
def reach (d : Document) (s : Status) : Document :=
  if d.status.isFinal then d else {d with status := s, timeline := d.timeline ++ [s]}

-- Gives a document up, be it complete or not. Its contents become the output. Only the first
-- failure counts.
def fail (d : Document) (f : Failure) : Document :=
  if d.status = .failed then d
  else {d with status := .failed, timeline := d.timeline ++ [.failed], output := none, failure := some f}

def learn (d : Document) (l : Learned) : Document :=
  {d with warnings := d.warnings ++ l.warnings, tier := some l.tier, followsData := l.followsData}

def follow (d : Document) : Course → Document
  | .refused f => d.fail f
  | .unread f => (d.reach .started).fail f
  | .unopened l f => ((d.reach .started).learn l).fail f
  | .unwritten l r f => ({(d.reach .started).learn l with removals := r}.reach .optimized).fail f
  | .finished l r html =>
    let d := {(d.reach .started).learn l with removals := r}.reach .optimized
    {d with output := some html}.reach .complete

def outputBytes (d : Document) : Bytes :=
  match d.output with
  | some s => encode s
  | none => d.input.contents

-- The steps are pure and take no time of their own; who watches a clock puts the times in.
def report (d : Document) : DocumentReport where
  name := d.input.name
  status := d.status
  failure := d.failure.map Failure.text
  tier := d.tier
  followsData := d.followsData
  inputSize := d.input.contents.length
  outputSize := d.outputBytes.length
  removed := d.removals.tallies
  warnings := d.warnings
  timeline := d.timeline.map fun s => ⟨s,0⟩

-- The document as text. What came in and is no text is replaced.
def stream (d : Document) : Streamed := ⟨d.output.getD (decodeLossy d.input.contents),d.report⟩

end Document
end StyleTrim
