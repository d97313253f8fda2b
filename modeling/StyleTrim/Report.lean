import StyleTrim.Config
import StyleTrim.Removals
namespace StyleTrim
open Text

inductive Status where
  | instantiated
  | started
  | optimized
  | complete
  | failed
deriving DecidableEq, Repr

namespace Status

def name : Status → Text
  | .instantiated => "instantiated"
  | .started => "started"
  | .optimized => "optimized"
  | .complete => "complete"
  | .failed => "failed"

def all : List Status := [.instantiated,.started,.optimized,.complete,.failed]
def ofName? (name : Text) : Option Status := all.find? (·.name == name)

def isFinal (s : Status) : Bool := s = .complete || s = .failed

end Status

-- When a status was reached, counted from the moment when the document was taken up.
structure Milestone where
  status : Status
  elapsedMs : Nat
deriving DecidableEq, Repr

-- What happened to a document. Without a tier it failed before one was chosen.
structure DocumentReport where
  name : Text
  status : Status
  failure : Option Text
  tier : Option Tier
  followsData : Bool
  inputSize : Nat
  outputSize : Nat
  removed : List (Text × Removals.Tally)
  warnings : List Text
  timeline : List Milestone
deriving DecidableEq, Repr

namespace DocumentReport

def isComplete (r : DocumentReport) : Bool := r.status = .complete
def removedCount (r : DocumentReport) : Nat := r.removed.foldr (fun t n => t.2.count + n) 0
-- Growth counts as nothing.
def savedBytes (r : DocumentReport) : Nat := r.inputSize - r.outputSize

end DocumentReport

-- The options of a run and what happened to its documents, in order. The sums are over the
-- documents that are complete; all others count as failed.
structure RunReport where
  options : Config
  files : List DocumentReport
  optimized : Nat
  failed : Nat
  selectorsRemoved : Nat
  bytesSaved : Nat
deriving DecidableEq, Repr

namespace RunReport

def of (options : Config) (files : List DocumentReport) : RunReport :=
  let done := files.filter (·.isComplete)
  ⟨options,files,done.length,files.length - done.length,
    done.foldr (fun d n => d.removedCount + n) 0,done.foldr (fun d n => d.savedBytes + n) 0⟩

def hasFailures (r : RunReport) : Bool := 0 < r.failed

end RunReport
end StyleTrim
