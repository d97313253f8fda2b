import StyleTrim.Config.Reader
import StyleTrim.Config.Variables
import StyleTrim.Run
namespace StyleTrim
open Text

structure Invocation where
  arguments : List Path
  environment : Variables
  standardInput : Bytes
deriving DecidableEq, Repr

inductive Refusal where
  | config (cause : ConfigError)
  | usage
deriving DecidableEq, Repr

def Refusal.message : Refusal → Text
  | .config cause => cause.message
  | .usage => "usage: amp-uncss <file.html>..."

structure Gathered where
  inputs : List Input
  unreadable : List Failure
deriving DecidableEq, Repr

-- How the program ends: whether everything went well, what it has written to its output, and
-- what it has to say about documents that failed.
structure Ending where
  succeeded : Bool
  standardOutput : Bytes
  notices : List Text
deriving DecidableEq, Repr

namespace CommandLine

-- A file named by a variable has the options; without one the variables have them.
def configPath? (vs : Variables) : Option Path := vs.value? "AMP_UNCSS_CONFIG"

def options (fs : Files) (vs : Variables) : Except ConfigError Config :=
  match configPath? vs with
  | some p => Config.ofFile fs p
  | none => .ok (.ofVariables vs)

-- Every path that a call may read or write, if it is made with some options.
def reach (c : Config) (call : Invocation) : List Path :=
  let output (p : Path) : Path := c.outputPath ((Path.fileName? p).getD p)
  call.arguments ++ call.arguments.map output ++ c.spareDirectory.toList

def sorted (readings : List (Except Failure Input)) : Gathered :=
  ⟨readings.filterMap Except.toOption,readings.filterMap fun r => match r with
    | .error f => some f
    | .ok _ => none⟩

-- Standard input is a document where none is named, but only in streamable mode.
def gather (fs : Files) (c : Config) (call : Invocation) : Except Refusal Gathered :=
  if !call.arguments.isEmpty then .ok (sorted (call.arguments.map (Input.ofFile fs)))
  else if c.isStreamable then .ok ⟨[.ofMemory "stdin.html" call.standardInput],[]⟩
  else .error .usage

def notice? (r : DocumentReport) : Option Text := r.failure.map fun f => r.name ++ ": " ++ f

def ending (g : Gathered) (o : Outcome) : Ending where
  succeeded := g.unreadable.isEmpty && !o.report.hasFailures
  standardOutput := (o.stream.map fun s => encode s.html).getD []
  notices := g.unreadable.map Failure.text ++ o.report.files.filterMap notice?

def perform (m : Machine) (fs : Files) (call : Invocation) : Option (Files × Except Refusal Ending) :=
  let prepared : Except Refusal (Run × Gathered) := do
    let c ← (options fs call.environment).mapError .config
    let g ← gather fs c call
    let r ← (Run.ofConfig c).mapError .config
    return (r,g)
  match prepared with
  | .error refusal => some (fs,.error refusal)
  | .ok (r,g) => (r.perform m fs g.inputs).map fun (fs,o) => (fs,.ok (ending g o))

end CommandLine
end StyleTrim
