import StyleTrim.Files
import StyleTrim.Level
import StyleTrim.Whitelist
namespace StyleTrim
open Text

-- The options of a run. The browser is found by itself unless its path is given, and copies of
-- documents that have no path go to the system's own directory unless another one is given.
structure Config where
  level : Level
  batchSize : Nat
  whitelist : List Text
  isStreamable : Bool
  targetDirectory : Path
  decorator : Text
  settleMs : Nat
  navigationTimeoutSecs : Nat
  browser : Option Path
  spareDirectory : Option Path
deriving DecidableEq, Repr

inductive ConfigError where
  | malformed
  | mismatch (message : Text)
  | unreadable (path : Path) (cause : FileError)
  | zeroBatchSize
  | whitelist (entry : Text)
deriving DecidableEq, Repr

namespace ConfigError

def message : ConfigError → Text
  | .malformed => "malformed config"
  | .mismatch m => ("malformed config: " : Text) ++ m
  | .unreadable path cause => ("cannot read config " : Text) ++ path ++ ": " ++ cause.message
  | .zeroBatchSize => "batch size must be at least 1"
  | .whitelist entry => ("invalid whitelist pattern `" : Text) ++ entry ++ "`"

def hasCause (e : ConfigError) : Bool := e ≠ .zeroBatchSize

end ConfigError

namespace Config

def standard : Config where
  level := .document
  batchSize := 4
  whitelist := []
  isStreamable := false
  targetDirectory := "dist"
  decorator := []
  settleMs := 200
  navigationTimeoutSecs := 60
  browser := none
  spareDirectory := none

def readWhitelist (c : Config) : Except ConfigError Whitelist :=
  (Whitelist.ofEntries c.whitelist).mapError .whitelist

def validate (c : Config) : Except ConfigError Whitelist :=
  if c.batchSize = 0 then .error .zeroBatchSize else c.readWhitelist

-- The name of the output for an input: the decorator goes between stem and extension. A name
-- without a last step is taken as it is.
def outputName (c : Config) (name : Text) : Text :=
  match Path.fileName? name with
  | none => name ++ c.decorator
  | some file =>
    let (stem,extension) := Path.splitName file
    stem ++ c.decorator ++ (match extension with
      | some e => '.' :: e
      | none => [])

def outputPath (c : Config) (name : Text) : Path := Path.within c.targetDirectory (c.outputName name)

end Config
end StyleTrim
