import StyleTrim.Config
import StyleTrim.Json.Record
namespace StyleTrim
open Text

-- Options written as JSON.

namespace Level

def fault (e : LevelError) : Json.Fault := .mismatch e.message

def decode (j : Json) : Json.Decoded Level := do
  (ofNumber (← Json.asNatural "u8" 255 j)).mapError fault

end Level

namespace Config
open Json

def field (name : Text) (read : Json → Decoded β) (set : β → Config → Config) : Json.Field Config :=
  ⟨name,false,fun j c => (read j).map fun value => set value c⟩

def asPath : Json → Decoded Path := asTextNamed "path string"

-- The options under their names, in the order in which a list gives them. Missing ones keep
-- their standard values.
def record : Record Config where
  name := "struct AmpUncssConfig"
  blank := standard
  excess _ := .malformed
  fields := [
    field "optimizationLevel" Level.decode fun v c => {c with level := v},
    field "batchSize" (asNatural "usize" largestNatural) fun v c => {c with batchSize := v},
    field "selectorWhitelist" (asList asText) fun v c => {c with whitelist := v},
    field "streamable" asBool fun v c => {c with isStreamable := v},
    field "targetDirectory" asPath fun v c => {c with targetDirectory := v},
    field "filenameDecorator" asText fun v c => {c with decorator := v},
    field "settleMs" (asNatural "u64" largestNatural) fun v c => {c with settleMs := v},
    field "navigationTimeoutSecs" (asNatural "u64" largestNatural) fun v c => {c with navigationTimeoutSecs := v},
    field "chromeExecutable" (asOptional asPath) fun v c => {c with browser := v},
    field "tempDirectory" (asOptional asPath) fun v c => {c with spareDirectory := v}]

def errorOf : Fault → ConfigError
  | .malformed => .malformed
  | .mismatch message => .mismatch message

def ofJson (s : Text) : Except ConfigError Config := (decodeText record.decode s).mapError errorOf

def ofFile (fs : Files) (p : Path) : Except ConfigError Config :=
  match fs.readText p with
  | .ok s => ofJson s
  | .error cause => .error (.unreadable p cause)

def toJson (c : Config) : Json := ofFields [
  ("optimizationLevel",ofNatural c.level.number),
  ("batchSize",ofNatural c.batchSize),
  ("selectorWhitelist",ofTexts c.whitelist),
  ("streamable",.bool c.isStreamable),
  ("targetDirectory",.text c.targetDirectory),
  ("filenameDecorator",.text c.decorator),
  ("settleMs",ofNatural c.settleMs),
  ("navigationTimeoutSecs",ofNatural c.navigationTimeoutSecs),
  ("chromeExecutable",ofText? c.browser),
  ("tempDirectory",ofText? c.spareDirectory)]

end Config
end StyleTrim
