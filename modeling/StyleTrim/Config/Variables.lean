import StyleTrim.Config
namespace StyleTrim
open Text

abbrev Variables := List (Text × Text)

namespace Variables

def value? (vs : Variables) (name : Text) : Option Text := vs.lookup name

-- A natural number up to a bound, with blanks around it and perhaps a plus before it.
def natural? (vs : Variables) (name : Text) (largest : Nat) : Option Nat :=
  (vs.value? name).bind fun s =>
    let digits := match trim s with
      | '+' :: r => r
      | r => r
    let n := valueOf 10 (digits.map fun c => c.toNat - '0'.toNat)
    if !digits.isEmpty && digits.all isDigit && n ≤ largest then some n else none

end Variables

namespace Config

def ofVariables (vs : Variables) : Config :=
  let word : Nat := 0xffffffffffffffff
  let standard := Config.standard
  { level := ((vs.natural? "AMP_UNCSS_OPTIMIZATION_LEVEL" 255).bind fun n => (Level.ofNumber n).toOption).getD standard.level
    batchSize := ((vs.natural? "AMP_UNCSS_BATCH_SIZE" word).map (max 1)).getD standard.batchSize
    whitelist := ((vs.value? "AMP_UNCSS_WHITELIST").map fun s =>
      ((pieces (· = ',') s).map trim).filter (!·.isEmpty)).getD standard.whitelist
    isStreamable := ((vs.value? "AMP_UNCSS_STREAMABLE").map fun s =>
      isOneOf (trim s) ["1","true","yes"]).getD standard.isStreamable
    targetDirectory := (vs.value? "AMP_UNCSS_TARGET_DIR").getD standard.targetDirectory
    decorator := (vs.value? "AMP_UNCSS_FILENAME_DECORATOR").getD standard.decorator
    settleMs := (vs.natural? "AMP_UNCSS_SETTLE_MS" word).getD standard.settleMs
    navigationTimeoutSecs := (vs.natural? "AMP_UNCSS_NAVIGATION_TIMEOUT_SECS" word).getD standard.navigationTimeoutSecs
    browser := vs.value? "CHROME_BIN"
    spareDirectory := vs.value? "AMP_UNCSS_TEMP_DIR" }

end Config
end StyleTrim
