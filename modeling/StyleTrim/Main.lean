import StyleTrim.CommandLine
open StyleTrim

-- The program sees the part of the disk that concerns it as `Files`. What a call has changed
-- there is written back at the end.
namespace Program

def variableNames : List String := ["AMP_UNCSS_CONFIG","AMP_UNCSS_OPTIMIZATION_LEVEL","AMP_UNCSS_BATCH_SIZE",
  "AMP_UNCSS_WHITELIST","AMP_UNCSS_STREAMABLE","AMP_UNCSS_TARGET_DIR","AMP_UNCSS_FILENAME_DECORATOR",
  "AMP_UNCSS_SETTLE_MS","AMP_UNCSS_NAVIGATION_TIMEOUT_SECS","AMP_UNCSS_TEMP_DIR","CHROME_BIN"]

def environment : IO Variables := variableNames.filterMapM fun name => do
  return (← IO.getEnv name).map fun value => (name.toList,value.toList)

def absolute (place : Place) : String := String.ofList ('/' :: Text.join "/".toList place.reverse)

def look (place : Place) : IO (Option Entry) := do
  try return some (.file (← IO.FS.readBinFile (absolute place)).toList)
  catch e => match e with
    | .inappropriateType _ 21 _ => return some .directory
    | _ => return none

def learn (fs : Files) (place : Place) : IO Files := do
  if (fs.entry? place).isSome then return fs
  match ← look place with
  | some e => return fs.put place e
  | none => return fs

def learnPaths (fs : Files) (paths : List Path) : IO Files := (paths.flatMap fs.along).foldlM learn fs

def start : IO Files := do
  let here := (← IO.currentDir).toString.toList
  learnPaths ⟨[],(Text.pieces (· = '/') here).reverse.filter (!·.isEmpty),"/tmp".toList⟩ [here,"/tmp".toList]

def store (change : Place × Entry) : IO Unit :=
  match change.2 with
  | .directory => IO.FS.createDir (absolute change.1)
  | .file contents => IO.FS.writeBinFile (absolute change.1) ⟨contents.toArray⟩

def complain (message : Text) : IO Unit := IO.eprintln (String.ofList message)

def readAll (input : IO.FS.Stream) : IO Bytes := do
  let mut all : Bytes := []
  let mut more := true
  while more do
    let next ← input.read 65536
    all := all ++ next.toList
    more := !next.isEmpty
  return all

def run (arguments : List Path) : IO UInt32 := do
  let vs ← environment
  let fs ← learnPaths (← start) (CommandLine.configPath? vs).toList
  let options := CommandLine.options fs vs
  let streams := match options with
    | .ok c => c.isStreamable && arguments.isEmpty
    | .error _ => false
  let input ← if streams then readAll (← IO.getStdin) else pure []
  let call : Invocation := ⟨arguments,vs,input⟩
  let fs ← match options with
    | .ok c => learnPaths fs (CommandLine.reach c call)
    | .error _ => pure fs
  let some (after,ended) := CommandLine.perform (.bare 2000) fs call | return 134
  (after.changesSince fs).forM store
  match ended with
  | .error refusal => complain refusal.message; return 1
  | .ok e =>
    e.notices.forM complain
    (← IO.getStdout).write ⟨e.standardOutput.toArray⟩
    return if e.succeeded then 0 else 1

end Program

def main (arguments : List String) : IO UInt32 := do
  try Program.run (arguments.map String.toList)
  catch e => IO.eprintln e.toString; return 1
