import StyleTrim.Config.Reader
import StyleTrim.Report
namespace StyleTrim
open Text

namespace Json

def insertField (f : Text × Json) : List (Text × Json) → List (Text × Json)
  | [] => [f]
  | g :: more =>
    if f.1 == g.1 then g :: more
    else if before f.1 g.1 then f :: g :: more
    else g :: insertField f more

mutual
def ordered : Json → Json
  | .list items isClosed => .list (orderedItems items) isClosed
  | .object fields isClosed => .object ((orderedFields fields).map fun f => (some f.1,f.2)) isClosed
  | other => other
def orderedItems : List Json → List Json
  | [] => []
  | item :: more => ordered item :: orderedItems more
def orderedFields : List (Option Text × Json) → List (Text × Json)
  | [] => []
  | (none,_) :: more => orderedFields more
  | (some name,value) :: more => insertField (name,ordered value) (orderedFields more)
end

def asFields (f : Json → Decoded α) : Json → Decoded (List (Text × α))
  | .object fields _ => (fields.filterMap fun (name?,value) => name?.map fun name => (name,value)).mapM
      fun (name,value) => (f value).map fun a => (name,a)
  | other => .error (unexpected "a map" other)

def tooLong (count : Nat) : Fault :=
  .mismatch (("invalid length " : Text) ++ ofNat count ++ ", expected fewer elements in array")

def required (name : Text) (read : Json → Decoded β) (set : β → α → α) : Field α :=
  ⟨name,true,fun j a => (read j).map fun value => set value a⟩

-- A field that counts as null when it is missing.
def optional (name : Text) (read : Json → Decoded β) (set : Option β → α → α) : Field α :=
  ⟨name,false,fun j a => (asOptional read j).map fun value => set value a⟩

end Json

open Json

namespace Status

def quotedName (s : Status) : Text := '\x60' :: s.name ++ ['\x60']

def unknown (name : Text) : Fault :=
  .mismatch (("unknown variant `" : Text) ++ name ++ "`, expected one of " ++ join ", " (all.map quotedName))

def named (name : Text) : Decoded Status :=
  match ofName? name with
  | some s => .ok s
  | none => .error (unknown name)

-- A status by its name, which may also be the only key of an object that holds nothing.
def decode : Json → Decoded Status
  | .text name => named name
  | .object [(some name,value)] _ => do
    let s ← named name
    match value with
    | .null => .ok s
    | other => .error (unexpected "unit" other)
  | .object _ _ => .error (.mismatch "invalid value: map, expected map with a single key")
  | other => .error (unexpected "string or map" other)

end Status

def Tier.decode (j : Json) : Decoded Tier := do
  (ofNumber (← asNatural "u8" 255 j)).mapError Level.fault

def asCount : Json → Decoded Nat := asNatural "usize" largestNatural

def Milestone.record : Record Milestone where
  name := "struct TimelineEntry"
  blank := ⟨.instantiated,0⟩
  excess := tooLong
  fields := [
    required "status" Status.decode fun v m => {m with status := v},
    required "elapsedMs" (asNatural "u64" largestNatural) fun v m => {m with elapsedMs := v}]

def Removals.Tally.record : Record Removals.Tally where
  name := "struct RemovedSelectors"
  blank := ⟨0,[]⟩
  excess := tooLong
  fields := [
    required "count" asCount fun v t => {t with count := v},
    required "selectors" (asList asText) fun v t => {t with selectors := v}]

def Milestone.toJson (m : Milestone) : Json :=
  ofFields [("status",.text m.status.name),("elapsedMs",ofNatural m.elapsedMs)]

def Removals.Tally.toJson (t : Removals.Tally) : Json :=
  ofFields [("count",ofNatural t.count),("selectors",ofTexts t.selectors)]

namespace DocumentReport

def record : Record DocumentReport where
  name := "struct DocumentReport"
  blank := ⟨[],.instantiated,none,none,false,0,0,[],[],[]⟩
  excess := tooLong
  fields := [
    required "fileName" asText fun v r => {r with name := v},
    required "status" Status.decode fun v r => {r with status := v},
    optional "failure" asText fun v r => {r with failure := v},
    optional "tier" Tier.decode fun v r => {r with tier := v},
    required "hasExceptionTags" asBool fun v r => {r with followsData := v},
    required "inputSize" asCount fun v r => {r with inputSize := v},
    required "outputSize" asCount fun v r => {r with outputSize := v},
    required "selectorsRemoved" (asFields Removals.Tally.record.decode) fun v r => {r with removed := v},
    required "warnings" (asList asText) fun v r => {r with warnings := v},
    required "timeline" (asList Milestone.record.decode) fun v r => {r with timeline := v}]

def ofJson (j : Json) : Decoded DocumentReport := record.decode j.ordered

def toJson (r : DocumentReport) : Json := ofFields [
  ("fileName",.text r.name),
  ("status",.text r.status.name),
  ("failure",ofText? r.failure),
  ("tier",match r.tier with
    | some t => ofNatural t.number
    | none => .null),
  ("hasExceptionTags",.bool r.followsData),
  ("inputSize",ofNatural r.inputSize),
  ("outputSize",ofNatural r.outputSize),
  ("selectorsRemoved",ofFields (r.removed.map fun t => (t.1,t.2.toJson))),
  ("warnings",ofTexts r.warnings),
  ("timeline",ofList (r.timeline.map Milestone.toJson))]

end DocumentReport

namespace RunReport

def record : Record RunReport where
  name := "struct RunReport"
  blank := ⟨.standard,[],0,0,0,0⟩
  excess := tooLong
  fields := [
    required "options" Config.record.decode fun v r => {r with options := v},
    required "files" (asList DocumentReport.record.decode) fun v r => {r with files := v},
    required "optimized" asCount fun v r => {r with optimized := v},
    required "failed" asCount fun v r => {r with failed := v},
    required "selectorsRemoved" asCount fun v r => {r with selectorsRemoved := v},
    required "bytesSaved" asCount fun v r => {r with bytesSaved := v}]

def ofJson (j : Json) : Decoded RunReport := record.decode j.ordered

def toJson (r : RunReport) : Json := ofFields [
  ("options",r.options.toJson),
  ("files",ofList (r.files.map DocumentReport.toJson)),
  ("optimized",ofNatural r.optimized),
  ("failed",ofNatural r.failed),
  ("selectorsRemoved",ofNatural r.selectorsRemoved),
  ("bytesSaved",ofNatural r.bytesSaved)]

end RunReport
end StyleTrim
