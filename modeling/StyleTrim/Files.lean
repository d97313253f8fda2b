import StyleTrim.Path
import StyleTrim.Text.Utf8
namespace StyleTrim
open Text

inductive FileError where
  | notFound
  | exists
  | notDirectory
  | isDirectory
  | nameTooLong
  | zeroInName
  | notText
deriving DecidableEq, Repr

def FileError.message : FileError → Text
  | .notFound => "No such file or directory (os error 2)"
  | .exists => "File exists (os error 17)"
  | .notDirectory => "Not a directory (os error 20)"
  | .isDirectory => "Is a directory (os error 21)"
  | .nameTooLong => "File name too long (os error 36)"
  | .zeroInName => "file name contained an unexpected NUL byte"
  | .notText => "stream did not contain valid UTF-8"

abbrev Place := List Text

inductive Entry where
  | file (contents : Bytes)
  | directory
deriving DecidableEq, Repr

-- What stands where. The root is always a directory. Relative paths begin at `here`, and
-- files that nobody keeps go to `spare`.
structure Files where
  entries : List (Place × Entry)
  here : Place
  spare : Path
deriving DecidableEq, Repr

namespace Files

-- Nothing but an empty working directory inside the one for spare files.
def empty : Files := ⟨[(["tmp"],.directory),(["work","tmp"],.directory)],["work","tmp"],"/tmp"⟩

def entry? (fs : Files) (place : Place) : Option Entry :=
  if place.isEmpty then some .directory else (fs.entries.find? (·.1 == place)).map (·.2)

def put (fs : Files) (place : Place) (e : Entry) : Files :=
  {fs with entries := fs.entries.filter (·.1 != place) ++ [(place,e)]}

def erase (fs : Files) (place : Place) : Files := {fs with entries := fs.entries.filter (·.1 != place)}

def all (fs : Files) : List (Place × Bytes) :=
  fs.entries.filterMap fun (place,e) => match e with
    | .file contents => some (place,contents)
    | .directory => none

def wayDown? (from_ place : Place) : Option Path :=
  if from_.isSuffixOf place && from_.length < place.length then
    some (join "/" (place.take (place.length - from_.length)).reverse)
  else none

def changesSince (fs before : Files) : List (Place × Entry) :=
  fs.entries.filter fun (place,e) => before.entry? place != some e

def below (fs : Files) : List (Path × Bytes) :=
  fs.all.filterMap fun (place,contents) => (wayDown? fs.here place).map fun path => (path,contents)

def byteCount (s : Text) : Nat := (encode s).length

-- One step from a directory to a directory.
def enter (fs : Files) (from_ : Place) (step : Text) : Except FileError Place :=
  if Path.staysPut step then .ok from_
  else if step == ['.','.'] then .ok from_.tail
  else if 255 < byteCount step then .error .nameTooLong
  else match fs.entry? (step :: from_) with
    | none => .error .notFound
    | some (.file _) => .error .notDirectory
    | some .directory => .ok (step :: from_)

def approach (fs : Files) (p : Path) : Except FileError (Place × Text) :=
  if p.any (· = '\x00') then .error .zeroInName
  else if 4096 ≤ byteCount p then .error .nameTooLong
  else if p.isEmpty then .error .notFound
  else
    let (start,steps) := Path.cut p
    match steps.reverse with
    | [] => .ok (fs.here,['.'])
    | last :: before => do
      let directory ← before.reverse.foldlM fs.enter (if start = .root then [] else fs.here)
      return (directory,last)

def isDirectory (fs : Files) (p : Path) : Bool :=
  match fs.approach p with
  | .ok (directory,last) => (fs.enter directory last).isOk
  | .error _ => false

def onward (way : Place × List Place) (step : Text) : Place × List Place :=
  if Path.staysPut step then way
  else if step == ['.','.'] then (way.1.tail,way.2)
  else (step :: way.1,way.2 ++ [step :: way.1])

-- The places that a path leads through, the outermost first.
def along (fs : Files) (p : Path) : List Place :=
  let (start,steps) := Path.cut p
  (steps.foldl onward (if start = .root then [] else fs.here,[])).2

def read (fs : Files) (p : Path) : Except FileError Bytes := do
  let (directory,last) ← fs.approach p
  if Path.staysPut last || last == ['.','.'] then .error .isDirectory
  else if 255 < byteCount last then .error .nameTooLong
  else match fs.entry? (last :: directory) with
    | none => .error .notFound
    | some .directory => .error .isDirectory
    | some (.file contents) => .ok contents

def readText (fs : Files) (p : Path) : Except FileError Text := do
  match decode (← fs.read p) with
  | .ok s => .ok s
  | .error _ => .error .notText

-- The place of a file that may be written. A path that ends with a slash is no file's.
def target (fs : Files) (p : Path) : Except FileError Place := do
  let (directory,last) ← fs.approach (Path.bare p)
  if Path.staysPut last || last == ['.','.'] || p.getLast? = some '/' then .error .isDirectory
  else if 255 < byteCount last then .error .nameTooLong
  else if fs.entry? (last :: directory) = some .directory then .error .isDirectory
  else .ok (last :: directory)

def write (fs : Files) (p : Path) (contents : Bytes) : Except FileError Files :=
  (fs.target p).map fun place => fs.put place (.file contents)

def makeDirectory (fs : Files) (p : Path) : Except FileError Files := do
  let (directory,last) ← fs.approach (Path.bare p)
  if Path.staysPut last || last == ['.','.'] then .error .exists
  else if 255 < byteCount last then .error .nameTooLong
  else match fs.entry? (last :: directory) with
    | some _ => .error .exists
    | none => .ok (fs.put (last :: directory) .directory)

def ensureDirectory (fs : Files) (p : Path) : Files × Except FileError Unit :=
  match fs.makeDirectory p with
  | .ok fs => (fs,.ok ())
  | .error e => (fs,if fs.isDirectory p then .ok () else .error e)

-- Makes a directory and those above it, given from the inside out. Those that were made stay
-- when a later one cannot be made.
def ensureDirectories (fs : Files) : List Path → Files × Except FileError Unit
  | [] => (fs,.ok ())
  | p :: above =>
    match fs.makeDirectory p with
    | .error .notFound =>
      match ensureDirectories fs above with
      | (fs,.ok ()) => fs.ensureDirectory p
      | failed => failed
    | _ => fs.ensureDirectory p

-- What a spare file is called. Its mark tells it from all others.
def spareName (mark : Text) : Text := ("amp-uncss-" : Text) ++ mark ++ ".html"

def spareDirectory (fs : Files) (directory : Option Path) : Path := directory.getD fs.spare

-- The place below which spare files stand.
def spareRoot (fs : Files) (directory : Option Path) : Except FileError Place :=
  (fs.approach (Path.within (fs.spareDirectory directory) ".")).map (·.1)

-- A mark whose name is free in a directory.
def freeMark? (fs : Files) (root : Place) : Option Text :=
  ((List.range (fs.entries.length + 1)).map ofNat).find? fun mark => (fs.entry? (spareName mark :: root)).isNone

end Files
end StyleTrim
