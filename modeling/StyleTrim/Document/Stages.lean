import StyleTrim.Amp.Page
import StyleTrim.Browser
import StyleTrim.Cleaning
import StyleTrim.Css.Reader
import StyleTrim.Document
import StyleTrim.Dom.Printer
import StyleTrim.Dom.Reader
namespace StyleTrim
open Text Css

-- What there is to work with: a browser, and room on the stack for copies within copies.
structure Machine where
  browser : Browser
  room : Nat

def Machine.bare (room : Nat) : Machine := ⟨.missing,room⟩

structure Workshop extends Machine where
  level : Level
  whitelist : Whitelist
  spareDirectory : Option Path

-- What documents find and what they leave to the next one: the files, and the browser once it runs.
structure Scene where
  files : Files
  running : Option Session

-- What comes of writing a spare file: it is refused, it holds a part of what it should, or all of it.
inductive Attempt where
  | refused (cause : Text)
  | broken (mark : Text) (part : Bytes) (cause : Text)
  | written (mark : Text)
deriving DecidableEq, Repr

-- How the disk treats the spare file of a document that needs one, and why it does not let go of it, if so.
structure Luck where
  attempt : Attempt
  undeleted : Option Text
deriving DecidableEq, Repr

structure Spare where
  place : Place
  path : Path
  undeleted : Option Text
deriving DecidableEq, Repr

structure Prepared where
  sheet : Sheet
  oracle : Oracle
  learned : Learned

structure Visit where
  raw : Text
  prepared : Prepared
  path : Path
  spare : Option Spare

-- Where a document stops first: at its end, or where it waits for its page.
inductive Stop where
  | ended (c : Course)
  | opening (v : Visit)

def Attempt.mark? : Attempt → Option Text
  | .refused _ => none
  | .broken mark _ _ | .written mark => some mark

-- Nothing goes wrong as long as a mark is free.
def Luck.fair (w : Workshop) (fs : Files) : Luck where
  attempt := match (fs.spareRoot w.spareDirectory).toOption.bind fs.freeMark? with
    | some mark => .written mark
    | none => .refused FileError.exists.message
  undeleted := none

def Spare.drop (spare : Spare) (fs : Files) : Files := if spare.undeleted.isSome then fs else fs.erase spare.place

def Spare.complaint? (spare : Spare) : Option Text :=
  spare.undeleted.map fun cause => ("cannot delete " : Text) ++ spare.path ++ ": " ++ cause

-- What is known of a page once its components are drawn, so that selectors for what they become at run time match.
def Prepared.of (level : Level) (page : Dom) : Prepared :=
  let (sheet,complaints) := Css.read page.customStyleText
  let followsData := !(Amp.dataTagsOf page).isEmpty
  ⟨sheet,Oracle.ofMarkup .document page.markup,
    complaints.map fun c => ("amp-custom CSS: " : Text) ++ c.message,level.tier followsData,followsData⟩

namespace Document

-- A page that there is no room for has no drawing, and its document gets nowhere. So it is with lists that contain
-- themselves, however much room there is.
def prepare (room : Nat) (level : Level) (raw : Text) : Option Prepared :=
  (Amp.drawPageTo room (Dom.read raw)).map (.of level)

-- The document as it came in, but with another style sheet. The drawing is not part of it.
def restyled (raw : Text) (sheet : Sheet) : Text := ((Dom.read raw).replaceStyles (Sheet.text sheet)).1.markup

def finish (raw : Text) (l : Learned) (c : Cleaning) : Course := .finished l c.removals (restyled raw c.sheet)

def spareAt (w : Workshop) (luck : Luck) (fs : Files) (root : Place) (mark : Text) : Spare :=
  ⟨Files.spareName mark :: root,Path.within (fs.spareDirectory w.spareDirectory) (Files.spareName mark),luck.undeleted⟩

def makeSpare (w : Workshop) (luck : Luck) (fs : Files) (contents : Bytes) : Files × Except Failure Spare :=
  let refused (cause : Text) : Failure := ⟨.resource,("cannot create temporary file: " : Text) ++ cause⟩
  match fs.spareRoot w.spareDirectory with
  | .error cause => (fs,.error (refused cause.message))
  | .ok root => match luck.attempt with
    | .refused cause => (fs,.error (refused cause))
    | .broken mark part cause =>
      let spare := spareAt w luck fs root mark
      (spare.drop (fs.put spare.place (.file part)),
        .error ⟨.resource,("cannot write " : Text) ++ spare.path ++ ": " ++ cause⟩)
    | .written mark =>
      let spare := spareAt w luck fs root mark
      (fs.put spare.place (.file contents),.ok spare)

def placePage (w : Workshop) (luck : Luck) (fs : Files) (i : Input) (raw : Text) :
    Files × Except Failure (Path × Option Spare) :=
  match i.path with
  | some p => (fs,.ok (p,none))
  | none => match makeSpare w luck fs (encode raw) with
    | (fs,.error f) => (fs,.error f)
    | (fs,.ok spare) => (fs,.ok (spare.path,some spare))

-- The stages of a document, one after the other, until one fails or the browser is needed.
def depart (w : Workshop) (luck : Luck) (fs : Files) (i : Input) : Option (Files × Stop) :=
  match i.text with
  | .error f => some (fs,.ended (.refused f))
  | .ok raw => do
    let p ← prepare w.room w.level raw
    match p.learned.tier with
    | .document =>
      let c := Cleaning.byDocument w.whitelist p.sheet.classify p.learned.followsData p.oracle p.sheet
      return (fs,.ended (finish raw p.learned c))
    | .browser => match placePage w luck fs i raw with
      | (fs,.error f) => return (fs,.ended (.unopened p.learned f))
      | (fs,.ok (path,spare)) => return (fs,.opening ⟨raw,p,path,spare⟩)

-- Opens the page of a document and goes through the other stages. A spare file does not stay, be its page open or not.
def arrive (w : Workshop) (s : Scene) (v : Visit) : Scene × Course :=
  let (running,page) := w.browser.openFile s.running s.files v.path
  let files := (v.spare.map fun spare => spare.drop s.files).getD s.files
  let l := {v.prepared.learned with warnings := v.prepared.learned.warnings ++ (v.spare.bind Spare.complaint?).toList}
  (⟨files,running⟩,match page with
    | .error cause => .unopened l ⟨.browser,cause⟩
    | .ok browser =>
      finish v.raw l (Cleaning.byBrowser w.whitelist v.prepared.sheet.classify v.prepared.oracle browser v.prepared.sheet))

def stages (w : Workshop) (luck : Luck) (s : Scene) (i : Input) : Option (Scene × Course) :=
  (depart w luck s.files i).map fun
    | (files,.ended c) => (⟨files,s.running⟩,c)
    | (files,.opening v) => arrive w ⟨files,s.running⟩ v

def advance (w : Workshop) (luck : Luck) (s : Scene) (d : Document) : Option (Scene × Document) :=
  if d.status.isFinal then some (s,d)
  else (stages w luck s d.input).map fun (s,course) => (s,d.follow course)

def process (w : Workshop) (fs : Files) (d : Document) : Option (Files × Document) :=
  (d.advance w (.fair w fs) ⟨fs,none⟩).map fun (s,d) => (s.files,d)

end Document
end StyleTrim
