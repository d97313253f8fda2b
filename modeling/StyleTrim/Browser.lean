import StyleTrim.Files
import StyleTrim.Oracle
namespace StyleTrim
open Text

-- A browser that runs: it opens files as pages, each in a tab of its own, and answers about them.
structure Session where
  openFile : Files → Path → Except Text Oracle

structure Browser where
  launch : Except Text Session

namespace Browser

def missing : Browser where
  launch :=
    let cause := FileError.notFound.message
    .error (("failed to launch Chrome: " : Text) ++ cause ++ ": " ++ cause)

-- The session that all documents share. It is launched for the first document that asks, and after a launch
-- that failed once more for the next one.
def session (b : Browser) : Option Session → Option Session × Except Text Session
  | some running => (some running,.ok running)
  | none => match b.launch with
    | .ok launched => (some launched,.ok launched)
    | .error cause => (none,.error cause)

def openFile (b : Browser) (running : Option Session) (fs : Files) (p : Path) : Option Session × Except Text Oracle :=
  match b.session running with
  | (running,.ok session) => (running,session.openFile fs p)
  | (running,.error cause) => (running,.error cause)

end Browser
end StyleTrim
