import StyleTrim.Text
namespace StyleTrim
open Text

-- How much work is allowed for a document. Thorough work is for now the same as that with a browser.
inductive Level where
  | document
  | browser
  | thorough
deriving DecidableEq, Repr

inductive Tier where
  | document
  | browser
deriving DecidableEq, Repr

structure LevelError where
  number : Nat
deriving DecidableEq, Repr

def LevelError.message (e : LevelError) : Text :=
  ("optimization level must be 0, 1 or 2, got " : Text) ++ ofNat e.number

namespace Level

def ofNumber : Nat → Except LevelError Level
  | 0 => .ok .document
  | 1 => .ok .browser
  | 2 => .ok .thorough
  | n => .error ⟨n⟩

def number : Level → Nat
  | .document => 0
  | .browser => 1
  | .thorough => 2

-- A browser is used only where it is allowed and components follow data.
def tier (level : Level) (followsData : Bool) : Tier :=
  if level ≠ .document && followsData then .browser else .document

end Level

namespace Tier

def ofNumber : Nat → Except LevelError Tier
  | 0 => .ok .document
  | 1 => .ok .browser
  | n => .error ⟨n⟩

def number : Tier → Nat
  | .document => 0
  | .browser => 1

end Tier
end StyleTrim
