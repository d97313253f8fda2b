import StyleTrim.Css.Sheet
namespace StyleTrim.Css
open Text

-- Compact text: no blank stands where the parts themselves hold none.
def Declaration.text (d : Declaration) : Text :=
  d.name ++ ":" ++ d.value ++ (if d.important then "!important" else "")

def Entry.text : Entry → Text
  | .declaration d => d.text
  | .verbatim s => s

def Rule.text (r : Rule) : Text :=
  r.selector ++ "\x7b" ++ join ";" (r.entries.map Entry.text) ++ "\x7d"

-- The name of an at-rule with its prelude.
def headText (name params : Text) : Text :=
  "@" ++ name ++ (if params.isEmpty then [] else ' ' :: params)

mutual
def Node.text : Node → Text
  | .rule r => r.text
  | .statement name params => headText name params ++ ";"
  | .block name params body => headText name params ++ "\x7b" ++ body ++ "\x7d"
  | .group name params children => headText name params ++ "\x7b" ++ Sheet.text children ++ "\x7d"
def Sheet.text : Sheet → Text
  | [] => []
  | n :: more => Node.text n ++ Sheet.text more
end

end StyleTrim.Css
