import StyleTrim.Text.Invisible
namespace StyleTrim.Text

-- Text between double quotes, with what cannot be seen written by its number.

def hexText (n : Nat) : Text := Nat.toDigits 16 n

def quotedChar (c : Char) : Text :=
  if c = '\x00' then "\\0"
  else if c = '\t' then "\\t"
  else if c = '\n' then "\\n"
  else if c = '\r' then "\\r"
  else if c = '\\' || c = '"' then ['\\',c]
  else if c.toNat < 0x20 || c.toNat = 0x7f || isInvisible c then
    "\\u\x7b" ++ hexText c.toNat ++ "\x7d"
  else [c]

def quoted (s : Text) : Text := '"' :: s.flatMap quotedChar ++ "\""

end StyleTrim.Text
