import ScriptDoc.Text
import ScriptDoc.Text.Unprintable

namespace ScriptDoc.Text

def hex (n : Nat) : Text := Nat.toDigits 16 n

-- How one character stands inside a quoted text.
def quoteChar (c : Char) : Text :=
  if c = '"' then "\\\""
  else if c = '\\' then "\\\\"
  else if c = '\n' then "\\n"
  else if c = '\r' then "\\r"
  else if c = '\t' then "\\t"
  else if c = '\x00' then "\\0"
  else if isUnprintable c then "\\u\x7b" ++ hex c.toNat ++ "\x7d"
  else [c]

-- Messages show a text they were given in this form.
def quoted (t : Text) : Text := "\"" ++ t.flatMap quoteChar ++ "\""

-- Characters that steer a terminal: bell, backspace, form feed, escape, delete, and the upper row of
-- controls.
def spellControl (c : Char) : Text :=
  if c = '\x07' then "\\x07"
  else if c = '\x08' then "\\x08"
  else if c = '\x0c' then "\\x0c"
  else if c = '\x1b' then "\\x1b"
  else if c = '\x7f' then "\\x7f"
  else if 0x80 ≤ c.toNat && c.toNat ≤ 0x9F then "\\u\x7b" ++ hex c.toNat ++ "\x7d"
  else [c]

-- Notices show a text in this form, without quotes and otherwise as it is.
def spelled (t : Text) : Text := t.flatMap spellControl

end ScriptDoc.Text
