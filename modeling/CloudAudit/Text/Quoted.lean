import CloudAudit.Text.Hidden

/-!
# Quoted texts in messages

A text in double quotes, where quotes and backslashes are escaped and hidden characters stand as
their names or codes.
-/

namespace CloudAudit.Text

def escapeHidden (c : Char) : List Char :=
  if c = '"' then ['\\', '"']
  else if c = '\\' then ['\\', '\\']
  else if c = '\n' then ['\\', 'n']
  else if c = '\r' then ['\\', 'r']
  else if c = '\t' then ['\\', 't']
  else if c = '\x00' then ['\\', '0']
  else if isHidden c then "\\u\x7b".toList ++ Nat.toDigits 16 c.toNat ++ ['\x7d']
  else [c]

def quoted (s : String) : String :=
  String.ofList ('"' :: s.toList.flatMap escapeHidden ++ ['"'])

end CloudAudit.Text
