import SessionReplay.Text.Visible

/-! Text between quotes, as it is shown in messages: nothing in it is left invisible
and no quote in it stands alone. -/
namespace SessionReplay.Text

/-- A code point in braces, in hexadecimal digits. -/
def codePoint (c : Char) : List Char :=
  '\\' :: 'u' :: '\x7b' :: Nat.toDigits 16 c.toNat ++ ['\x7d']

def shown (c : Char) : List Char :=
  if c = '"' ∨ c = '\\' then ['\\', c]
  else if c = '\x00' then ['\\', '0']
  else if c = '\t' then ['\\', 't']
  else if c = '\n' then ['\\', 'n']
  else if c = '\x0d' then ['\\', 'r']
  else if isVisible c then [c]
  else codePoint c

def quoted (text : String) : String :=
  String.ofList ('"' :: text.toList.flatMap shown ++ ['"'])

end SessionReplay.Text
