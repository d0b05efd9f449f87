import StoryScript.Text.Unprintable
import StoryScript.Text.Extending

set_option autoImplicit false

namespace StoryScript.Text

def needsNumber (c : Char) : Bool := isUnprintable c || isExtending c

def numbered (c : Char) : List Char :=
  '\\' :: 'u' :: '\x7b' :: (Nat.toDigits 16 c.toNat ++ ['\x7d'])

def escape (c : Char) : List Char :=
  if c = '"' then ['\\', '"']
  else if c = '\\' then ['\\', '\\']
  else if c = '\n' then ['\\', 'n']
  else if c = '\r' then ['\\', 'r']
  else if c = '\t' then ['\\', 't']
  else if c = '\x00' then ['\\', '0']
  else if needsNumber c then numbered c
  else [c]

def quotedChars (cs : List Char) : List Char := '"' :: (cs.flatMap escape ++ ['"'])

def quoted (text : String) : String := String.ofList (quotedChars text.toList)

end StoryScript.Text
