import SelectiveDisclosure.Text.Printable
import SelectiveDisclosure.Text.Extending

/-!
Quoted text: how a value is shown inside a message. The marks around it, the backslash and
whatever cannot be seen on its own are escaped, so that the message stays on one line and shows
exactly what was given.
-/

namespace SelectiveDisclosure.Text

def escapeCodePoint (c : Char) : List Char :=
  ['\\', 'u', '\x7b'] ++ Nat.toDigits 16 c.toNat ++ ['\x7d']

def escapeLetters : List (Char × Char) := [('\x00', '0'), ('\t', 't'), ('\n', 'n'), ('\r', 'r')]

def escape (mark c : Char) : List Char :=
  if c = mark || c = '\\' then ['\\', c]
  else match escapeLetters.lookup c with
    | some letter => ['\\', letter]
    | none => if isExtending c || !isPrintable c then escapeCodePoint c else [c]

def quote (s : String) : String :=
  String.ofList ('"' :: (s.toList.flatMap (escape '"') ++ ['"']))

def quoteChar (c : Char) : String :=
  String.ofList ('\'' :: (escape '\'' c ++ ['\'']))

end SelectiveDisclosure.Text
