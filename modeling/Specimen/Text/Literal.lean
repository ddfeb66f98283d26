import Specimen.Text.Combining
import Specimen.Text.Unprintable

set_option autoImplicit false

/-! # Characters shown in messages

How a character is shown in a message: characters that are printed on their own stand for
themselves, others are escaped by a backslash and a letter or by their number in braces.
-/

namespace Specimen.Text

/-- A number in lower-case hexadecimal digits. -/
def hexText (n : Nat) : List Char := Nat.toDigits 16 n

/-- A character as it is shown between quotes of the kind `quote`. -/
def shownChar (quote c : Char) : List Char :=
  if c = '\x00' then ['\\', '0']
  else if c = '\t' then ['\\', 't']
  else if c = '\n' then ['\\', 'n']
  else if c = '\r' then ['\\', 'r']
  else if c = '\\' ∨ c = quote then ['\\', c]
  else if isUnprintable c || isCombining c then
    ['\\', 'u', '\x7b'] ++ hexText c.toNat ++ ['\x7d']
  else [c]

/-- A text shown between double quotes. -/
def shownText (s : List Char) : List Char := '"' :: (s.flatMap (shownChar '"') ++ ['"'])

end Specimen.Text
