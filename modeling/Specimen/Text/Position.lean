set_option autoImplicit false

/-! # Places in a text

Two ways to name a place in a text: by the bytes of its UTF-8 form, with a column that counts
bytes from the last line feed (`bytePosition`), and by characters, with row and column counted
from one (`charPosition`).
-/

namespace Specimen.Text

/-- A line and a column. -/
structure Position where
  /-- The line, counted from one. -/
  line : Nat
  /-- The column. -/
  column : Nat
  deriving DecidableEq, Repr

/-- The number of bytes of a text's UTF-8 form. -/
def byteCount (s : List Char) : Nat := s.foldr (fun c bytes => c.utf8Size + bytes) 0

/-- Moves a position over the next `bytes` bytes of a text. -/
def Position.advanceBytes (p : Position) : Nat → List Char → Position
  | _, [] => p
  | bytes, c :: r =>
    if bytes = 0 then p
    else if c = '\n' then Position.advanceBytes ⟨p.line + 1, 0⟩ (bytes - 1) r
    else Position.advanceBytes ⟨p.line, p.column + min c.utf8Size bytes⟩ (bytes - c.utf8Size) r

/-- The place behind the first `bytes` bytes of a text: the line, and the number of bytes since
its start. -/
def bytePosition (text : List Char) (bytes : Nat) : Position :=
  Position.advanceBytes ⟨1, 0⟩ bytes text

/-- Moves a position over one character. -/
def Position.advanceChar (p : Position) (c : Char) : Position :=
  if c = '\n' then ⟨p.line + 1, 1⟩ else ⟨p.line, p.column + 1⟩

/-- The place of the character with index `index`: row and column, both counted from one. -/
def charPosition (text : List Char) (index : Nat) : Position :=
  (text.take index).foldl Position.advanceChar ⟨1, 1⟩

end Specimen.Text
