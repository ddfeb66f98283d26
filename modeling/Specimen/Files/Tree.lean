import Specimen.Path

set_option autoImplicit false

/-! # File trees

The files and directories that paths lead to. A path is followed from the working directory, or
from the root directory if it is absolute; every part of it but the last has to lead to a
directory. Directories outside the working directory are there, but hold only what was put into
them.

Looking up what was put at a location gives it back, and leaves other locations alone
(`find?_put`).
-/

namespace Specimen.Files

open Specimen.Text

/-! ## Locations and entries -/

/-- A directory that locations are counted from. -/
inductive Anchor
  /-- The root directory. -/
  | root
  /-- The directory so many levels above the working directory. -/
  | working (levels : Nat)
  deriving DecidableEq

/-- A place in a file tree: the names that lead to it from its anchor, the last name first. -/
structure Location where
  /-- The directory that the names are counted from. -/
  anchor : Anchor
  /-- The names, from the last to the first. -/
  names : List (List Char)
  deriving DecidableEq

/-- The working directory. -/
def Location.here : Location := ⟨.working 0, []⟩

/-- The place of a name in a directory. -/
def Location.child (l : Location) (name : List Char) : Location := ⟨l.anchor, name :: l.names⟩

/-- The directory that holds a place; the root directory holds itself. -/
def Location.parent : Location → Location
  | ⟨anchor, _ :: names⟩ => ⟨anchor, names⟩
  | ⟨.working levels, []⟩ => ⟨.working (levels + 1), []⟩
  | ⟨.root, []⟩ => ⟨.root, []⟩

/-- What a file holds. -/
inductive Contents
  /-- A text. -/
  | text (text : String)
  /-- Bytes that are the encoding of no text. -/
  | binary
  deriving DecidableEq

/-- What bytes hold. -/
def Contents.ofBytes (bytes : ByteArray) : Contents :=
  match String.fromUTF8? bytes with
  | some s => .text s
  | none => .binary

/-- What is at a place. -/
inductive Entry
  /-- A directory. -/
  | directory
  /-- A file. -/
  | file (contents : Contents)
  deriving DecidableEq

/-! ## Trees -/

/-- Files and directories by their places. -/
structure Tree where
  /-- The places and what is there. -/
  entries : List (Location × Entry)

/-- An empty working directory. -/
def Tree.empty : Tree := ⟨[]⟩

/-- What is at a place. -/
def Tree.find? (t : Tree) (l : Location) : Option Entry :=
  if l.names = [] then some .directory else t.entries.lookup l

/-- The tree with something put at a place. -/
def Tree.put (t : Tree) (l : Location) (e : Entry) : Tree :=
  ⟨(l, e) :: t.entries.filter fun other => other.1 != l⟩

/-- Looking up in a list without the entries of another key. -/
theorem lookup_filter_ne {l k : Location} (h : k ≠ l) (entries : List (Location × Entry)) :
    (entries.filter fun other => other.1 != l).lookup k = entries.lookup k := by
  induction entries with
  | nil => rfl
  | cons first rest ih =>
    obtain ⟨place, e⟩ := first
    by_cases hp : place = l
    · subst hp
      have hk : (k == place) = false := by simpa using h
      simp [List.lookup_cons, hk, ih]
    · by_cases hk : k = place <;> simp [List.lookup_cons, hp, hk, ih]

/-- What was put at a place is there, and all else is where it was. -/
theorem Tree.find?_put (t : Tree) {l : Location} (h : l.names ≠ []) (e : Entry) (k : Location) :
    (t.put l e).find? k = if k = l then some e else t.find? k := by
  by_cases hk : k = l
  · subst hk
    simp [Tree.find?, Tree.put, h]
  · have hne : (k == l) = false := by simpa using hk
    simp [Tree.find?, Tree.put, hk, hne, List.lookup_cons, lookup_filter_ne hk]

/-- A name comes in front of another one: names are ordered by the numbers of their
characters. -/
def comesBefore (a b : List Char) : Bool := a.lex b fun c d => c.toNat < d.toNat

/-- The names in a directory, in ascending order. -/
def Tree.names (t : Tree) (l : Location) : List (List Char) :=
  (t.entries.filterMap fun (place, _) =>
    match place.names with
    | name :: names => if (⟨place.anchor, names⟩ : Location) = l then some name else none
    | [] => none).mergeSort fun a b => !comesBefore b a

/-- The places below a directory by the names that lead there, each directory in front of what
it holds and names in ascending order. -/
def Tree.descendants (t : Tree) (l : Location) : List (List (List Char)) :=
  (t.entries.filterMap fun (place, _) =>
    let names := place.names.take (place.names.length - l.names.length)
    if place.anchor = l.anchor ∧ place.names = names ++ l.names ∧ names ≠ [] then
      some names.reverse
    else none).mergeSort fun a b => !b.lex a comesBefore

/-! ## Paths -/

/-- Why a path cannot be used. -/
inductive Fault
  /-- Nothing is there. -/
  | missing
  /-- A directory is there, but no file. -/
  | isDirectory
  /-- A file stands in the place of a directory on the way. -/
  | notDirectory
  /-- A file is there, but no directory. -/
  | occupied
  /-- A name is longer than names may be. -/
  | longName
  /-- The path holds the character that no path may hold. -/
  | nulCharacter
  /-- The file holds no text. -/
  | notText
  deriving DecidableEq

/-- The wording of a fault. -/
def Fault.message : Fault → String
  | .missing => "No such file or directory (os error 2)"
  | .isDirectory => "Is a directory (os error 21)"
  | .notDirectory => "Not a directory (os error 20)"
  | .occupied => "File exists (os error 17)"
  | .longName => "File name too long (os error 36)"
  | .nulCharacter => "file name contained an unexpected NUL byte"
  | .notText => "stream did not contain valid UTF-8"

/-- The most bytes of a name. -/
def nameLimit : Nat := 255

/-- Where a part of a path leads from a directory. -/
def Location.step (l : Location) (part : List Char) : Except Fault Location :=
  if Path.isEmptyPart part then .ok l
  else if part = Path.parent then .ok l.parent
  else if nameLimit < (String.ofList part).utf8ByteSize then .error .longName
  else .ok (l.child part)

/-- Where a path starts. -/
def Location.origin (path : List Char) : Location :=
  if Path.isAbsolute path then ⟨.root, []⟩ else .here

/-- Where the parts of a path lead. Nothing needs to be where the last one leads. -/
def Tree.follow (t : Tree) (l : Location) : List (List Char) → Except Fault Location
  | [] => .ok l
  | part :: parts =>
    match t.find? l with
    | none => .error .missing
    | some (.file _) => .error .notDirectory
    | some .directory =>
      match l.step part with
      | .error f => .error f
      | .ok next => t.follow next parts

/-- The most bytes of a path. -/
def pathLimit : Nat := 4095

/-- What keeps a path from being followed at all. -/
def pathFault? (path : List Char) : Option Fault :=
  if path.contains '\x00' then some .nulCharacter
  else if path.isEmpty then some .missing
  else if pathLimit < (String.ofList path).utf8ByteSize then some .longName
  else none

/-- Where a path leads. -/
def Tree.locate (t : Tree) (path : List Char) : Except Fault Location :=
  match pathFault? path with
  | some f => .error f
  | none => t.follow (.origin path) (segments '/' path)

/-- The directory that holds what a path leads to, whether or not anything is there. -/
def Tree.locateHolder (t : Tree) (path : List Char) : Except Fault Location :=
  match pathFault? path with
  | some f => .error f
  | none =>
    let trimmed := (path.reverse.dropWhile (· == '/')).reverse
    t.follow (.origin path) ((segments '/' trimmed).dropLast ++ [[]])

/-- What a path leads to. -/
def Tree.at? (t : Tree) (path : List Char) : Option Entry :=
  (t.locate path).toOption.bind t.find?

/-! ## Reading and writing -/

/-- The text of the file that a path leads to. -/
def Tree.read (t : Tree) (path : List Char) : Except Fault String :=
  match t.locate path with
  | .error f => .error f
  | .ok l =>
    match t.find? l with
    | none => .error .missing
    | some .directory => .error .isDirectory
    | some (.file .binary) => .error .notText
    | some (.file (.text text)) => .ok text

/-- The parts of a path, the last first, lead to a directory. -/
def Tree.isDirectory (t : Tree) (l : Location) (reversed : List (List Char)) : Bool :=
  (t.follow l reversed.reverse).toOption.bind t.find? == some .directory

/-- The tree with a directory where the parts of a path, the last first, lead. All parts but the
last have to lead to directories that are there, and nothing may be where the last one leads. -/
def Tree.createDirectory (t : Tree) (l : Location) (reversed : List (List Char)) :
    Except Fault Tree :=
  match t.follow l reversed.reverse with
  | .error f => .error f
  | .ok place => if (t.find? place).isSome then .error .occupied else .ok (t.put place .directory)

/-- The tree with a directory where the parts of a path, the last first, lead. Only if something
is missing on the way are the directories on the way created, and then this one; a directory that
is there already is no fault. Behind a fault the tree holds the directories that were created on
the way to it. -/
def Tree.establish (t : Tree) (l : Location) : List (List Char) → Tree × Option Fault
  | [] => (t, none)
  | part :: before =>
    match t.createDirectory l (part :: before) with
    | .ok u => (u, none)
    | .error .missing =>
      match t.establish l before with
      | (u, some f) => (u, some f)
      | (u, none) =>
        match u.createDirectory l (part :: before) with
        | .ok v => (v, none)
        | .error f => (u, if u.isDirectory l (part :: before) then none else some f)
    | .error f => (t, if t.isDirectory l (part :: before) then none else some f)

/-- The tree with a directory where a path leads and in all places on the way, as far as they can
be created. -/
def Tree.createDirectories (t : Tree) (path : List Char) : Tree × Option Fault :=
  match Path.parts path with
  | [] => (t, none)
  | parts =>
    match pathFault? path with
    | some f => (t, some f)
    | none => t.establish (.origin path) parts.reverse

/-- The tree with a text in the file that a path leads to. A path that ends in a slash leads to
no file, whatever stands in front of the slash. -/
def Tree.write (t : Tree) (path : List Char) (text : String) : Except Fault Tree :=
  if path.getLast? = some '/' then
    match t.locateHolder path with
    | .error f => .error f
    | .ok _ => .error .isDirectory
  else
    match t.locate path with
    | .error f => .error f
    | .ok l =>
      if t.find? l = some .directory then .error .isDirectory
      else .ok (t.put l (.file (.text text)))

/-- The tree with something where a path leads, and with the directories on the way. Nothing
changes if a file is in the way. -/
def Tree.place (t : Tree) (path : List Char) (e : Entry) : Tree :=
  let prepared :=
    match (Path.directory? path).map t.createDirectories with
    | some (u, none) => u
    | _ => t
  match (prepared.locate path).toOption with
  | none => t
  | some l => prepared.put l e

/-! ## Changes -/

/-- The path to an anchor. -/
def Anchor.path : Anchor → List Char
  | .root => ['/']
  | .working levels => (List.replicate levels (Path.parent ++ ['/'])).flatten

/-- The path to a place. -/
def Location.path (l : Location) : List Char :=
  l.anchor.path ++ List.intercalate ['/'] l.names.reverse

/-- The files of a tree that an earlier tree does not hold, or not with the same text, ordered by
their paths. -/
def Tree.changes (before after : Tree) : List (Location × String) :=
  (after.entries.filterMap fun (place, e) =>
    match e with
    | .file (.text text) => if before.find? place = some e then none else some (place, text)
    | _ => none).mergeSort fun a b => !comesBefore b.1.path a.1.path

end Specimen.Files
