import Specimen.Files.Tree

set_option autoImplicit false

/-! # Path patterns

A pattern stands for the paths that it matches in a file tree. In a part of a pattern `?` stands
for any character, `*` for any characters, `[…]` for one of the characters listed and `[!…]` for
any other character; a part `**` stands for any number of directories. Parts without such signs
are followed as they are, so they may lead upwards. Names that start with a point are matched
like all others.
-/

namespace Specimen.Files

open Specimen.Text

/-! ## Signs -/

/-- One character or a range of characters in a list of characters. -/
inductive CharRange
  /-- A character. -/
  | single (c : Char)
  /-- The characters between two, which belong to them. -/
  | between (first last : Char)

/-- A character lies in a range. -/
def CharRange.holds (c : Char) : CharRange → Bool
  | .single d => c == d
  | .between first last => decide (first ≤ c) && decide (c ≤ last)

/-- A sign of a pattern. -/
inductive Sign
  /-- A character that stands for itself. -/
  | char (c : Char)
  /-- Any character. -/
  | anyChar
  /-- Any characters. -/
  | anyText
  /-- Any number of directories. -/
  | anyDirectories
  /-- A character in one of the ranges. -/
  | oneOf (ranges : List CharRange)
  /-- A character in none of the ranges. -/
  | noneOf (ranges : List CharRange)

/-- The character that a sign stands for, if it is only one. -/
def Sign.literal? : Sign → Option Char
  | .char c => some c
  | _ => none

/-- A sign stands for a character. -/
def Sign.matchesChar (c : Char) : Sign → Bool
  | .char d => c == d
  | .anyChar => true
  | .oneOf ranges => ranges.any (CharRange.holds c)
  | .noneOf ranges => !ranges.any (CharRange.holds c)
  | _ => false

/-- Signs stand for a name. -/
def matchesName : List Sign → List Char → Bool
  | [], name => name.isEmpty
  | .anyText :: signs, name =>
    (List.range (name.length + 1)).any fun n => matchesName signs (name.drop n)
  | sign :: signs, name =>
    match name with
    | [] => false
    | c :: rest => sign.matchesChar c && matchesName signs rest

/-! ## Reading -/

/-- What is wrong with a pattern. -/
inductive PatternError
  /-- More than two stars in a row. -/
  | wildcards
  /-- Two stars that are not a part of their own. -/
  | recursiveWildcards
  /-- A list of characters that is empty or does not end. -/
  | invalidRange

/-- The wording of an error. -/
def PatternError.message : PatternError → String
  | .wildcards => "wildcards are either regular `*` or recursive `**`"
  | .recursiveWildcards => "recursive wildcards must form a single path component"
  | .invalidRange => "invalid range pattern"

/-- What is wrong with a pattern, and how many characters into the pattern. -/
structure PatternFault where
  /-- The number of characters in front of the fault. -/
  position : Nat
  /-- What is wrong. -/
  error : PatternError

/-- The wording of a fault. -/
def PatternFault.message (f : PatternFault) : String :=
  s!"Pattern syntax error near position {f.position}: {f.error.message}"

/-- The ranges of a list of characters. -/
def rangesOf : List Char → List CharRange
  | first :: '-' :: last :: rest => .between first last :: rangesOf rest
  | c :: rest => .single c :: rangesOf rest
  | [] => []

/-- The characters of a list up to the bracket that ends it, which cannot be the first of them,
and what follows. -/
def splitList? : List Char → Option (List Char × List Char)
  | [] => none
  | c :: rest =>
    match rest.dropWhile (· != ']') with
    | [] => none
    | _ :: after => some (c :: rest.takeWhile (· != ']'), after)

/-- What follows a list of characters is shorter than the text that starts with the list. -/
theorem length_of_splitList? {s members after : List Char}
    (h : splitList? s = some (members, after)) : after.length < s.length := by
  cases s with
  | nil => simp [splitList?] at h
  | cons c rest =>
    simp only [splitList?] at h
    split at h
    · simp at h
    · rename_i d tail hd
      obtain ⟨-, rfl⟩ := Prod.mk.inj (Option.some.inj h)
      have hle := (List.dropWhile_sublist (l := rest) (· != ']')).length_le
      simp only [hd, List.length_cons] at hle ⊢
      omega

/-- A list of characters behind its opening bracket as a sign, the number of its characters, and
what follows. -/
def charList? (s : List Char) : Option (Sign × Nat × { r : List Char // r.length < s.length }) :=
  match s with
  | [] => none
  | c :: rest =>
    if c = '!' then
      match h : splitList? rest with
      | none => none
      | some (members, after) =>
        have := length_of_splitList? h
        some (.noneOf (rangesOf members), members.length + 2,
          ⟨after, by simp only [List.length_cons]; omega⟩)
    else
      match h : splitList? (c :: rest) with
      | none => none
      | some (members, after) =>
        some (.oneOf (rangesOf members), members.length + 1, ⟨after, length_of_splitList? h⟩)

/-- The signs of a pattern. A slash between parts is a character; `position` counts the
characters in front, and `fresh` tells that a part starts here. -/
def signsFrom (position : Nat) (fresh : Bool) (s : List Char) : Except PatternFault (List Sign) :=
  match s with
  | [] => .ok []
  | c :: rest =>
    if c = '*' then
      match rest with
      | '*' :: '*' :: _ => .error ⟨position + 2, .wildcards⟩
      | '*' :: after =>
        if fresh then
          match after with
          | [] => .ok [.anyDirectories]
          | d :: further =>
            if d = '/' then (signsFrom (position + 3) true further).map (.anyDirectories :: ·)
            else .error ⟨position + 2, .recursiveWildcards⟩
        else .error ⟨position - 1, .recursiveWildcards⟩
      | after => (signsFrom (position + 1) false after).map (.anyText :: ·)
    else if c = '?' then (signsFrom (position + 1) false rest).map (.anyChar :: ·)
    else if c = '[' then
      match charList? rest with
      | none => .error ⟨position, .invalidRange⟩
      | some (sign, count, ⟨after, _⟩) =>
        (signsFrom (position + 1 + count) false after).map (sign :: ·)
    else (signsFrom (position + 1) (c == '/') rest).map (.char c :: ·)
termination_by s.length

/-- A part of a pattern. -/
inductive PatternPart
  /-- A part without signs for other characters. -/
  | literal (name : List Char)
  /-- A part with signs for other characters. -/
  | wildcard (signs : List Sign)
  /-- Any number of directories. -/
  | anyDirectories

/-- The part that signs make up. -/
def PatternPart.ofSigns : List Sign → PatternPart
  | [.anyDirectories] => .anyDirectories
  | signs =>
    match signs.mapM Sign.literal? with
    | some name => .literal name
    | none => .wildcard signs

/-- A part stands for a name. -/
def PatternPart.matchesName (name : List Char) : PatternPart → Bool
  | .literal other => name == other
  | .wildcard signs => Files.matchesName signs name
  | .anyDirectories => false

/-- A pattern. -/
structure Pattern where
  /-- The parts, in order. -/
  parts : List PatternPart
  /-- The pattern ends in a slash and stands for directories only. -/
  directoriesOnly : Bool

/-- A text holds signs of patterns. -/
def isPattern (text : List Char) : Bool := text.any fun c => c == '*' || c == '?' || c == '['

/-- The pattern of a text. The text is read as a whole before its parts are read one by one. -/
def Pattern.ofText (text : List Char) : Except PatternFault Pattern := do
  let _ ← signsFrom 0 true text
  let endsInSlash := text.getLast? == some '/'
  let segments := segments '/' text
  let parts ← (if endsInSlash then segments.dropLast else segments).mapM (signsFrom 0 true)
  return ⟨parts.map PatternPart.ofSigns, endsInSlash⟩

/-! ## Matching -/

/-- The path is that of the working directory, whose entries are matched by their names alone. -/
def isHere (path : List Char) : Bool := Path.components path == [['.']]

/-- The path of a name in a directory. -/
def pathBelow (directory name : List Char) : List Char :=
  if isHere directory then name else Path.join directory name

/-- The paths that the parts of a pattern match from a directory or file on. -/
def matchParts (t : Tree) : List PatternPart → List Char → List (List Char)
  | [], path => [path]
  | .literal name :: parts, path =>
    let next := pathBelow path name
    let leads :=
      if name = ['.'] ∨ name = Path.parent then t.at? path = some .directory
      else (t.at? next).isSome
    if leads then matchParts t parts next else []
  | .wildcard signs :: parts, path =>
    match t.locate path with
    | .error _ => []
    | .ok l =>
      if t.find? l = some .directory then
        let upwards := [Path.parent, ['.']].filter fun name =>
          (signs.head?.bind Sign.literal?) == some '.' && matchesName signs name
        let names := (t.names l).filter (matchesName signs)
        upwards.flatMap (fun name => matchParts t parts (Path.join path name)) ++
          names.flatMap (fun name => matchParts t parts (pathBelow path name))
      else []
  | .anyDirectories :: [], path =>
    (descendantPaths t path).filter fun below => t.at? below = some .directory
  | .anyDirectories :: .anyDirectories :: parts, path =>
    matchParts t (.anyDirectories :: parts) path
  | .anyDirectories :: part :: parts, path =>
    ((descendantPaths t path).filter fun below =>
      ((Path.fileName? below).map part.matchesName).getD false).flatMap (matchParts t parts)
where
  /-- The paths of all that lies below a directory. -/
  descendantPaths (t : Tree) (path : List Char) : List (List Char) :=
    match t.locate path with
    | .error _ => []
    | .ok l =>
      if t.find? l = some .directory then
        (t.descendants l).map fun names => names.foldl pathBelow path
      else []

/-- The paths that a pattern matches from the working directory. -/
def Pattern.paths (p : Pattern) (t : Tree) : List (List Char) :=
  (matchParts t p.parts ['.']).filter fun path =>
    !p.directoriesOnly || t.at? path == some .directory

end Specimen.Files
