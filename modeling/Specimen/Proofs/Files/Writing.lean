import Mathlib.Data.Finset.Card
import Specimen.Command.Run
import Specimen.Proofs.Path.Joining
import Specimen.Proofs.Success

set_option autoImplicit false

/-! # What writing leaves behind

Following a path can fail, but it never leads anywhere else than to the place that the path says
(`Location.ofPath`, `Tree.locate_eq_ok`). So writing at one path changes what is read at another
only if the two lead to one place. The directories on the way are put where nothing was, which
leaves all files alone (`Tree.Grown`).

Both together say what writing several files leaves behind: if no two of them lead to one place,
then each of them is there afterwards with its text (`writeSources_read`). If one of them cannot be
written, then those in front of it have been, and nothing but directories comes behind them
(`exists_of_writeSources_eq_some`).
-/

namespace Specimen.Files

open Specimen.Text

/-! ## Where a path leads -/

namespace Location

/-- Where a part of a path leads from a directory, if its name is not too long. -/
def onward (l : Location) (part : List Char) : Location :=
  if Path.isEmptyPart part then l else if part = Path.parent then l.parent else l.child part

/-- Where parts of a path lead from a directory, one after the other. -/
def walk (l : Location) (parts : List (List Char)) : Location := parts.foldl onward l

/-- Where a path leads, whatever is there. -/
def ofPath (path : List Char) : Location := (origin path).walk (segments '/' path)

variable {l k : Location}

theorem step_eq_ok {part : List Char} (h : l.step part = .ok k) : k = l.onward part := by
  unfold step at h
  unfold onward
  split_ifs at h ⊢
  all_goals exact (Except.ok.inj h).symm

theorem walk_append (parts parts' : List (List Char)) :
    l.walk (parts ++ parts') = (l.walk parts).walk parts' :=
  List.foldl_append

/-- Parts that do not count lead nowhere else. -/
theorem walk_segments (l : Location) (path : List Char) :
    l.walk (segments '/' path) = l.walk (Path.parts path) := by
  unfold Path.parts
  generalize segments '/' path = pieces
  induction pieces generalizing l with
  | nil => rfl
  | cons piece pieces ih =>
      cases hempty : Path.isEmptyPart piece
      · rw [List.filter_cons_of_pos (by simp [hempty])]
        exact ih (l.onward piece)
      · rw [List.filter_cons_of_neg (by simp [hempty]), ← ih l]
        simp [walk, onward, hempty]

/-- Names lead down, from one to the other. -/
theorem walk_of_names {names : List (List Char)}
    (h : ∀ name ∈ names, Path.isEmptyPart name = false ∧ name ≠ Path.parent) :
    l.walk names = ⟨l.anchor, names.reverse ++ l.names⟩ := by
  induction names generalizing l with
  | nil => rfl
  | cons name names ih =>
      rw [List.forall_mem_cons] at h
      have hdown : l.onward name = l.child name := by
        simp [onward, h.1.1, h.1.2]
      calc l.walk (name :: names)
          = (l.child name).walk names := by rw [← hdown]; rfl
        _ = ⟨l.anchor, (name :: names).reverse ++ l.names⟩ := by
            rw [ih h.2]
            simp [child]

/-- A path that is not absolute goes on from where the path leads that it is joined to. -/
theorem ofPath_join (path : List Char) {next : List Char} (h : Path.isAbsolute next = false) :
    ofPath (Path.join path next) = (ofPath path).walk (Path.parts next) := by
  have horigin : origin (Path.join path next) = origin path := by
    rw [origin, origin, Path.isAbsolute_join, h, Bool.or_false]
  rw [ofPath, ofPath, walk_segments, walk_segments, horigin, Path.parts_join path h, walk_append]

/-- A path that does not lead back up goes down from where the path leads that it is joined to. -/
theorem ofPath_join_of_down (path : List Char) {next : List Char}
    (hrelative : Path.isAbsolute next = false) (hparent : Path.parent ∉ Path.parts next) :
    ofPath (Path.join path next)
      = ⟨(ofPath path).anchor, (Path.parts next).reverse ++ (ofPath path).names⟩ := by
  rw [ofPath_join path hrelative, walk_of_names]
  intro part hpart
  refine ⟨by simpa using (List.mem_filter.mp hpart).2, ?_⟩
  rintro rfl
  exact hparent hpart

/-- Two paths that do not lead back up lead from one directory to one place exactly if they have
the same parts. -/
theorem ofPath_join_inj (path : List Char) {next next' : List Char}
    (h : Path.isAbsolute next = false ∧ Path.parent ∉ Path.parts next)
    (h' : Path.isAbsolute next' = false ∧ Path.parent ∉ Path.parts next') :
    ofPath (Path.join path next) = ofPath (Path.join path next') ↔
      Path.parts next = Path.parts next' := by
  rw [ofPath_join_of_down path h.1 h.2, ofPath_join_of_down path h'.1 h'.2, Location.mk.injEq,
    List.append_cancel_right_eq, List.reverse_inj, and_iff_right rfl]

end Location

namespace Tree

variable {t u v : Tree}

/-- Parts are followed from a directory, the first one if its name is not too long and the others
from where it leads. -/
theorem follow_cons_eq_ok_iff {l k : Location} {part : List Char} {parts : List (List Char)} :
    t.follow l (part :: parts) = .ok k ↔
      t.find? l = some .directory ∧ ∃ next, l.step part = .ok next ∧ t.follow next parts = .ok k := by
  rw [follow]
  cases t.find? l with
  | none => simp
  | some e =>
      cases e with
      | file contents => simp
      | directory => cases l.step part <;> simp

theorem locate_eq_ok_iff {path : List Char} {l : Location} :
    t.locate path = .ok l ↔
      pathFault? path = none ∧ t.follow (.origin path) (segments '/' path) = .ok l := by
  rw [locate]
  cases pathFault? path <;> simp

theorem follow_eq_ok {l k : Location} {parts : List (List Char)}
    (h : t.follow l parts = .ok k) : k = l.walk parts := by
  induction parts generalizing l with
  | nil => exact (Except.ok.inj h).symm
  | cons part parts ih =>
      obtain ⟨_, next, hstep, hrest⟩ := follow_cons_eq_ok_iff.mp h
      rw [Location.step_eq_ok hstep] at hrest
      exact ih hrest

/-- **A path leads nowhere else** than where its parts say. -/
theorem locate_eq_ok {path : List Char} {l : Location} (h : t.locate path = .ok l) :
    l = .ofPath path :=
  follow_eq_ok (locate_eq_ok_iff.mp h).2

/-- All directories of a tree are directories of another. -/
def KeepsDirectories (t u : Tree) : Prop :=
  ∀ l, t.find? l = some .directory → u.find? l = some .directory

namespace KeepsDirectories

theorem trans (h : t.KeepsDirectories u) (h' : u.KeepsDirectories v) : t.KeepsDirectories v :=
  fun l hl => h' l (h l hl)

/-- On the way there have to be directories only, so the way stays open. -/
theorem follow (hkeeps : t.KeepsDirectories u) {l k : Location} {parts : List (List Char)}
    (h : t.follow l parts = .ok k) : u.follow l parts = .ok k := by
  induction parts generalizing l with
  | nil => exact h
  | cons part parts ih =>
      obtain ⟨hdirectory, next, hstep, hrest⟩ := follow_cons_eq_ok_iff.mp h
      exact follow_cons_eq_ok_iff.mpr ⟨hkeeps l hdirectory, next, hstep, ih hrest⟩

theorem locate (hkeeps : t.KeepsDirectories u) {path : List Char} {l : Location}
    (h : t.locate path = .ok l) : u.locate path = .ok l := by
  obtain ⟨hpath, hfollow⟩ := locate_eq_ok_iff.mp h
  exact locate_eq_ok_iff.mpr ⟨hpath, hkeeps.follow hfollow⟩

end KeepsDirectories

/-! ## Directories are created -/

/-- Directories were put where nothing was, and nothing else was changed. -/
def Grown (t u : Tree) : Prop :=
  ∀ l, u.find? l = t.find? l ∨ (t.find? l = none ∧ u.find? l = some .directory)

theorem Grown.refl (t : Tree) : t.Grown t := fun _ => Or.inl rfl

/-- What was put where nothing was stays there. -/
theorem grownAt_trans {first second third : Option Entry}
    (h : second = first ∨ (first = none ∧ second = some .directory))
    (h' : third = second ∨ (second = none ∧ third = some .directory)) :
    third = first ∨ (first = none ∧ third = some .directory) := by
  rcases h with rfl | ⟨hnone, hdirectory⟩
  · exact h'
  · rcases h' with rfl | ⟨hnone', _⟩
    · exact Or.inr ⟨hnone, hdirectory⟩
    · rw [hdirectory] at hnone'
      cases hnone'

theorem Grown.trans (h : t.Grown u) (h' : u.Grown v) : t.Grown v :=
  fun l => grownAt_trans (h l) (h' l)

theorem Grown.find?_eq_some (h : t.Grown u) {l : Location} {e : Entry}
    (he : t.find? l = some e) : u.find? l = some e := by
  rcases h l with hsame | ⟨hnone, _⟩
  · rw [hsame, he]
  · rw [hnone] at he
    cases he

theorem Grown.keepsDirectories (h : t.Grown u) : t.KeepsDirectories u :=
  fun _ hl => h.find?_eq_some hl

theorem names_ne_nil {l : Location} (h : t.find? l ≠ some .directory) : l.names ≠ [] := by
  intro hnil
  rw [find?, if_pos hnil] at h
  exact h rfl

/-- Something put where no directory is leaves all directories alone. -/
theorem keepsDirectories_put {l : Location} (h : t.find? l ≠ some .directory) (e : Entry) :
    t.KeepsDirectories (t.put l e) := by
  intro k hk
  have hne : k ≠ l := by
    rintro rfl
    exact h hk
  rw [find?_put t (names_ne_nil h), if_neg hne, hk]

/-- A directory put where nothing is changes nothing else. -/
theorem grown_put {l : Location} (h : t.find? l = none) : t.Grown (t.put l .directory) := by
  have hfile : t.find? l ≠ some .directory := by simp [h]
  have hnames := names_ne_nil hfile
  intro k
  rw [find?_put t hnames]
  by_cases hk : k = l
  · rw [if_pos hk, hk]
    exact Or.inr ⟨h, rfl⟩
  · rw [if_neg hk]
    exact Or.inl rfl

theorem grown_of_createDirectory {l : Location} {reversed : List (List Char)}
    (h : t.createDirectory l reversed = .ok u) : t.Grown u := by
  unfold createDirectory at h
  split at h
  · cases h
  · rename_i place _
    split_ifs at h with hplace
    obtain rfl := Except.ok.inj h
    exact grown_put (by simpa using hplace)

/-- **Nothing but directories is created**, also if not all of them can be. -/
theorem grown_establish (t : Tree) (l : Location) (reversed : List (List Char)) :
    t.Grown (t.establish l reversed).1 := by
  induction reversed with
  | nil => exact Grown.refl t
  | cons part before ih =>
      rw [establish]
      split
      · rename_i u hcreate
        exact grown_of_createDirectory hcreate
      · -- the directories on the way come first, and stay whatever becomes of this one
        split
        · rename_i u f hbefore
          rw [hbefore] at ih
          exact ih
        · rename_i u hbefore
          rw [hbefore] at ih
          split
          · rename_i v hcreate
            exact ih.trans (grown_of_createDirectory hcreate)
          · exact ih
      · exact Grown.refl t

theorem grown_createDirectories (t : Tree) (path : List Char) :
    t.Grown (t.createDirectories path).1 := by
  rw [createDirectories]
  split
  · exact Grown.refl t
  · split
    · exact Grown.refl t
    · exact grown_establish t _ _

/-! ## Files are written -/

theorem read_eq_ok_iff {path : List Char} {text : String} :
    t.read path = .ok text ↔
      t.locate path = .ok (.ofPath path) ∧ t.find? (.ofPath path) = some (.file (.text text)) := by
  constructor
  · intro h
    unfold read at h
    split at h
    · cases h
    · rename_i l hlocate
      obtain rfl := locate_eq_ok hlocate
      split at h <;> cases h
      rename_i hfile
      exact ⟨hlocate, hfile⟩
  · rintro ⟨hlocate, hfile⟩
    simp only [read, hlocate, hfile]

/-- What is read stays when directories are put where nothing was. -/
theorem Grown.read (h : t.Grown u) {path : List Char} {text : String}
    (hread : t.read path = .ok text) : u.read path = .ok text := by
  obtain ⟨hlocate, hfile⟩ := read_eq_ok_iff.mp hread
  exact read_eq_ok_iff.mpr ⟨h.keepsDirectories.locate hlocate, h.find?_eq_some hfile⟩

theorem write_eq_ok {path : List Char} {text : String} (h : t.write path text = .ok u) :
    t.locate path = .ok (.ofPath path) ∧ t.find? (.ofPath path) ≠ some .directory ∧
      u = t.put (.ofPath path) (.file (.text text)) := by
  unfold write at h
  split at h
  · split at h <;> cases h
  · split at h
    · cases h
    · rename_i l hlocate
      obtain rfl := locate_eq_ok hlocate
      split_ifs at h with hdirectory
      exact ⟨hlocate, hdirectory, (Except.ok.inj h).symm⟩

end Tree

end Specimen.Files

namespace Specimen.Command

open Specimen.Files Specimen.Java

variable {t u : Tree} {path : List Char} {text : String}

theorem grown_prepare (t : Tree) (path : List Char) : t.Grown (prepare t path).1 := by
  rw [prepare]
  split
  · exact Tree.Grown.refl t
  · exact Tree.grown_createDirectories t _

/-- The directories of a path come first. Then the text is written, or nothing more happens. -/
theorem writeAt_cases (t : Tree) (path : List Char) (text : String) :
    ∃ v, t.Grown v ∧
      ((∃ failure, writeAt t path text = (v, some failure)) ∨
        ∃ u, v.write path text = .ok u ∧ writeAt t path text = (u, none)) := by
  refine ⟨(prepare t path).1, grown_prepare t path, ?_⟩
  unfold writeAt
  split
  · rename_i v failure hprepare
    rw [hprepare]
    exact Or.inl ⟨failure, rfl⟩
  · rename_i v hprepare
    rw [hprepare]
    split
    · exact Or.inl ⟨_, rfl⟩
    · rename_i u hwrite
      exact Or.inr ⟨u, hwrite, rfl⟩

/-- **One place holds the text** after it was written, and everywhere else only directories were
put where nothing was. -/
theorem writeAt_eq_ok (h : writeAt t path text = (u, none)) :
    ∃ v, t.Grown v ∧ v.KeepsDirectories u ∧ v.locate path = .ok (.ofPath path) ∧
      ∀ k, u.find? k = if k = .ofPath path then some (.file (.text text)) else v.find? k := by
  obtain ⟨v, hgrown, ⟨failure, hfail⟩ | ⟨w, hwrite, hdone⟩⟩ := writeAt_cases t path text
  · rw [hfail] at h
    cases h
  · obtain rfl : w = u := (Prod.mk.inj (hdone.symm.trans h)).1
    obtain ⟨hlocate, hfile, rfl⟩ := Tree.write_eq_ok hwrite
    exact ⟨v, hgrown, Tree.keepsDirectories_put hfile _, hlocate,
      Tree.find?_put v (Tree.names_ne_nil hfile) _⟩

/-- **A text that cannot be written leaves directories behind**, and nothing else. -/
theorem grown_of_writeAt {failure : RunFailure} (h : writeAt t path text = (u, some failure)) :
    t.Grown u := by
  obtain ⟨v, hgrown, ⟨failure', hfail⟩ | ⟨w, hwrite, hdone⟩⟩ := writeAt_cases t path text
  · obtain rfl : v = u := (Prod.mk.inj (hfail.symm.trans h)).1
    exact hgrown
  · rw [hdone] at h
    cases h

/-- The directory `new` is created for a file in it, and stays although the file's name turns out to
be too long. -/
example :
    let path := "new/".toList ++ List.replicate 300 'x'
    (writeAt Tree.empty path "text").2.isSome = true ∧
      (writeAt Tree.empty path "text").1.at? "new".toList = some .directory := by
  decide +kernel

/-- What was written is read. -/
theorem read_of_writeAt (h : writeAt t path text = (u, none)) : u.read path = .ok text := by
  obtain ⟨v, _, hkeeps, hlocate, hfind⟩ := writeAt_eq_ok h
  refine Tree.read_eq_ok_iff.mpr ⟨hkeeps.locate hlocate, ?_⟩
  rw [hfind, if_pos rfl]

/-- What is read at a path that leads elsewhere stays. -/
theorem read_of_writeAt_of_ne (h : writeAt t path text = (u, none)) {other : List Char}
    (hne : Location.ofPath other ≠ .ofPath path) {text' : String}
    (hread : t.read other = .ok text') : u.read other = .ok text' := by
  obtain ⟨hlocate, hfile⟩ := Tree.read_eq_ok_iff.mp hread
  obtain ⟨v, hgrown, hkeeps, _, hfind⟩ := writeAt_eq_ok h
  -- the way to the file stays open, and at its own place nothing is put
  refine Tree.read_eq_ok_iff.mpr ⟨(hgrown.keepsDirectories.trans hkeeps).locate hlocate, ?_⟩
  rw [hfind, if_neg hne, hgrown.find?_eq_some hfile]

/-! ## Counting files -/

/-- What the path of a source file below a directory is compared by. -/
def targetOf (directory : List Char) (source : SourceFile) : List (List Char) :=
  Path.components (destination directory source)

theorem nodup_eraseDups {α : Type} [BEq α] [LawfulBEq α] : ∀ xs : List α, xs.eraseDups.Nodup
  | [] => List.nodup_nil
  | x :: xs => by
      rw [List.eraseDups_cons, List.nodup_cons, List.mem_eraseDups]
      exact ⟨by simp, nodup_eraseDups _⟩
termination_by xs => xs.length
decreasing_by exact Nat.lt_succ_of_le (List.length_filter_le _ _)

/-- **Paths are counted once**, however often they are repeated. -/
theorem destinationCount_eq_card (directory : List Char) (sources : List SourceFile) :
    destinationCount directory sources = (sources.map (targetOf directory)).toFinset.card := by
  have hset : (sources.map (targetOf directory)).eraseDups.toFinset
      = (sources.map (targetOf directory)).toFinset := by
    ext target
    rw [List.mem_toFinset, List.mem_toFinset, List.mem_eraseDups]
  rw [← hset, List.toFinset_card_of_nodup (nodup_eraseDups _)]
  rfl

/-! ## Several files are written -/

variable {directory : List Char} {sources : List SourceFile}

theorem exists_of_writeSources_cons {source : SourceFile}
    (h : writeSources directory t (source :: sources) = (u, none)) :
    ∃ v, writeAt t (destination directory source) source.contents = (v, none) ∧
      writeSources directory v sources = (u, none) := by
  unfold writeSources at h
  split at h
  · cases h
  · rename_i v hwrite
    exact ⟨v, hwrite, h⟩

/-- **Where writing stops.** The source files in front of the one that cannot be written have all
been written, and nothing but directories comes behind them. -/
theorem exists_of_writeSources_eq_some {failure : RunFailure}
    (h : writeSources directory t sources = (u, some failure)) :
    ∃ before source after v, sources = before ++ source :: after ∧
      writeSources directory t before = (v, none) ∧
      writeAt v (destination directory source) source.contents = (u, some failure) ∧
      v.Grown u := by
  induction sources generalizing t with
  | nil => cases h
  | cons first rest ih =>
      unfold writeSources at h
      split at h
      · rename_i hwrite
        cases h
        exact ⟨[], first, rest, t, rfl, rfl, hwrite, grown_of_writeAt hwrite⟩
      · rename_i w hwrite
        obtain ⟨before, source, after, v, rfl, hbefore, hstop, hgrown⟩ := ih h
        refine ⟨first :: before, source, after, v, rfl, ?_, hstop, hgrown⟩
        rw [writeSources, hwrite]
        exact hbefore

/-- Files leave alone what is read at a path that leads to none of them. -/
theorem read_of_writeSources_of_ne (h : writeSources directory t sources = (u, none))
    {other : List Char}
    (hne : ∀ source ∈ sources, Location.ofPath other ≠ .ofPath (destination directory source))
    (hread : t.read other = .ok text) : u.read other = .ok text := by
  induction sources generalizing t with
  | nil =>
      obtain rfl := (Prod.mk.inj h).1
      exact hread
  | cons source sources ih =>
      rw [List.forall_mem_cons] at hne
      obtain ⟨v, hwrite, hrest⟩ := exists_of_writeSources_cons h
      exact ih hrest hne.2 (read_of_writeAt_of_ne hwrite hne.1 hread)

/-- **Files at different places are all there** when they have been written. -/
theorem writeSources_read (h : writeSources directory t sources = (u, none))
    (hplaces : sources.Pairwise fun source other =>
      Location.ofPath (destination directory source) ≠ .ofPath (destination directory other)) :
    ∀ source ∈ sources, u.read (destination directory source) = .ok source.contents := by
  induction sources generalizing t with
  | nil => simp
  | cons source sources ih =>
      rw [List.pairwise_cons] at hplaces
      obtain ⟨v, hwrite, hrest⟩ := exists_of_writeSources_cons h
      rw [List.forall_mem_cons]
      constructor
      · -- the later files lead elsewhere, so the first one stays as it was written
        exact read_of_writeSources_of_ne hrest hplaces.1 (read_of_writeAt hwrite)
      · exact ih hrest hplaces.2

end Specimen.Command
