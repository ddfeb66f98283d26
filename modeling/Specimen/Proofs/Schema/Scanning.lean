import Mathlib.Data.Finset.Card
import Specimen.Proofs.Schema.Representative

set_option autoImplicit false

/-! # One pass as a loop over the classes

What a pass replaces is defined class by class, each class with the first one by seniority that has
its signature. A program goes over the classes once instead. It holds a table of the signatures that
it has met, which it reads and fills at the same time, and in which the signature of the class that
is kept in any case is there from the start, wherever that class is registered. `Scan` is this loop,
and `renames_scan` says that it ends with the same names: `Scan.Reached.visit` is the step, one
class, and `Scan.Reached.visits` is the run.

`chainFree_scan` says what the names are good for: no name that replaces another one is replaced
itself, so that going over all references once is enough.
-/

namespace Specimen.Schema

/-! ## The loop -/

/-- What a pass holds while it goes over the classes. -/
structure Scan where
  /-- The signatures that were met, each with the name of the class that is kept for it. -/
  survivors : List (List (String × FieldType) × String)
  /-- The names that are replaced, each with the name that replaces it. -/
  renames : Keyed (String × String) Prod.fst

/-- Before the first class, only the signature of the class that is kept in any case is known. -/
def Scan.start (kept : Option ClassDefinition) : Scan :=
  ⟨kept.toList.map fun c => (c.signature, c.qualifiedName), Keyed.empty⟩

/-- One class: its signature is put into the table if it is not there. If it is there, but not for
this class, the name of the class is replaced. -/
def Scan.visit (s : Scan) (c : ClassDefinition) : Scan :=
  match s.survivors.lookup c.signature with
  | none => { s with survivors := s.survivors ++ [(c.signature, c.qualifiedName)] }
  | some survivor =>
      if survivor = c.qualifiedName then s
      else { s with renames := s.renames.insert (c.qualifiedName, survivor) }

namespace Registry

variable {r : Registry} {root : Option String}

/-- The loop over all classes in order. -/
def scan (r : Registry) (root : Option String) : Scan :=
  r.toList.foldl Scan.visit (Scan.start (root.bind r.find?))

/-- The name of a class and the name that replaces it, unless the class is kept. -/
def renaming? (r : Registry) (root : Option String) (c : ClassDefinition) :
    Option (String × String) :=
  if r.survivor root c = c.qualifiedName then none
  else some (c.qualifiedName, r.survivor root c)

/-- The class that is kept in any case, if it is registered, and the classes seen so far. -/
def senior (r : Registry) (root : Option String) (seen : List ClassDefinition) :
    List ClassDefinition :=
  (root.bind r.find?).toList ++ seen

/-- The survivor of a class is already known when the loop comes to the class. -/
theorem survivor_of_split {seen rest : List ClassDefinition} {c : ClassDefinition}
    (hr : r.toList = seen ++ c :: rest) :
    r.survivor root c = (((r.senior root seen).find? fun d => d.signature == c.signature).map
      ClassDefinition.qualifiedName).getD c.qualifiedName := by
  have hseniority : r.bySeniority root = r.senior root seen ++ c :: rest := by
    rw [bySeniority, hr, senior, List.append_assoc]
  rw [survivor, hseniority, List.find?_append]
  cases (r.senior root seen).find? fun d => d.signature == c.signature with
  | some d => rfl
  | none =>
      -- nothing was met, so the class is the first one with its signature
      have hself : (c :: rest).find? (fun d => d.signature == c.signature) = some c :=
        List.find?_cons_of_pos (by simp)
      rw [Option.none_or, hself]
      rfl

end Registry

namespace Scan

variable {r : Registry} {root : Option String} {seen rest : List ClassDefinition}
  {c : ClassDefinition} {s : Scan}

/-- What holds of the loop when it has gone over the classes `seen`. -/
structure Reached (r : Registry) (root : Option String) (seen : List ClassDefinition) (s : Scan) :
    Prop where
  /-- The table gives the first class with each signature. -/
  survivors : ∀ signature, s.survivors.lookup signature
    = ((r.senior root seen).find? fun d => d.signature == signature).map
        ClassDefinition.qualifiedName
  /-- The names of the classes seen so far are replaced as those of all classes are. -/
  renames : s.renames.toList = seen.filterMap (r.renaming? root)

/-- A signature is looked up behind a new entry as it is found behind a new class. -/
theorem lookup_singleton (signature : List (String × FieldType)) :
    [(c.signature, c.qualifiedName)].lookup signature
      = ([c].find? fun d => d.signature == signature).map ClassDefinition.qualifiedName := by
  by_cases h : c.signature = signature
  · simp [h]
  · have hne : signature ≠ c.signature := Ne.symm h
    simp [List.lookup_cons, h, beq_false_of_ne hne]

theorem reached_start (r : Registry) (root : Option String) :
    Reached r root [] (start (root.bind r.find?)) where
  survivors signature := by
    show List.lookup signature ((root.bind r.find?).toList.map _) = _
    rw [Registry.senior, List.append_nil]
    cases root.bind r.find? with
    | none => rfl
    | some d =>
        exact lookup_singleton signature
  renames := rfl

/-- A name is replaced only when its class is visited. -/
theorem Reached.not_mem_keys (h : Reached r root seen s) (hr : r.toList = seen ++ c :: rest) :
    c.qualifiedName ∉ s.renames.keys := by
  intro hmem
  obtain ⟨p, hp, hname⟩ := List.mem_map.mp hmem
  rw [h.renames] at hp
  obtain ⟨d, hd, hdp⟩ := List.mem_filterMap.mp hp
  have hdname : d.qualifiedName = c.qualifiedName := by
    rw [Registry.renaming?] at hdp
    split at hdp
    · cases hdp
    · cases hdp
      exact hname
  -- no class seen before has the same name
  have hnodup := r.nodup
  rw [hr, List.map_append, List.nodup_append] at hnodup
  exact hnodup.2.2 _ (List.mem_map_of_mem hd) _ (List.mem_map_of_mem List.mem_cons_self) hdname

theorem senior_concat (r : Registry) (root : Option String) (seen : List ClassDefinition)
    (c : ClassDefinition) : r.senior root (seen ++ [c]) = r.senior root seen ++ [c] :=
  (List.append_assoc _ _ _).symm

theorem filterMap_concat (r : Registry) (root : Option String) (seen : List ClassDefinition)
    (c : ClassDefinition) :
    (seen ++ [c]).filterMap (r.renaming? root)
      = seen.filterMap (r.renaming? root) ++ (r.renaming? root c).toList := by
  rw [List.filterMap_append]
  cases hc : r.renaming? root c with
  | none => rw [List.filterMap_cons_none hc]; rfl
  | some p => rw [List.filterMap_cons_some hc]; rfl

/-- A class with a new signature is entered into the table. -/
theorem Reached.lookup_enter (h : Reached r root seen s) (signature : List (String × FieldType)) :
    (s.survivors ++ [(c.signature, c.qualifiedName)]).lookup signature
      = ((r.senior root (seen ++ [c])).find? fun d => d.signature == signature).map
          ClassDefinition.qualifiedName := by
  rw [List.lookup_append, h.survivors, lookup_singleton, senior_concat, List.find?_append,
    Option.map_or]

/-- A class whose signature was met changes nothing of what the table has to give. -/
theorem Reached.lookup_met (h : Reached r root seen s) {survivor : String}
    (hmet : s.survivors.lookup c.signature = some survivor)
    (signature : List (String × FieldType)) :
    s.survivors.lookup signature
      = ((r.senior root (seen ++ [c])).find? fun d => d.signature == signature).map
          ClassDefinition.qualifiedName := by
  rw [senior_concat, List.find?_append, Option.map_or, ← h.survivors, ← lookup_singleton]
  by_cases hsignature : signature = c.signature
  · rw [hsignature, hmet]
    rfl
  · have hother : [(c.signature, c.qualifiedName)].lookup signature = none := by
      simp [List.lookup_cons, beq_false_of_ne hsignature]
    rw [hother, Option.or_none]

/-- **One class.** -/
theorem Reached.visit (h : Reached r root seen s) (hr : r.toList = seen ++ c :: rest) :
    Reached r root (seen ++ [c]) (s.visit c) := by
  have hsurvivor : r.survivor root c = _ := Registry.survivor_of_split hr
  rw [← h.survivors c.signature] at hsurvivor
  cases hmet : s.survivors.lookup c.signature with
  | none =>
      -- the class is the first one with its signature, and is kept
      rw [hmet] at hsurvivor
      have hkept : r.renaming? root c = none := if_pos hsurvivor
      have hvisit : s.visit c
          = { s with survivors := s.survivors ++ [(c.signature, c.qualifiedName)] } := by
        rw [Scan.visit, hmet]
      rw [hvisit]
      refine ⟨h.lookup_enter, ?_⟩
      rw [filterMap_concat, hkept, h.renames]
      exact (List.append_nil _).symm
  | some survivor =>
      rw [hmet] at hsurvivor
      have htable := h.lookup_met hmet
      by_cases hself : survivor = c.qualifiedName
      · have hkept : r.renaming? root c = none := if_pos (hsurvivor.trans hself)
        have hvisit : s.visit c = s := by
          simp only [Scan.visit, hmet, if_pos hself]
        rw [hvisit]
        refine ⟨htable, ?_⟩
        rw [filterMap_concat, hkept, h.renames]
        exact (List.append_nil _).symm
      · have hreplaced : r.renaming? root c = some (c.qualifiedName, survivor) := by
          rw [Registry.renaming?, hsurvivor]
          exact if_neg hself
        have hvisit : s.visit c
            = { s with renames := s.renames.insert (c.qualifiedName, survivor) } := by
          simp only [Scan.visit, hmet, if_neg hself]
        rw [hvisit]
        refine ⟨htable, ?_⟩
        show Keyed.upsert Prod.fst _ s.renames.toList = _
        rw [Keyed.upsert_eq_append (h.not_mem_keys hr), h.renames, filterMap_concat, hreplaced]
        rfl

/-- **All classes**, by induction over those that are left. -/
theorem Reached.visits (h : Reached r root seen s) (hr : r.toList = seen ++ rest) :
    Reached r root r.toList (rest.foldl Scan.visit s) := by
  induction rest generalizing seen s with
  | nil =>
      rw [List.append_nil] at hr
      rw [hr]
      exact h
  | cons c rest ih =>
      refine ih (h.visit hr) ?_
      rw [hr, List.append_assoc]
      rfl

end Scan

namespace Registry

variable {r : Registry} {root : Option String}

/-- **The loop replaces the names of the duplicates.** -/
theorem renames_scan (r : Registry) (root : Option String) :
    (r.scan root).renames.toList = r.duplicates root :=
  ((Scan.reached_start r root).visits rfl).renames

/-! ## What the names are good for -/

/-- Names that replace names of a registry, such that going over all references once is enough.
`root` names the class that is kept in any case. -/
structure ChainFree (r : Registry) (root : Option String)
    (renames : Keyed (String × String) Prod.fst) : Prop where
  /-- A name that is replaced and the one that replaces it are registered with one signature. -/
  identical : ∀ p ∈ renames.toList, ∃ c d, r.find? p.1 = some c ∧ r.find? p.2 = some d ∧
    d.signature = c.signature
  /-- No name that replaces another one is replaced. -/
  kept : ∀ p ∈ renames.toList, p.2 ∉ renames.keys
  /-- No name is replaced by itself. -/
  other : ∀ p ∈ renames.toList, p.2 ≠ p.1
  /-- The class that is kept in any case is kept. -/
  root_kept : ∀ n, root = some n → n ∉ renames.keys
  /-- The classes that are left are those that are not replaced. -/
  keys_rename : (r.rename renames.toList).keys = r.keys.filter (· ∉ renames.keys)
  /-- There are as many classes left as there are different signatures. -/
  size_rename : (r.rename renames.toList).size
    = (r.toList.map ClassDefinition.signature).toFinset.card
  /-- The fields of the classes that are left refer to no class that is not left. -/
  fields_kept : ∀ c ∈ (r.rename renames.toList).toList, ∀ field ∈ c.fields.toList, ∀ n,
    field.2.reference? = some n → n ∉ renames.keys
  /-- The root refers to no class that is not left, whatever its type. -/
  type_kept : ∀ (t : FieldType) (n : String),
    (t.mapRefs (redirect renames.toList)).reference? = some n → n ∉ renames.keys

/-- The name of a class is replaced exactly if the class is not its own survivor. -/
theorem mem_keys_scan_iff {c : ClassDefinition} (hc : c ∈ r.toList) :
    c.qualifiedName ∈ (r.scan root).renames.keys ↔ r.survivor root c ≠ c.qualifiedName := by
  rw [Keyed.keys, renames_scan, List.mem_map]
  constructor
  · rintro ⟨⟨n, m⟩, hp, rfl : n = _⟩
    obtain ⟨d, hd, hname, rfl, hne⟩ := mem_duplicates.mp hp
    rwa [eq_of_qualifiedName_eq hc hd hname.symm, hname]
  · intro hne
    exact ⟨_, mem_duplicates.mpr ⟨c, hc, rfl, rfl, hne⟩, rfl⟩

/-- Only registered names are replaced. -/
theorem mem_keys_of_mem_keys_scan {n : String} (hn : n ∈ (r.scan root).renames.keys) :
    n ∈ r.keys := by
  rw [Keyed.keys, renames_scan] at hn
  obtain ⟨⟨_, m⟩, hp, rfl⟩ := List.mem_map.mp hn
  obtain ⟨c, hc, hname, _⟩ := mem_duplicates.mp hp
  exact List.mem_map.mpr ⟨c, hc, hname⟩

/-- A survivor survives itself. -/
theorem survivor_not_mem_keys_scan {c : ClassDefinition} (hc : c ∈ r.toList) :
    r.survivor root c ∉ (r.scan root).renames.keys := by
  obtain ⟨d, hd, hname, hsignature⟩ := survivor_spec root hc
  rw [hname, mem_keys_scan_iff hd, not_not, survivor_congr hd hc hsignature, hname]

/-- Redirecting a name once leads to a name that is not replaced. -/
theorem redirect_not_mem_keys_scan (n : String) :
    redirect (r.duplicates root) n ∉ (r.scan root).renames.keys := by
  by_cases hn : n ∈ r.keys
  · obtain ⟨c, hc, rfl⟩ := List.mem_map.mp hn
    rw [redirect_duplicates hc]
    exact survivor_not_mem_keys_scan hc
  · rw [redirect_duplicates_of_not_mem hn]
    exact fun hmem => hn (mem_keys_of_mem_keys_scan hmem)

/-- The class that is kept in any case is its own survivor. -/
theorem survivor_root {n : String} {c : ClassDefinition} (hc : r.find? n = some c) :
    r.survivor (some n) c = n := by
  obtain ⟨_, hname⟩ := Keyed.find?_eq_some_iff.mp hc
  have hfirst : (r.bySeniority (some n)).find? (fun d => d.signature == c.signature) = some c := by
    rw [bySeniority, Option.bind_some, hc]
    exact List.find?_cons_of_pos (by simp)
  rw [survivor, hfirst]
  exact hname

theorem root_not_mem_keys_scan (n : String) : n ∉ (r.scan (some n)).renames.keys := by
  intro hn
  obtain ⟨c, hc, rfl⟩ := List.mem_map.mp (mem_keys_of_mem_keys_scan hn)
  have hfind : r.find? c.qualifiedName = some c := Keyed.find?_eq_some_iff.mpr ⟨hc, rfl⟩
  exact (mem_keys_scan_iff hc).mp hn (survivor_root hfind)

/-- A name that is replaced is that of a class, and its replacement that of the survivor. -/
theorem exists_class_of_mem_scan {p : String × String} (hp : p ∈ (r.scan root).renames.toList) :
    ∃ c ∈ r.toList, c.qualifiedName = p.1 ∧ r.survivor root c = p.2 ∧ p.2 ≠ p.1 := by
  obtain ⟨n, m⟩ := p
  rw [renames_scan] at hp
  exact mem_duplicates.mp hp

theorem identical_of_mem_scan {p : String × String} (hp : p ∈ (r.scan root).renames.toList) :
    ∃ c d, r.find? p.1 = some c ∧ r.find? p.2 = some d ∧ d.signature = c.signature := by
  obtain ⟨c, hc, hname, hsurvivor, _⟩ := exists_class_of_mem_scan hp
  obtain ⟨d, hd, hdname, hsignature⟩ := survivor_spec root hc
  have hfind : r.find? p.2 = some d :=
    Keyed.find?_eq_some_iff.mpr ⟨hd, hdname.symm.trans hsurvivor⟩
  exact ⟨c, d, Keyed.find?_eq_some_iff.mpr ⟨hc, hname⟩, hfind, hsignature⟩

theorem kept_of_mem_scan {p : String × String} (hp : p ∈ (r.scan root).renames.toList) :
    p.2 ∉ (r.scan root).renames.keys := by
  obtain ⟨c, hc, _, hsurvivor, _⟩ := exists_class_of_mem_scan hp
  rw [← hsurvivor]
  exact survivor_not_mem_keys_scan hc

/-- A type whose references were redirected refers to no class that is replaced. -/
theorem reference_not_mem_keys_scan {t : FieldType} {n : String}
    (h : (t.mapRefs (redirect (r.duplicates root))).reference? = some n) :
    n ∉ (r.scan root).renames.keys := by
  rw [FieldType.reference?_mapRefs, Option.map_eq_some_iff] at h
  obtain ⟨m, _, rfl⟩ := h
  exact redirect_not_mem_keys_scan m

/-! ## The classes that are left -/

/-- The classes that are their own survivors. -/
def survivors (r : Registry) (root : Option String) : List ClassDefinition :=
  r.toList.filter fun c => r.survivor root c = c.qualifiedName

theorem mem_survivors {c : ClassDefinition} :
    c ∈ r.survivors root ↔ c ∈ r.toList ∧ r.survivor root c = c.qualifiedName := by
  rw [survivors, List.mem_filter, decide_eq_true_iff]

/-- A pass leaves the survivors, with their references redirected. -/
theorem toList_rename_duplicates (r : Registry) (root : Option String) :
    (r.rename (r.duplicates root)).toList
      = (r.survivors root).map (ClassDefinition.mapRefs (redirect (r.duplicates root))) := by
  rw [(r.represents_pass root).classes, survivors]
  refine congrArg _ (List.filter_congr fun c hc => decide_eq_decide.mpr ?_)
  rw [redirect_duplicates hc]

/-- No two survivors have the same signature. -/
theorem nodup_signatures_survivors (r : Registry) (root : Option String) :
    ((r.survivors root).map ClassDefinition.signature).Nodup := by
  have hnames : (r.survivors root).Pairwise fun c d => c.qualifiedName ≠ d.qualifiedName :=
    (List.pairwise_map.mp r.nodup).filter _
  refine List.pairwise_map.mpr (hnames.imp_of_mem fun hc hd hname hsignature => hname ?_)
  obtain ⟨hc, hcself⟩ := mem_survivors.mp hc
  obtain ⟨hd, hdself⟩ := mem_survivors.mp hd
  rw [← hcself, ← hdself]
  exact survivor_congr hc hd hsignature

/-- Every signature is that of a survivor. -/
theorem toFinset_signatures_survivors (r : Registry) (root : Option String) :
    ((r.survivors root).map ClassDefinition.signature).toFinset
      = (r.toList.map ClassDefinition.signature).toFinset := by
  ext signature
  simp only [List.mem_toFinset, List.mem_map]
  constructor
  · rintro ⟨c, hc, rfl⟩
    exact ⟨c, (mem_survivors.mp hc).1, rfl⟩
  · rintro ⟨c, hc, rfl⟩
    obtain ⟨d, hd, hname, hsignature⟩ := survivor_spec root hc
    refine ⟨d, mem_survivors.mpr ⟨hd, ?_⟩, hsignature⟩
    rw [survivor_congr hd hc hsignature, hname]

/-- As many classes are left as there are different signatures. -/
theorem size_rename_duplicates (r : Registry) (root : Option String) :
    (r.rename (r.duplicates root)).size
      = (r.toList.map ClassDefinition.signature).toFinset.card := by
  rw [Keyed.size, toList_rename_duplicates, List.length_map, ← toFinset_signatures_survivors r root,
    List.toFinset_card_of_nodup (nodup_signatures_survivors r root), List.length_map]

/-- The names that are left are those that the loop does not replace. -/
theorem keys_rename_duplicates (r : Registry) (root : Option String) :
    (r.rename (r.duplicates root)).keys = r.keys.filter (· ∉ (r.scan root).renames.keys) := by
  have hnames : (r.rename (r.duplicates root)).keys
      = (r.survivors root).map ClassDefinition.qualifiedName := by
    rw [Keyed.keys, toList_rename_duplicates, List.map_map]
    rfl
  show _ = (r.toList.map ClassDefinition.qualifiedName).filter _
  rw [hnames, survivors, List.filter_map]
  refine congrArg _ (List.filter_congr fun c hc => decide_eq_decide.mpr ?_)
  rw [mem_keys_scan_iff hc, not_not]

/-- The fields of the classes that are left had their references redirected. -/
theorem fields_rename_duplicates {c : ClassDefinition}
    (hc : c ∈ (r.rename (r.duplicates root)).toList) {field : String × FieldType}
    (hfield : field ∈ c.fields.toList) :
    ∃ t : FieldType, field.2 = t.mapRefs (redirect (r.duplicates root)) := by
  rw [toList_rename_duplicates] at hc
  obtain ⟨before, _, rfl⟩ := List.mem_map.mp hc
  obtain ⟨⟨_, t⟩, _, rfl⟩ := List.mem_map.mp hfield
  exact ⟨t, rfl⟩

/-! ## One pass -/

/-- **One pass leaves no chains**, for every registry and wherever in it the class is that is kept
in any case. The loop replaces exactly the names of the duplicates. Whatever it replaces a name by
is registered, has the same signature and is not replaced, so that after one look at every reference
none of them leads to a class that is gone. -/
theorem chainFree_scan (r : Registry) (root : Option String) :
    r.ChainFree root (r.scan root).renames ∧
      (r.scan root).renames.toList = r.duplicates root := by
  have hrenames := renames_scan r root
  refine ⟨?_, hrenames⟩
  constructor
  case identical =>
    intro p hp
    exact identical_of_mem_scan hp
  case kept =>
    intro p hp
    exact kept_of_mem_scan hp
  case other =>
    intro p hp
    obtain ⟨_, _, _, _, hne⟩ := exists_class_of_mem_scan hp
    exact hne
  case root_kept =>
    rintro n rfl
    exact root_not_mem_keys_scan n
  case keys_rename =>
    rw [hrenames]
    exact keys_rename_duplicates r root
  case size_rename =>
    rw [hrenames]
    exact size_rename_duplicates r root
  case fields_kept =>
    intro c hc field hfield n hn
    rw [hrenames] at hc
    obtain ⟨t, ht⟩ := fields_rename_duplicates hc hfield
    rw [ht] at hn
    exact reference_not_mem_keys_scan hn
  case type_kept =>
    intro t n hn
    rw [hrenames] at hn
    exact reference_not_mem_keys_scan hn

end Registry

/-- The class that is kept is registered behind one of its twins and in front of the other one. -/
example :
    let r : Registry := Keyed.ofList
      [⟨"p.A", Keyed.ofList [("id", .integer)]⟩, ⟨"p.Root", Keyed.ofList [("id", .integer)]⟩,
        ⟨"p.B", Keyed.ofList [("id", .integer)]⟩]
    (r.scan (some "p.Root")).renames.toList = [("p.A", "p.Root"), ("p.B", "p.Root")] ∧
      (r.scan none).renames.toList = [("p.Root", "p.A"), ("p.B", "p.A")] := by
  decide

end Specimen.Schema
