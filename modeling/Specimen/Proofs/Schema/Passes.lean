import Specimen.Proofs.Schema.Soundness

set_option autoImplicit false

/-! # Merging ends, and has nothing left to do

Merging repeats one pass until no two classes are identical. `StopsAfter` is this loop as a
relation: so many passes lead from one schema to another one that has no identical classes.
`merge_stops` says that the loop ends for every schema, with the merged schema and after no more
passes than there are classes to lose; and that the merged schema is a true end, since merging it
once more changes nothing.

Each pass takes a class away and brings none, which bounds the number of passes. The class that is
kept in any case is chosen once, before the first pass. Merging again chooses anew, but it chooses
the same class, because the root stays what it is (`className?_root_merge`).
-/

namespace Specimen.Schema

/-- A schema after one pass, where `root` names the class that is kept in any case. -/
def afterPass (root : Option String) (s : Schema) : Schema :=
  ⟨s.root.mapRefs (redirect (s.registry.duplicates root)),
    s.registry.rename (s.registry.duplicates root)⟩

/-- Passes over a schema, as many as given, lead to a schema without identical classes, and each
of them found some. -/
inductive StopsAfter (root : Option String) : Nat → Schema → Schema → Prop
  /-- No classes are identical. -/
  | stop {s : Schema} (h : s.registry.duplicates root = []) : StopsAfter root 0 s s
  /-- Some classes are identical, so a pass is made. -/
  | pass {n : Nat} {s t : Schema} (h : s.registry.duplicates root ≠ [])
      (rest : StopsAfter root n (afterPass root s) t) : StopsAfter root (n + 1) s t

section Passes

variable {root : Option String}

/-- Passes lead to one end only. -/
theorem StopsAfter.unique {m n : Nat} {s t u : Schema} (h : StopsAfter root m s t)
    (h' : StopsAfter root n s u) : m = n ∧ t = u := by
  induction h generalizing n with
  | stop hnil =>
      cases h' with
      | stop _ => exact ⟨rfl, rfl⟩
      | pass hne _ => exact absurd hnil hne
  | pass hne _ ih =>
      cases h' with
      | stop hnil => exact absurd hnil hne
      | pass _ rest =>
          obtain ⟨rfl, htu⟩ := ih rest
          exact ⟨rfl, htu⟩

/-- A pass takes classes away and brings none. -/
theorem keys_afterPass_sublist (s : Schema) :
    (afterPass root s).registry.keys.Sublist s.registry.keys :=
  (s.registry.represents_pass root).keys_sublist

/-- **The loop ends**, and each of its passes has taken away a class. -/
theorem exists_stopsAfter_mergeFrom (root : Option String) (t : FieldType) (r : Registry) :
    ∃ n, StopsAfter root n ⟨t, r⟩ (mergeFrom root t r) ∧
      n + (mergeFrom root t r).registry.size ≤ r.size := by
  induction r using pass_induction root generalizing t with
  | done r h =>
      rw [mergeFrom_of_eq_nil h]
      exact ⟨0, .stop h, Nat.le_of_eq (Nat.zero_add _)⟩
  | pass r h ih =>
      obtain ⟨n, hstops, hle⟩ := ih (t.mapRefs (redirect (r.duplicates root)))
      have hlt := Registry.size_rename_lt h
      rw [mergeFrom_of_ne_nil h]
      exact ⟨n + 1, .pass h hstops, by omega⟩

/-- Without duplicates the signatures of all classes differ. -/
theorem Registry.pairwise_signature_ne {r : Registry} (h : r.duplicates root = []) :
    r.toList.Pairwise fun c d => c.signature ≠ d.signature := by
  have hnames : r.toList.Pairwise fun c d => c.qualifiedName ≠ d.qualifiedName :=
    List.pairwise_map.mp r.nodup
  refine hnames.imp_of_mem fun hc hd hname hsig => ?_
  exact hname (eq_of_signature_eq_of_duplicates_eq_nil h hc hd hsig)

end Passes

/-- Merging keeps the class that is kept in any case. -/
theorem className?_root_merge (s : Schema) : s.merge.root.className? = s.root.className? := by
  rw [s.root_merge]
  cases hroot : s.root with
  | objectRef n => exact congrArg some (representative_root hroot)
  | _ => rfl

/-- **Merging ends, and has nothing left to do.** For every schema, whatever its references lead
to:

* a pass that finds identical classes leaves fewer classes and brings no new ones;
* the passes end at the merged schema and nowhere else, and the number of passes and of the classes
  that are left are together at most the number of classes before;
* the classes that are left have pairwise distinct fields, names and types in order;
* merging again changes nothing, not even an order. -/
theorem merge_stops (s : Schema) :
    (∀ (root : Option String) (t : Schema), t.registry.duplicates root ≠ [] →
      (afterPass root t).registry.size < t.registry.size ∧
        (afterPass root t).registry.keys.Sublist t.registry.keys) ∧
    (∃ n, StopsAfter s.root.className? n s s.merge ∧
      n + s.merge.registry.size ≤ s.registry.size ∧
      ∀ m t, StopsAfter s.root.className? m s t → m = n ∧ t = s.merge) ∧
    (s.merge.registry.toList.Pairwise fun c d => c.signature ≠ d.signature) ∧
    s.merge.merge = s.merge := by
  have hend : s.merge.registry.duplicates s.root.className? = [] := duplicates_mergeFrom _ _ _
  obtain ⟨n, hstops, hle⟩ := exists_stopsAfter_mergeFrom s.root.className? s.root s.registry
  refine ⟨fun root t h => ⟨Registry.size_rename_lt h, keys_afterPass_sublist t⟩,
    ⟨n, hstops, hle, fun m t hm => hm.unique hstops⟩, Registry.pairwise_signature_ne hend, ?_⟩
  rw [merge, className?_root_merge]
  exact mergeFrom_of_eq_nil hend s.merge.root

/-- Two identical classes that refer to one that is not registered, two classes with lists of them,
which are identical once the former are merged, and one that refers to itself. -/
def listedTwins : Schema :=
  ⟨.listOf (.objectRef "p.D"), Keyed.ofList
    [⟨"p.A", Keyed.ofList [("next", .objectRef "q.X")]⟩,
      ⟨"p.B", Keyed.ofList [("next", .objectRef "q.X")]⟩,
      ⟨"p.C", Keyed.ofList [("items", .listOf (.objectRef "p.A"))]⟩,
      ⟨"p.D", Keyed.ofList [("items", .listOf (.objectRef "p.B"))]⟩,
      ⟨"p.E", Keyed.ofList [("next", .objectRef "p.E")]⟩]⟩

theorem merge_stops_listedTwins :
    StopsAfter none 2 listedTwins listedTwins.merge ∧
      listedTwins.merge.registry.keys = ["p.A", "p.C", "p.E"] ∧
      listedTwins.merge.merge = listedTwins.merge := by
  obtain ⟨_, ⟨_, _, _, hend⟩, _, hagain⟩ := merge_stops listedTwins
  obtain ⟨t, hstops, hkeys⟩ : ∃ t, StopsAfter none 2 listedTwins t ∧
      t.registry.keys = ["p.A", "p.C", "p.E"] :=
    ⟨_, .pass (by decide) (.pass (by decide) (.stop (by decide))), by decide⟩
  obtain ⟨_, rfl⟩ := hend 2 t hstops
  exact ⟨hstops, hkeys, hagain⟩

end Specimen.Schema
