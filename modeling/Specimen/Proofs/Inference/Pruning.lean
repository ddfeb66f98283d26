import Mathlib.Tactic.SplitIfs
import Specimen.Inference.Infer

set_option autoImplicit false

/-! # Only the sampled part counts

Of a list in a document only the first element counts. `prune` cuts every list, at any depth, to
its first element, and `infer_samples_first` says that this changes neither the schema of the
document nor the failure, if there is none. So two documents that differ in later elements of
lists only (`SameSample`) come to the same, even if one of these elements could not be typed.

The cut keeps what each container is: a list stays one, since a single child shares its name with
itself, and everything else keeps its children with their names, which is all that its shape
depends on (`containerShape_congr`). The builder looks at the same parts before and after
(`build_prune`), by induction on the document.
-/

namespace Specimen.Inference

open Specimen.Document Specimen.Schema

/-! ## Cutting lists -/

/-- A container is a list by what it was in its document: a JSON array, or an XML element without
attributes whose children share one name. -/
def isListShaped (origin : Origin) (attributes : List (String × String))
    (children : List (String × Element)) : Bool :=
  match origin with
  | .jsonArray => true
  | .jsonObject => false
  | .xml => attributes.isEmpty && sameNames children

mutual

/-- A part of a document with every list in it cut to its first element. -/
def prune : Element → Element
  | .scalar s => .scalar s
  | .container origin attributes children =>
    .container origin attributes
      (if isListShaped origin attributes children then pruneFirst children
        else pruneAll children)

/-- The first child only, with every list in it cut. -/
def pruneFirst : List (String × Element) → List (String × Element)
  | [] => []
  | (name, child) :: _ => [(name, prune child)]

/-- All children, with every list in them cut. -/
def pruneAll : List (String × Element) → List (String × Element)
  | [] => []
  | (name, child) :: others => (name, prune child) :: pruneAll others

end

mutual

/-- Two parts of documents differ in elements of lists behind the first ones, if at all. -/
inductive SameSample : Element → Element → Prop
  | scalar (s : Scalar) : SameSample (.scalar s) (.scalar s)
  /-- Two lists with the same first element. -/
  | list {origin : Origin} {attributes : List (String × String)} {name : String}
      {first first' : Element} {others others' : List (String × Element)}
      (hlist : isListShaped origin attributes ((name, first) :: others) = true)
      (hlist' : isListShaped origin attributes ((name, first') :: others') = true)
      (hfirst : SameSample first first') :
      SameSample (.container origin attributes ((name, first) :: others))
        (.container origin attributes ((name, first') :: others'))
  /-- Two containers with the same children. -/
  | container {origin : Origin} {attributes : List (String × String)}
      {children children' : List (String × Element)} (h : SameSamples children children') :
      SameSample (.container origin attributes children)
        (.container origin attributes children')

/-- Children with the same names, in the same order, that differ in elements of lists only. -/
inductive SameSamples : List (String × Element) → List (String × Element) → Prop
  | nil : SameSamples [] []
  | cons {name : String} {child child' : Element} {others others' : List (String × Element)}
      (hchild : SameSample child child') (hothers : SameSamples others others') :
      SameSamples ((name, child) :: others) ((name, child') :: others')

end

/-! ## Shapes -/

theorem sameNames_eq (children : List (String × Element)) :
    sameNames children = match children.map Prod.fst with
      | [] => true
      | name :: others => others.all (· == name) := by
  cases children with
  | nil => rfl
  | cons child others =>
      simp only [sameNames, List.map_cons, List.all_map]
      rfl

/-- The shape of a container depends on the names of its children only. -/
theorem containerShape_congr {children children' : List (String × Element)}
    (h : children.map Prod.fst = children'.map Prod.fst) (origin : Origin)
    (attributes : List (String × String)) :
    containerShape origin attributes children = containerShape origin attributes children' := by
  have hempty : children.isEmpty = children'.isEmpty := by
    have hmap := congrArg List.isEmpty h
    simpa using hmap
  cases origin with
  | jsonObject => rfl
  | jsonArray => rfl
  | xml => simp only [containerShape, hempty, sameNames_eq, h]

theorem isListShaped_congr {children children' : List (String × Element)}
    (h : children.map Prod.fst = children'.map Prod.fst) (origin : Origin)
    (attributes : List (String × String)) :
    isListShaped origin attributes children = isListShaped origin attributes children' := by
  cases origin with
  | jsonObject => rfl
  | jsonArray => rfl
  | xml => simp only [isListShaped, sameNames_eq, h]

/-- What is shaped like a list is no object, and nothing else is. -/
theorem isListShaped_of_containerShape {origin : Origin} {attributes : List (String × String)}
    {children : List (String × Element)} {shape : ContainerShape}
    (h : containerShape origin attributes children = .ok shape) :
    isListShaped origin attributes children = decide (shape ≠ .object) := by
  cases origin with
  | jsonObject =>
      simp only [containerShape] at h
      split_ifs at h
      cases h
      rfl
  | jsonArray =>
      simp only [containerShape] at h
      split_ifs at h
      cases h
      rfl
  | xml =>
      simp only [containerShape] at h
      split_ifs at h with hattributes hchildren hnames <;> cases h
      · have hempty : attributes.isEmpty = false := by simpa using hattributes
        simp [isListShaped, hempty]
      · obtain rfl := List.isEmpty_iff.mp hchildren
        simpa [isListShaped, sameNames] using hattributes
      · simpa [isListShaped, hnames] using hattributes
      · simp [isListShaped, hnames]

theorem names_pruneAll (children : List (String × Element)) :
    (pruneAll children).map Prod.fst = children.map Prod.fst := by
  induction children with
  | nil => rfl
  | cons child others ih =>
      rw [pruneAll, List.map_cons, List.map_cons, ih]

/-- A container keeps its shape: a list that is cut to its first element stays a list. -/
theorem containerShape_pruned (origin : Origin) (attributes : List (String × String))
    (children : List (String × Element)) :
    containerShape origin attributes
        (if isListShaped origin attributes children then pruneFirst children
          else pruneAll children)
      = containerShape origin attributes children := by
  cases hlist : isListShaped origin attributes children with
  | false => exact containerShape_congr (names_pruneAll children) origin attributes
  | true =>
      cases origin with
      | jsonObject => rfl
      | jsonArray => rfl
      | xml =>
          cases children with
          | nil => rfl
          | cons child others =>
              simp only [isListShaped, Bool.and_eq_true] at hlist
              have hsingle : sameNames (pruneFirst (child :: others)) = true := rfl
              rw [if_pos rfl]
              simp only [containerShape, hlist.1, hlist.2, hsingle]
              rfl

/-! ## Building -/

section Build

variable (typing : StringTyping) (package : String)

mutual

/-- **Cutting lists changes nothing for the builder**: neither its result nor what it registers. -/
theorem build_prune : ∀ (name : String) (element : Element),
    build typing package name (prune element) = build typing package name element
  | _, .scalar _ => rfl
  | name, .container origin attributes children => by
      funext r
      rw [prune, build, build, containerShape_pruned]
      simp only [Builder.andThen, Builder.ofExcept]
      cases hshape : containerShape origin attributes children with
      | error f => rfl
      | ok shape =>
          have hlist := isListShaped_of_containerShape hshape
          cases shape with
          | null => rfl
          | list =>
              rw [hlist]
              exact congrFun (buildFirst_pruneFirst origin name children) r
          | object =>
              rw [hlist]
              simp only [Builder.andThen, ne_eq, not_true_eq_false, decide_false,
                Bool.false_eq_true, if_false, buildFields_pruneAll _ children]

theorem buildFirst_pruneFirst (origin : Origin) (name : String) :
    ∀ children : List (String × Element),
      buildFirst typing package origin name (pruneFirst children)
        = buildFirst typing package origin name children
  | [] => rfl
  | (tag, first) :: _ => by
      rw [pruneFirst, buildFirst, buildFirst, build_prune]

theorem buildFields_pruneAll (fields : Fields) : ∀ children : List (String × Element),
    buildFields typing package fields (pruneAll children)
      = buildFields typing package fields children
  | [] => rfl
  | (field, child) :: others => by
      rw [pruneAll, buildFields, buildFields]
      simp only [build_prune _ child, buildFields_pruneAll _ others]

end

end Build

theorem infer_prune (options : Options) (rootName : String) (element : Element) :
    infer options rootName (prune element) = infer options rootName element := by
  simp only [infer, run, build_prune]

/-! ## Documents with the same sample -/

theorem SameSamples.names_eq {children children' : List (String × Element)}
    (h : SameSamples children children') :
    children.map Prod.fst = children'.map Prod.fst := by
  cases h with
  | nil => rfl
  | cons hchild hothers => rw [List.map_cons, List.map_cons, hothers.names_eq]

mutual

/-- Documents with the same sample are cut to the same document. -/
theorem SameSample.prune_eq : ∀ {element element' : Element}, SameSample element element' →
    prune element = prune element'
  | _, _, .scalar _ => rfl
  | _, _, .list hlist hlist' hfirst => by
      rw [prune, prune, if_pos hlist, if_pos hlist', pruneFirst, pruneFirst, hfirst.prune_eq]
  | _, _, .container h => by
      obtain ⟨hfirst, hall⟩ := h.prune_eq
      rw [prune, prune, isListShaped_congr h.names_eq, hfirst, hall]

theorem SameSamples.prune_eq : ∀ {children children' : List (String × Element)},
    SameSamples children children' →
      pruneFirst children = pruneFirst children' ∧ pruneAll children = pruneAll children'
  | _, _, .nil => ⟨rfl, rfl⟩
  | _, _, .cons hchild hothers => by
      rw [pruneFirst, pruneFirst, pruneAll, pruneAll, hchild.prune_eq, hothers.prune_eq.2]
      exact ⟨rfl, rfl⟩

end

/-- **Only the first elements of lists matter.** A document comes to the same schema, classes and
fields in the same order, or to the same failure, as the document with every list cut to its first
element, and as every document that differs from it in later elements of lists only. -/
theorem infer_samples_first (options : Options) (rootName : String) (element : Element) :
    infer options rootName (prune element) = infer options rootName element ∧
      ∀ element', SameSample element element' →
        infer options rootName element' = infer options rootName element := by
  refine ⟨infer_prune options rootName element, fun element' h => ?_⟩
  rw [← infer_prune options rootName element', ← h.prune_eq, infer_prune]

/-- An object with a list of one object. -/
def singleRow : Element :=
  .container .jsonObject [] [("rows", .container .jsonArray []
    [("0", .container .jsonObject [] [("id", .scalar (.bool true))])])]

/-- The object with two more in its list, neither of which has a type: one has a part without a
name, and the other has an attribute in spite of its kind. -/
def faultyRows : Element :=
  .container .jsonObject [] [("rows", .container .jsonArray []
    [("0", .container .jsonObject [] [("id", .scalar (.bool true))]),
      ("1", .container .jsonObject [] [("", .scalar .null)]),
      ("2", .container .jsonObject [("k", "v")] [])])]

theorem infer_samples_first_faultyRows :
    SameSample singleRow faultyRows ∧
      infer .standard "p.R" faultyRows = infer .standard "p.R" singleRow ∧
      infer .standard "p.R" (.container .jsonObject [] [("", .scalar .null)]) = .error .emptyName ∧
      infer .standard "p.R" (.container .jsonObject [("k", "v")] [])
        = .error (.unexpectedAttributes .jsonObject 1) := by
  have hsame : SameSample singleRow faultyRows :=
    .container (.cons (.list rfl rfl (.container (.cons (.scalar _) .nil))) .nil)
  exact ⟨hsame, (infer_samples_first .standard "p.R" singleRow).2 _ hsame, rfl, rfl⟩

end Specimen.Inference
