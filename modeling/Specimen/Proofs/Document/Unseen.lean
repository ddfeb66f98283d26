import Mathlib.Logic.Relation
import Specimen.Java.Source
import Specimen.Proofs.Document.Trees

set_option autoImplicit false

/-! # What a document tree does not show

The document tree of an XML element leaves out comments and instructions, the places where its text
is cut in pieces, and all text beside attributes or children. `Edit` is a single change of such a
kind, at any depth, and `Edited` any number of them. Nothing else is left out: two elements of one
name have the same document tree exactly if edits lead from one to the other.

* No edit changes the tree (`Edit.ofXml_eq`). What decides is whether the edited element is mixed,
  that is, has attributes or children. A mixed element shows its children only, another one its
  direct text only, and an edit keeps what is shown in either case.
* Each tree is that of a plain element (`Node.ofTree`), which holds nothing that is not shown, and
  edits lead from every element to the plain one of its tree (`edited_ofTree`).
-/

namespace Specimen.Xml

/-- The text of a node, if it is text. -/
def Node.text? : Node → Option String
  | .text content => some content
  | _ => none

/-- The name of a node, if it is an element. -/
def Node.name? : Node → Option String
  | .element name _ _ => some name
  | _ => none

theorem Node.isElement_iff (n : Node) : n.isElement = true ↔ ∃ name, n.name? = some name := by
  cases n <;> simp [Node.isElement, Node.name?]

/-- An element has attributes or children, so it is no leaf. -/
def IsMixed (attributes : List (String × String)) (nodes : List Node) : Prop :=
  attributes ≠ [] ∨ ∃ n ∈ nodes, n.isElement = true

end Specimen.Xml

namespace Specimen.Document

open Specimen.Xml

/-! ## What is shown -/

theorem directText_append (ms ns : List Node) :
    directText (ms ++ ns) = directText ms ++ directText ns := by
  induction ms with
  | nil => simp [directText]
  | cons m ms ih => cases m <;> simp [directText, ih, String.append_assoc]

theorem ofNodes_append (ms ns : List Node) :
    Element.ofNodes (ms ++ ns) = Element.ofNodes ms ++ Element.ofNodes ns := by
  induction ms with
  | nil => simp [Element.ofNodes]
  | cons m ms ih => cases m <;> simp [Element.ofNodes, ih]

/-- The direct text is the texts among the nodes, one after the other. -/
theorem directText_eq_join (nodes : List Node) :
    directText nodes = String.join (nodes.filterMap Node.text?) := by
  induction nodes with
  | nil => rfl
  | cons n nodes ih => cases n <;> simp [directText, Node.text?, List.filterMap_cons, ih]

theorem ofNodes_cons_of_not_isElement {n : Node} (h : n.isElement = false) (nodes : List Node) :
    Element.ofNodes (n :: nodes) = Element.ofNodes nodes := by
  cases n with
  | element name attributes inner => cases h
  | _ => rw [Element.ofNodes]

/-- Of a child only its name and its tree are shown. -/
theorem ofNodes_cons_congr {m n : Node} {name : String} (hm : m.name? = some name)
    (hn : n.name? = some name) (htree : Element.ofXml m = Element.ofXml n) (nodes : List Node) :
    Element.ofNodes (m :: nodes) = Element.ofNodes (n :: nodes) := by
  cases m with
  | element _ attributes inner =>
      cases n with
      | element _ attributes' inner' =>
          cases hm
          cases hn
          rw [Element.ofNodes, Element.ofNodes, htree]
      | _ => cases hn
  | _ => cases hm

theorem ofNodes_ne_nil_iff (nodes : List Node) :
    Element.ofNodes nodes ≠ [] ↔ ∃ n ∈ nodes, n.isElement = true := by
  induction nodes with
  | nil => simp [Element.ofNodes]
  | cons n nodes ih =>
      by_cases h : n.isElement = true
      · refine iff_of_true ?_ ⟨n, List.mem_cons_self, h⟩
        cases n with
        | element name attributes inner => simp [Element.ofNodes]
        | _ => cases h
      · have hn : n.isElement = false := (Bool.not_eq_true _).mp h
        rw [ofNodes_cons_of_not_isElement hn, ih]
        simp [hn]

theorem isMixed_iff (attributes : List (String × String)) (nodes : List Node) :
    IsMixed attributes nodes ↔ attributes ≠ [] ∨ Element.ofNodes nodes ≠ [] := by
  rw [IsMixed, ofNodes_ne_nil_iff]

section Element

variable {name : String} {attributes : List (String × String)} {nodes : List Node}

/-- A mixed element shows its attributes and its children. -/
theorem ofXml_of_isMixed (h : IsMixed attributes nodes) :
    Element.ofXml (.element name attributes nodes)
      = .container .xml attributes (Element.ofNodes nodes) := by
  have hleaf : ¬ (attributes.isEmpty && (Element.ofNodes nodes).isEmpty) = true := by
    rw [isMixed_iff] at h
    simp only [Bool.and_eq_true, List.isEmpty_iff]
    tauto
  rw [Element.ofXml]
  exact if_neg hleaf

/-- An element that is not mixed shows its text. -/
theorem ofXml_of_not_isMixed (h : ¬ IsMixed attributes nodes) :
    Element.ofXml (.element name attributes nodes) = .scalar (.token (directText nodes)) := by
  have hleaf : (attributes.isEmpty && (Element.ofNodes nodes).isEmpty) = true := by
    rw [isMixed_iff] at h
    simp only [Bool.and_eq_true, List.isEmpty_iff]
    tauto
  rw [Element.ofXml]
  exact if_pos hleaf

end Element

end Specimen.Document

namespace Specimen.Xml

open Specimen.Document

/-! ## Edits -/

/-- Some nodes inside an element are exchanged for others. The words of a text may change only if
the element is mixed. -/
inductive Exchange (mixed : Prop) : List Node → List Node → Prop
  /-- A comment is put in. -/
  | comment (content : String) : Exchange mixed [] [.comment content]
  /-- An instruction is put in. -/
  | instruction (target content : String) : Exchange mixed [] [.instruction target content]
  /-- A text without characters is put in. -/
  | emptyText : Exchange mixed [] [.text ""]
  /-- A text is split in two. -/
  | split (s t : String) : Exchange mixed [.text (s ++ t)] [.text s, .text t]
  /-- A text is changed. -/
  | reword (h : mixed) (s t : String) : Exchange mixed [.text s] [.text t]

/-- Nodes are exchanged in one place of an element, directly inside it or deeper. -/
inductive Edit : Node → Node → Prop
  | here {name : String} {attributes : List (String × String)} {before after ms ns : List Node}
      (h : Exchange (IsMixed attributes (before ++ after)) ms ns) :
      Edit (.element name attributes (before ++ ms ++ after))
        (.element name attributes (before ++ ns ++ after))
  | inside {name : String} {attributes : List (String × String)} {before after : List Node}
      {m n : Node} (h : Edit m n) :
      Edit (.element name attributes (before ++ m :: after))
        (.element name attributes (before ++ n :: after))

/-- Edits, made or undone, lead from one element to the other. -/
def Edited : Node → Node → Prop := Relation.EqvGen Edit

section Exchange

variable {mixed : Prop} {ms ns : List Node}

/-- Children are not exchanged. -/
theorem Exchange.ofNodes_eq_nil (h : Exchange mixed ms ns) :
    Element.ofNodes ms = [] ∧ Element.ofNodes ns = [] := by
  cases h <;> simp [Element.ofNodes]

/-- Only in a mixed element do the words change. -/
theorem Exchange.directText_eq (h : Exchange mixed ms ns) (hmixed : ¬ mixed) :
    directText ms = directText ns := by
  cases h with
  | reword h _ _ => exact absurd h hmixed
  | _ => simp [directText]

end Exchange

/-! ## Edits are not shown -/

theorem Edit.exists_name {m n : Node} (h : Edit m n) :
    ∃ name, m.name? = some name ∧ n.name? = some name := by
  cases h <;> exact ⟨_, rfl, rfl⟩

/-- **No edit is shown.** -/
theorem Edit.ofXml_eq {m n : Node} (h : Edit m n) : Element.ofXml m = Element.ofXml n := by
  induction h with
  | @here name attributes before after ms ns hexchange =>
      obtain ⟨hms, hns⟩ := hexchange.ofNodes_eq_nil
      -- what is exchanged holds no children, so the element is mixed before and after alike
      have hmixed : ∀ nodes : List Node, Element.ofNodes nodes = [] →
          (IsMixed attributes (before ++ nodes ++ after) ↔
            IsMixed attributes (before ++ after)) := by
        intro nodes hnodes
        simp only [isMixed_iff, ofNodes_append, hnodes, List.append_nil]
      by_cases h : IsMixed attributes (before ++ after)
      · rw [ofXml_of_isMixed ((hmixed ms hms).mpr h), ofXml_of_isMixed ((hmixed ns hns).mpr h)]
        simp only [ofNodes_append, hms, hns]
      · have htext := hexchange.directText_eq h
        rw [ofXml_of_not_isMixed (mt (hmixed ms hms).mp h),
          ofXml_of_not_isMixed (mt (hmixed ns hns).mp h)]
        simp only [directText_append, htext]
  | @inside name attributes before after m n hedit ih =>
      obtain ⟨child, hm, hn⟩ := hedit.exists_name
      -- with a child in it the element is mixed, and shows of the child what the edit keeps
      have hmixed : ∀ inner : Node, inner.name? = some child →
          IsMixed attributes (before ++ inner :: after) := by
        intro inner hinner
        exact Or.inr ⟨inner, by simp, inner.isElement_iff.mpr ⟨child, hinner⟩⟩
      rw [ofXml_of_isMixed (hmixed m hm), ofXml_of_isMixed (hmixed n hn), ofNodes_append,
        ofNodes_append, ofNodes_cons_congr hm hn ih]

namespace Edited

theorem refl (m : Node) : Edited m m := Relation.EqvGen.refl m

theorem symm {m n : Node} (h : Edited m n) : Edited n m := Relation.EqvGen.symm m n h

theorem trans {l m n : Node} (h : Edited l m) (h' : Edited m n) : Edited l n :=
  Relation.EqvGen.trans l m n h h'

theorem ofXml_eq {m n : Node} (h : Edited m n) : Element.ofXml m = Element.ofXml n := by
  induction h with
  | rel m n hedit => exact hedit.ofXml_eq
  | refl m => rfl
  | symm m n _ ih => exact ih.symm
  | trans l m n _ _ ih ih' => exact ih.trans ih'

variable (name : String) (attributes : List (String × String)) (before after : List Node)

theorem here {ms ns : List Node} (h : Exchange (IsMixed attributes (before ++ after)) ms ns) :
    Edited (.element name attributes (before ++ ms ++ after))
      (.element name attributes (before ++ ns ++ after)) :=
  Relation.EqvGen.rel _ _ (Edit.here h)

theorem inside {m n : Node} (h : Edited m n) :
    Edited (.element name attributes (before ++ m :: after))
      (.element name attributes (before ++ n :: after)) := by
  induction h with
  | rel m n hedit => exact Relation.EqvGen.rel _ _ (Edit.inside hedit)
  | refl m => exact refl _
  | symm m n _ ih => exact ih.symm
  | trans l m n _ _ ih ih' => exact ih.trans ih'

end Edited

/-! ## Plain elements -/

mutual

/-- The plain element of a name with a document tree: it holds a text if it is a leaf and otherwise
its children alone. -/
def Node.ofTree (name : String) : Element → Node
  | .scalar (.token content) => .element name [] [.text content]
  | .scalar _ => .element name [] []
  | .container _ attributes children => .element name attributes (Node.ofTrees children)

/-- The plain elements of children. -/
def Node.ofTrees : List (String × Element) → List Node
  | [] => []
  | (name, tree) :: trees => Node.ofTree name tree :: Node.ofTrees trees

end

/-- Behind a text in a leaf, everything is joined to the text or left out. -/
theorem edited_joined (name : String) {nodes : List Node}
    (hleaf : ∀ n ∈ nodes, n.isElement = false) (content : String) :
    Edited (.element name [] (.text content :: nodes))
      (.element name [] [.text (content ++ directText nodes)]) := by
  induction nodes generalizing content with
  | nil => simpa [directText] using Edited.refl _
  | cons n nodes ih =>
      rw [List.forall_mem_cons] at hleaf
      obtain ⟨hn, hnodes⟩ := hleaf
      cases n with
      | element tag attributes inner => cases hn
      | text more =>
          have hjoin := (Edited.here name [] [] nodes (Exchange.split content more)).symm
          have hrest := ih hnodes (content ++ more)
          rw [String.append_assoc] at hrest
          exact hjoin.trans hrest
      | comment c =>
          have hout := (Edited.here name [] [.text content] nodes (Exchange.comment c)).symm
          exact hout.trans (ih hnodes content)
      | instruction target c =>
          have hout :=
            (Edited.here name [] [.text content] nodes (Exchange.instruction target c)).symm
          exact hout.trans (ih hnodes content)

/-- A leaf becomes plain when its text is joined behind an empty one. -/
theorem edited_leaf {name : String} {nodes : List Node}
    (hleaf : ∀ n ∈ nodes, n.isElement = false) :
    Edited (.element name [] nodes) (.element name [] [.text (directText nodes)]) := by
  have hempty : Edited (.element name [] nodes) (.element name [] (.text "" :: nodes)) :=
    Edited.here name [] [] nodes Exchange.emptyText
  have hjoined := edited_joined name hleaf ""
  rw [String.empty_append] at hjoined
  exact hempty.trans hjoined

/-- Without a node that is no child, a mixed element is still mixed. -/
theorem IsMixed.without {attributes : List (String × String)} {before after : List Node} {n : Node}
    (h : IsMixed attributes (before ++ n :: after)) (hn : n.isElement = false) :
    IsMixed attributes (before ++ after) := by
  rw [isMixed_iff, ofNodes_append, ofNodes_cons_of_not_isElement hn] at h
  rwa [isMixed_iff, ofNodes_append]

/-- A node in a mixed element that is no child is taken out, a text after it has been emptied. -/
theorem edited_without {name : String} {attributes : List (String × String)}
    {before after : List Node} {n : Node} (hmixed : IsMixed attributes (before ++ n :: after))
    (hn : n.isElement = false) :
    Edited (.element name attributes (before ++ n :: after))
      (.element name attributes (before ++ after)) := by
  have hstill := hmixed.without hn
  have hout : ∀ m, Exchange (IsMixed attributes (before ++ after)) [] [m] →
      Edited (.element name attributes (before ++ m :: after))
        (.element name attributes (before ++ after)) := by
    intro m hm
    simpa using (Edited.here name attributes before after hm).symm
  cases n with
  | element tag attributes' inner => cases hn
  | comment c => exact hout _ (Exchange.comment c)
  | instruction target c => exact hout _ (Exchange.instruction target c)
  | text content =>
      have hreword :=
        Edited.here name attributes before after (Exchange.reword hstill content "")
      simp only [List.append_assoc, List.singleton_append] at hreword
      exact hreword.trans (hout _ Exchange.emptyText)

theorem Node.name?_ofTree (name : String) (tree : Element) :
    (Node.ofTree name tree).name? = some name := by
  cases tree with
  | container origin attributes children => simp [Node.ofTree, Node.name?]
  | scalar value => cases value <;> simp [Node.ofTree, Node.name?]

mutual

/-- **Edits lead from an element to the plain element of its tree.** -/
theorem edited_ofTree :
    ∀ (n : Node) (name : String), n.name? = some name →
      Edited n (Node.ofTree name (Element.ofXml n))
  | .element tag attributes nodes, name, h => by
      obtain rfl : tag = name := Option.some.inj h
      by_cases hmixed : IsMixed attributes nodes
      · rw [ofXml_of_isMixed hmixed, Node.ofTree]
        exact edited_ofTrees nodes tag attributes [] hmixed
      · rw [ofXml_of_not_isMixed hmixed, Node.ofTree]
        simp only [IsMixed, not_or, not_exists, not_and, Bool.not_eq_true, Decidable.not_not]
          at hmixed
        obtain ⟨rfl, hleaf⟩ := hmixed
        exact edited_leaf hleaf
  | .text _, _, h => by cases h
  | .comment _, _, h => by cases h
  | .instruction _ _, _, h => by cases h

/-- Behind the nodes that are plain already, the others of a mixed element become so. -/
theorem edited_ofTrees :
    ∀ (nodes : List Node) (name : String) (attributes : List (String × String))
      (before : List Node), IsMixed attributes (before ++ nodes) →
      Edited (.element name attributes (before ++ nodes))
        (.element name attributes (before ++ Node.ofTrees (Element.ofNodes nodes)))
  | [], _, _, _, _ => Edited.refl _
  | .element tag inner children :: nodes, name, attributes, before, _ => by
      have hchild := edited_ofTree (.element tag inner children) tag rfl
      have hplain := Node.name?_ofTree tag (Element.ofXml (.element tag inner children))
      have hmixed : IsMixed attributes (before ++
          [Node.ofTree tag (Element.ofXml (.element tag inner children))] ++ nodes) := by
        refine Or.inr ⟨_, ?_, (Node.isElement_iff _).mpr ⟨tag, hplain⟩⟩
        simp only [List.mem_append, List.mem_singleton, true_or, or_true]
      have hrest := edited_ofTrees nodes name attributes _ hmixed
      simp only [List.append_assoc, List.singleton_append] at hrest
      rw [Element.ofNodes, Node.ofTrees]
      exact (Edited.inside _ _ _ _ hchild).trans hrest
  | .text content :: nodes, name, attributes, before, h => by
      rw [Element.ofNodes]
      exact (edited_without h rfl).trans
        (edited_ofTrees nodes name attributes before (h.without rfl))
  | .comment content :: nodes, name, attributes, before, h => by
      rw [Element.ofNodes]
      exact (edited_without h rfl).trans
        (edited_ofTrees nodes name attributes before (h.without rfl))
  | .instruction target content :: nodes, name, attributes, before, h => by
      rw [Element.ofNodes]
      exact (edited_without h rfl).trans
        (edited_ofTrees nodes name attributes before (h.without rfl))

end

/-- Elements of one name with one tree have one plain element in common. -/
theorem edited_of_ofXml_eq {m n : Node} {name : String} (hm : m.name? = some name)
    (hn : n.name? = some name) (htree : Element.ofXml m = Element.ofXml n) : Edited m n := by
  have hfirst := edited_ofTree m name hm
  have hsecond := edited_ofTree n name hn
  rw [htree] at hfirst
  exact hfirst.trans hsecond.symm

end Specimen.Xml

namespace Specimen.Document

open Specimen.Inference Specimen.Java Specimen.Xml

/-! ## What is left out, and nothing else -/

/-- **Document trees leave out what edits change, and nothing else.**

* If edits lead from one element to the other, then both have the same tree, so the same schema is
  inferred from both; and of documents with these root elements the schemas and the source files are
  the same.
* Elements of one name with the same tree differ by edits only.
* The tree of a leaf is a token, all its texts joined in their order. -/
theorem ofXml_leaves_out :
    (∀ m n : Node, Edited m n →
      Element.ofXml m = Element.ofXml n ∧
      ∀ (options : Options) (rootName : String),
        infer options rootName (.ofXml m) = infer options rootName (.ofXml n) ∧
        ∀ text text', Xml.read text = .ok m → Xml.read text' = .ok n →
          generate options rootName text .xml = generate options rootName text' .xml ∧
          ((generate options rootName text .xml).bind fun s => SourceFile.ofRegistry s.registry)
            = (generate options rootName text' .xml).bind fun s => SourceFile.ofRegistry s.registry) ∧
    (∀ (m n : Node) (name : String), m.name? = some name → n.name? = some name →
      Element.ofXml m = Element.ofXml n → Edited m n) ∧
    ∀ (name : String) (nodes : List Node), (∀ n ∈ nodes, n.isElement = false) →
      Element.ofXml (.element name [] nodes)
        = .scalar (.token (String.join (nodes.filterMap Node.text?))) := by
  refine ⟨fun m n hedited => ?_, fun m n name hm hn htree => edited_of_ofXml_eq hm hn htree, ?_⟩
  · have htree := hedited.ofXml_eq
    refine ⟨htree, fun options rootName => ⟨by rw [htree], fun text text' hm hn => ?_⟩⟩
    have hread : Document.read text .xml = Document.read text' .xml := by
      simp only [Document.read, readXml, hm, hn, Except.map, htree]
    have hgenerate : generate options rootName text .xml
        = generate options rootName text' .xml := by
      rw [generate, generate, hread]
    exact ⟨hgenerate, by rw [hgenerate]⟩
  · intro name nodes hleaf
    have hmixed : ¬ IsMixed [] nodes := by
      rintro (h | ⟨n, hn, helement⟩)
      · exact h rfl
      · rw [hleaf n hn] at helement
        cases helement
    rw [ofXml_of_not_isMixed hmixed, directText_eq_join]

/-- A document with a comment inside a text, and with a text beside children. -/
def commentedParts : String := "<r><a>x<!--c-->y</a>t<b/></r>"

/-- The document without the comment, with an instruction and another text beside the children. -/
def instructedParts : String := "<r><a>xy</a><?p q?>u<b/></r>"

/-- The root element of the first document. -/
def commentedRoot : Node :=
  .element "r" [] [.element "a" [] [.text "x", .comment "c", .text "y"], .text "t",
    .element "b" [] []]

/-- The root element of the second document. -/
def instructedRoot : Node :=
  .element "r" [] [.element "a" [] [.text "xy"], .instruction "p" "q", .text "u",
    .element "b" [] []]

theorem edited_commentedRoot : Edited commentedRoot instructedRoot := by
  -- the comment goes out of the text, which is joined
  have hout : Edited (.element "a" [] [.text "x", .comment "c", .text "y"])
      (.element "a" [] [.text "x", .text "y"]) :=
    (Edited.here "a" [] [.text "x"] [.text "y"] (Exchange.comment "c")).symm
  have hjoin : Edited (.element "a" [] [.text "x", .text "y"]) (.element "a" [] [.text "xy"]) :=
    (Edited.here "a" [] [] [] (Exchange.split "x" "y")).symm
  have hinside := Edited.inside "r" [] [] [.text "t", .element "b" [] []] (hout.trans hjoin)
  -- the instruction comes in, and beside children the text may be changed
  have hin := Edited.here "r" [] [.element "a" [] [.text "xy"]]
    [.text "t", .element "b" [] []] (Exchange.instruction "p" "q")
  have hmixed : IsMixed [] ([.element "a" [] [.text "xy"], .instruction "p" "q"] ++
      [.element "b" [] []]) := Or.inr ⟨_, List.mem_cons_self, rfl⟩
  have hreword := Edited.here "r" [] _ _ (Exchange.reword hmixed "t" "u")
  exact (hinside.trans hin).trans hreword

theorem ofXml_leaves_out_commentedParts :
    Edited commentedRoot instructedRoot ∧
      Element.ofXml commentedRoot = Element.ofXml instructedRoot ∧
      Xml.read commentedParts = .ok commentedRoot ∧ Xml.read instructedParts = .ok instructedRoot ∧
      generate .standard "p.R" commentedParts .xml = generate .standard "p.R" instructedParts .xml ∧
      Edited (.element "a" [] [.text "x", .comment "c", .text "y"]) (.element "a" [] [.text "xy"]) ∧
      Element.ofXml (.element "a" [] [.text "x", .comment "c", .text "y"])
        = .scalar (.token "xy") := by
  obtain ⟨hedits, htrees, hleaves⟩ := ofXml_leaves_out
  have hfirst : Xml.read commentedParts = .ok commentedRoot := by with_unfolding_all rfl
  have hsecond : Xml.read instructedParts = .ok instructedRoot := by with_unfolding_all rfl
  obtain ⟨htree, hinfer⟩ := hedits _ _ edited_commentedRoot
  obtain ⟨_, hgenerate⟩ := hinfer .standard "p.R"
  refine ⟨edited_commentedRoot, htree, hfirst, hsecond, (hgenerate _ _ hfirst hsecond).1, ?_, ?_⟩
  · exact htrees _ _ "a" rfl rfl rfl
  · exact hleaves "a" _ (by decide)

end Specimen.Document
