import Specimen.Document.Read
import Specimen.Proofs.Inference.Naming
import Specimen.Proofs.Success
import Specimen.Proofs.Xml.Pieces

set_option autoImplicit false

/-! # Names in XML documents

Every element and every attribute of a document that is read has a local name (`read_isNamed`).
The assembly of the tree keeps this of everything it holds (`Assembly.IsNamed`): each step takes
names from pieces of markup or from elements that are open, and the text of an entity, at any
depth of entities, is read into such pieces again.
-/

namespace Specimen.Xml

/-! ## Trees and assemblies -/

/-- The attributes have local names. -/
def HaveLocalNames (attributes : List (String × String)) : Prop :=
  ∀ a ∈ attributes, IsLocalName a.1.toList

/-- All elements and attributes of a tree have local names. -/
inductive Node.IsNamed : Node → Prop
  | element {name : String} {attributes : List (String × String)} {children : List Node}
      (hname : IsLocalName name.toList) (hattributes : HaveLocalNames attributes)
      (hchildren : ∀ n ∈ children, n.IsNamed) : Node.IsNamed (.element name attributes children)
  | text (content : String) : Node.IsNamed (.text content)
  | comment (content : String) : Node.IsNamed (.comment content)
  | instruction (target content : String) : Node.IsNamed (.instruction target content)

/-- All names in an open element are local names. -/
structure OpenElement.IsNamed (e : OpenElement) : Prop where
  name : IsLocalName e.name.name
  attributes : HaveLocalNames e.attributes
  children : ∀ n ∈ e.children, n.IsNamed

namespace Assembly

/-- All names that the assembly holds are local names. -/
structure IsNamed (a : Assembly) : Prop where
  openElements : ∀ e ∈ a.openElements, e.IsNamed
  outside : ∀ n ∈ a.outside, n.IsNamed
  tag : ∀ name index, a.tag = some (name, index) → IsLocalName name.name
  attributes : ∀ p ∈ a.attributes, IsLocalName p.name.name

theorem isNamed_start : start.IsNamed where
  openElements _ h := by cases h
  outside _ h := by cases h
  tag _ _ h := by cases h
  attributes _ h := by cases h

variable {a b : Assembly}

theorem IsNamed.addNode (ha : a.IsNamed) {n : Node} (hn : n.IsNamed) : (a.addNode n).IsNamed := by
  unfold Assembly.addNode
  split
  · exact { ha with outside := List.forall_mem_cons.mpr ⟨hn, ha.outside⟩ }
  · next e es hopen =>
      have helements := ha.openElements
      rw [hopen, List.forall_mem_cons] at helements
      refine { ha with openElements := List.forall_mem_cons.mpr ⟨?_, helements.2⟩ }
      exact { helements.1 with children := List.forall_mem_cons.mpr ⟨hn, helements.1.children⟩ }

theorem IsNamed.addText (ha : a.IsNamed) (reversed : List Char) :
    (a.addText reversed).IsNamed := by
  unfold Assembly.addText
  split_ifs
  · exact ha
  · exact ha.addNode (.text _)

/-! ## Tags -/

theorem haveLocalNames_of_resolveAttributes {namespaces : Namespaces}
    {pending : List PendingAttribute} (hpending : ∀ p ∈ pending, IsLocalName p.name.name)
    {done : List (Option (List Char) × List Char)} {attributes : List (String × String)}
    (h : resolveAttributes namespaces done pending = .ok attributes) :
    HaveLocalNames attributes := by
  induction pending generalizing done attributes with
  | nil =>
      cases h
      exact fun _ h => by cases h
  | cons p ps ih =>
      rw [List.forall_mem_cons] at hpending
      unfold resolveAttributes at h
      split at h
      · cases h
      · split_ifs at h
        obtain ⟨others, hothers, rfl⟩ := exists_of_map_eq_ok h
        refine List.forall_mem_cons.mpr ⟨?_, ih hpending.2 hothers⟩
        simpa using hpending.1

theorem IsNamed.takeAttributes (ha : a.IsNamed) {attributes : List (String × String)}
    (h : a.takeAttributes = .ok (attributes, b)) : HaveLocalNames attributes ∧ b.IsNamed := by
  obtain ⟨resolved, hresolved, hb⟩ := exists_of_map_eq_ok h
  cases hb
  refine ⟨haveLocalNames_of_resolveAttributes ha.attributes hresolved, ?_⟩
  exact { ha with attributes := fun _ h => by cases h }

theorem IsNamed.beginTag (ha : a.IsNamed) {name : QName} (hname : IsLocalName name.name)
    {index : Nat} (h : a.beginTag name index = .ok b) : b.IsNamed := by
  unfold Assembly.beginTag at h
  split_ifs at h
  cases h
  refine { ha with tag := fun name' index' h => ?_ }
  cases h
  exact hname

/-- Declaring a namespace adds no name. -/
theorem IsNamed.declareNamespace (ha : a.IsNamed) {qualifier uri : List Char} {index : Nat}
    (h : a.declareNamespace qualifier uri index = .ok b) : b.IsNamed := by
  unfold Assembly.declareNamespace at h
  split_ifs at h <;> cases h
  · exact ha
  · exact { ha with }

theorem IsNamed.declareDefault (ha : a.IsNamed) {uri : List Char} {index : Nat}
    (h : a.declareDefault uri index = .ok b) : b.IsNamed := by
  unfold Assembly.declareDefault at h
  split_ifs at h
  cases h
  exact { ha with }

theorem IsNamed.addAttribute (ha : a.IsNamed) {name : QName} (hname : IsLocalName name.name)
    {value : List Char} {index : Nat} (h : a.addAttribute name value index = .ok b) :
    b.IsNamed := by
  unfold Assembly.addAttribute at h
  split_ifs at h
  · exact ha.declareNamespace h
  · exact ha.declareDefault h
  · cases h
    refine { ha with attributes := fun p hp => ?_ }
    rcases List.mem_append.mp hp with hp | hp
    · exact ha.attributes p hp
    · rwa [List.mem_singleton.mp hp]

theorem IsNamed.endTag (ha : a.IsNamed) {isEmpty : Bool} (h : a.endTag isEmpty = .ok b) :
    b.IsNamed := by
  unfold Assembly.endTag at h
  split at h
  · cases h
    exact ha
  · next name index htag =>
      have hname : IsLocalName (String.ofList name.name).toList := by
        rw [String.toList_ofList]
        exact ha.tag name index htag
      obtain ⟨⟨attributes, c⟩, hattributes, h⟩ := exists_of_bind_eq_ok h
      obtain ⟨hlocal, hc⟩ := ha.takeAttributes hattributes
      have hend : (if isEmpty = true then
            Except.ok (c.addNode (.element (String.ofList name.name) attributes []))
          else .ok { c with openElements := ⟨name, attributes, a.scope, []⟩ :: c.openElements })
          = (.ok b : Except Fault Assembly) := by
        dsimp only at h
        split at h
        · exact h
        · obtain ⟨_, _, h⟩ := exists_of_bind_eq_ok h
          exact h
      split_ifs at hend <;> cases hend
      · exact hc.addNode (.element hname hlocal fun _ h => by cases h)
      · refine { hc with openElements := List.forall_mem_cons.mpr ⟨?_, hc.openElements⟩ }
        exact ⟨ha.tag name index htag, hlocal, fun _ h => by cases h⟩

theorem IsNamed.closeTag (ha : a.IsNamed) {name : QName} {index : Nat}
    (h : a.closeTag name index = .ok b) : b.IsNamed := by
  unfold Assembly.closeTag at h
  split at h
  · cases h
  · obtain ⟨⟨_, c⟩, hattributes, h⟩ := exists_of_bind_eq_ok h
    have hc := (ha.takeAttributes hattributes).2
    dsimp only at h
    split at h
    · cases h
    · next e es hopen =>
        have helements := hc.openElements
        rw [hopen, List.forall_mem_cons] at helements
        split_ifs at h
        cases h
        -- the element that ends is complete, and its parent gets it as a child
        have hothers : { c with openElements := es }.IsNamed :=
          { hc with openElements := helements.2 }
        refine hothers.addNode (.element ?_ helements.1.attributes fun n hn => ?_)
        · rw [String.toList_ofList]
          exact helements.1.name
        · exact helements.1.children n (List.mem_reverse.mp hn)

/-! ## Content and entities -/

theorem IsNamed.countReference (ha : a.IsNamed) {levels : Nat} {s : Cursor}
    (h : a.countReference levels s = .ok b) : b.IsNamed := by
  unfold Assembly.countReference at h
  split_ifs at h <;> cases h
  · exact { ha with }
  · exact ha

theorem IsNamed.forgetReferences (ha : a.IsNamed) (levels : Nat) :
    (a.forgetReferences levels).IsNamed := by
  unfold Assembly.forgetReferences
  split_ifs
  · exact { ha with }
  · exact ha

/-- Putting the text of an entity into a document keeps all names local. -/
def Expansion.KeepsNames (expand : Expansion Assembly) : Prop :=
  ∀ text a b, a.IsNamed → expand text a = .ok b → b.IsNamed

/-- Putting the text of an entity into a value keeps all names of the document local. -/
def Expansion.KeepsNamesBeside (expand : Expansion (List Char × Assembly)) : Prop :=
  ∀ text value value', value.2.IsNamed → expand text value = .ok value' → value'.2.IsNamed

theorem IsNamed.addContent {levels : Nat} {expand : Expansion Assembly}
    (hexpand : expand.KeepsNames) (s : Cursor) (reversed : List Char) (isRaw : Bool)
    (ha : a.IsNamed) (h : addContent levels expand s reversed isRaw a = .ok b) : b.IsNamed := by
  fun_induction Assembly.addContent levels expand s reversed isRaw a with
  | case1 s reversed isRaw a hrest =>
      cases h
      exact ha.addText reversed
  | case2 => cases h
  | case3 s reversed isRaw a r d t _ _ _ _ ih => exact ih ha h
  | case4 s reversed isRaw a r d t _ _ _ _ ih => exact ih ha h
  | case5 => cases h
  | case6 s reversed isRaw a r name t _ text _ _ _ ih =>
      obtain ⟨c, hc, h⟩ := exists_of_bind_eq_ok h
      obtain ⟨d, hd, h⟩ := exists_of_bind_eq_ok h
      have hcount := (ha.addText reversed).countReference hc
      have hfront : { c with tag := none }.IsNamed := { hcount with tag := fun _ _ h => by cases h }
      have hexpanded : d.IsNamed := hexpand text _ d hfront hd
      -- behind the entity the start tag is again the one in front of it
      have hbehind : { d with tag := a.tag }.IsNamed := { hexpanded with tag := ha.tag }
      exact ih d (hbehind.forgetReferences levels) h
  | case7 s reversed a c r _ _ ih => exact ih ha h
  | case8 s reversed isRaw a c r _ _ _ ih => exact ih ha h

theorem keepsNamesBeside_addValue {levels : Nat} {expand : Expansion (List Char × Assembly)}
    (hexpand : expand.KeepsNamesBeside) : Expansion.KeepsNamesBeside (addValue levels expand) := by
  intro s value value' hvalue h
  fun_induction Assembly.addValue levels expand s value with
  | case1 =>
      cases h
      exact hvalue
  | case2 => cases h
  | case3 => cases h
  | case4 s value r d t _ _ _ _ _ ih => exact ih hvalue h
  | case5 s value r d t _ _ _ _ ih => exact ih hvalue h
  | case6 => cases h
  | case7 s value r name t _ text _ _ _ ih =>
      obtain ⟨b, hb, h⟩ := exists_of_bind_eq_ok h
      obtain ⟨⟨reversed, d⟩, hd, h⟩ := exists_of_bind_eq_ok h
      have hexpanded : d.IsNamed := hexpand text (value.1, b) _ (hvalue.countReference hb) hd
      exact ih reversed d (hexpanded.forgetReferences levels) h
  | case8 s value c r _ _ ih => exact ih hvalue h

theorem keepsNamesBeside_expandValue (levels : Nat) :
    Expansion.KeepsNamesBeside (expandValue levels) := by
  induction levels with
  | zero =>
      intro text value value' hvalue h
      cases h
      exact hvalue
  | succ levels ih => exact keepsNamesBeside_addValue ih

/-! ## Pieces -/

/-- **One piece** whose names are local keeps all names local. -/
theorem IsNamed.addPiece {levels : Nat} {expand : Expansion Assembly} (hexpand : expand.KeepsNames)
    (ha : a.IsNamed) {m : Markup} (hm : m.IsNamed)
    (h : Assembly.addPiece levels expand a m = .ok b) : b.IsNamed := by
  match m, hm, h with
  | .comment text, _, h =>
      cases h
      exact ha.addNode (.comment _)
  | .instruction target text, _, h =>
      cases h
      exact ha.addNode (.instruction _ _)
  | .entity name text, _, h =>
      cases h
      exact { ha with }
  | .tag name index, hm, h => exact ha.beginTag hm h
  | .attribute name value index, hm, h =>
      obtain ⟨⟨reversed, c⟩, hc, h⟩ := exists_of_bind_eq_ok h
      have hbeside : Expansion.KeepsNamesBeside (addValue levels (expandValue levels)) :=
        keepsNamesBeside_addValue (keepsNamesBeside_expandValue levels)
      exact (hbeside value ([], a) _ ha hc).addAttribute hm h
  | .tagEnd isEmpty, _, h => exact ha.endTag h
  | .closeTag name index, _, h => exact ha.closeTag h
  | .text content, _, h => exact ha.addContent hexpand _ _ _ h
  | .verbatim content, _, h =>
      cases h
      exact ha.addText _

theorem IsNamed.foldPieces {levels : Nat} {expand : Expansion Assembly}
    (hexpand : expand.KeepsNames) (ha : a.IsNamed) {pieces : List Markup}
    (hpieces : ∀ m ∈ pieces, m.IsNamed)
    (h : pieces.foldlM (Assembly.addPiece levels expand) a = .ok b) : b.IsNamed := by
  induction pieces generalizing a with
  | nil =>
      cases h
      exact ha
  | cons m pieces ih =>
      rw [List.forall_mem_cons] at hpieces
      rw [List.foldlM_cons] at h
      obtain ⟨c, hc, h⟩ := exists_of_bind_eq_ok h
      exact ih (ha.addPiece hexpand hpieces.1 hc) hpieces.2 h

/-- **All pieces** of a reading keep all names local. -/
theorem IsNamed.addPieces {levels : Nat} {expand : Expansion Assembly} (hexpand : expand.KeepsNames)
    (ha : a.IsNamed) {scan : Scan Unit} (hscan : scan.Yields)
    (h : Assembly.addPieces levels expand a scan = .ok b) : b.IsNamed := by
  unfold Assembly.addPieces at h
  split at h
  · cases h
  · next c hc =>
      obtain ⟨_, _, rfl⟩ := exists_of_map_eq_ok h
      exact ha.foldPieces hexpand hscan hc

theorem keepsNames_expandContent (levels : Nat) : Expansion.KeepsNames (expandContent levels) := by
  induction levels with
  | zero =>
      intro text a b ha h
      cases h
      exact ha
  | succ levels ih => exact fun text a b ha h => ha.addPieces ih (contentPieces_yields text) h

theorem IsNamed.root (ha : a.IsNamed) {n : Node} (h : a.root = .ok n) : n.IsNamed := by
  unfold Assembly.root at h
  split_ifs at h
  split at h
  · next n' hfind =>
      cases h
      exact ha.outside _ (List.mem_reverse.mp (List.mem_of_find?_eq_some hfind))
  · cases h

end Assembly

/-- **All names of a document that is read are local names.** -/
theorem read_isNamed {text : String} {n : Node} (h : read text = .ok n) : n.IsNamed := by
  unfold read at h
  dsimp only at h
  split at h
  · next n' hroot =>
      cases h
      obtain ⟨a, ha, hroot⟩ := exists_of_bind_eq_ok hroot
      have hexpand := Assembly.keepsNames_expandContent Assembly.nestingLimit
      have hpieces := readDocument_yields text.toList
      exact (Assembly.isNamed_start.addPieces hexpand hpieces ha).root hroot
  · cases h

/-- A local name holds no slash. -/
theorem IsLocalName.slash_not_mem {name : List Char} (h : IsLocalName name) : '/' ∉ name := by
  intro hslash
  exact absurd (h.2.2 '/' hslash) (by decide)

end Specimen.Xml

namespace Specimen.Document

open Specimen.Xml Specimen.Inference

mutual

/-- The names of the parts of a tree's document are names of the tree's elements. -/
theorem isLocalName_of_mem_partNames :
    ∀ (n : Node), n.IsNamed → ∀ name ∈ partNames (Element.ofXml n), IsLocalName name.toList
  | .text _, _, _, h => by cases h
  | .comment _, _, _, h => by cases h
  | .instruction _ _, _, _, h => by cases h
  | .element tag attributes nodes, hn, name, h => by
      cases hn with
      | element _ _ hnodes =>
          rw [Element.ofXml] at h
          split_ifs at h
          · cases h
          · exact isLocalName_of_mem_childNames nodes hnodes name h

theorem isLocalName_of_mem_childNames :
    ∀ (nodes : List Node), (∀ n ∈ nodes, n.IsNamed) →
      ∀ name ∈ childNames .xml (Element.ofNodes nodes), IsLocalName name.toList
  | [], _, _, h => by cases h
  | .text _ :: nodes, hnodes, name, h =>
      isLocalName_of_mem_childNames nodes (List.forall_mem_cons.mp hnodes).2 name h
  | .comment _ :: nodes, hnodes, name, h =>
      isLocalName_of_mem_childNames nodes (List.forall_mem_cons.mp hnodes).2 name h
  | .instruction _ _ :: nodes, hnodes, name, h =>
      isLocalName_of_mem_childNames nodes (List.forall_mem_cons.mp hnodes).2 name h
  | .element tag attributes inner :: nodes, hnodes, name, h => by
      rw [List.forall_mem_cons] at hnodes
      rw [Element.ofNodes, childNames, List.mem_append, List.mem_append] at h
      rcases h with (h | h) | h
      · rw [if_neg (by decide), List.mem_singleton] at h
        rw [h]
        cases hnodes.1 with
        | element htag _ _ => exact htag
      · exact isLocalName_of_mem_partNames (.element tag attributes inner) hnodes.1 name h
      · exact isLocalName_of_mem_childNames nodes hnodes.2 name h

end

/-- **The parts of an XML document have local names.** -/
theorem isLocalName_of_readXml {text : String} {element : Element}
    (h : readXml text = .ok element) : ∀ name ∈ partNames element, IsLocalName name.toList := by
  obtain ⟨n, hn, rfl⟩ := exists_of_map_eq_ok (exists_of_mapError_eq_ok h)
  exact isLocalName_of_mem_partNames n (read_isNamed hn)

end Specimen.Document
