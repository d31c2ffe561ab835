import Mathlib.Data.List.Forall2
import OpcUaAdapter.ServerSettings

/-! What the readers of a map file see of its tree: the elements, whatever texts stand
between them. -/

namespace OpcUaAdapter.XmlNode

mutual
def tags : XmlNode → List XmlNode
  | .element name attributes children => [.element name attributes (tagsAmong children)]
  | .text _ => []

def tagsAmong : List XmlNode → List XmlNode
  | [] => []
  | node :: rest => node.tags ++ tagsAmong rest
end

theorem namedAmong_append (elementName : Text) (nodes others : List XmlNode) :
    namedAmong elementName (nodes ++ others) = namedAmong elementName nodes ++ namedAmong elementName others := by
  induction nodes with
  | nil => rfl
  | cons node nodes ih => rw [List.cons_append, namedAmong, namedAmong, ih, List.append_assoc]

mutual
private theorem namedAmong_tags (elementName : Text) :
    ∀ node : XmlNode, namedAmong elementName node.tags = (node.named elementName).flatMap tags
  | .element name attributes children => by
    rw [tags, namedAmong, namedAmong, List.append_nil, named, named, namedAmong_tagsAmong elementName children,
      List.flatMap_append]
    congr 1
    split <;> simp [tags]
  | .text _ => rfl

private theorem namedAmong_tagsAmong (elementName : Text) :
    ∀ nodes : List XmlNode, namedAmong elementName (tagsAmong nodes) = (namedAmong elementName nodes).flatMap tags
  | [] => rfl
  | node :: rest => by
    rw [tagsAmong, namedAmong_append, namedAmong_tags elementName node, namedAmong_tagsAmong elementName rest, namedAmong,
      List.flatMap_append]
end

private theorem filter_tagsAmong (elementName : Text) (nodes : List XmlNode) :
    (tagsAmong nodes).filter (isElement elementName) = (nodes.filter (isElement elementName)).flatMap tags := by
  induction nodes with
  | nil => rfl
  | cons node nodes ih =>
    rw [tagsAmong, List.filter_append, ih]
    cases node with
    | text content => rfl
    | element name attributes children => by_cases found : name = elementName <;> simp [tags, isElement, found]

def IsTag : XmlNode → Prop
  | .element _ _ _ => True
  | .text _ => False

/-- The same element but for texts. -/
def SameTags (node other : XmlNode) : Prop := node.tags = other.tags

mutual
private theorem named_isTag (elementName : Text) : ∀ node : XmlNode, ∀ found ∈ node.named elementName, found.IsTag
  | .element name attributes children => by
    intro found member
    rw [named] at member
    rcases List.mem_append.mp member with own | lower
    · split at own
      · cases List.mem_singleton.mp own
        trivial
      · cases own
    · exact namedAmong_isTag elementName children found lower
  | .text _ => by simp [named]

private theorem namedAmong_isTag (elementName : Text) :
    ∀ nodes : List XmlNode, ∀ found ∈ namedAmong elementName nodes, found.IsTag
  | [] => by simp [namedAmong]
  | node :: rest => by
    intro found member
    rw [namedAmong] at member
    rcases List.mem_append.mp member with here | later
    · exact named_isTag elementName node found here
    · exact namedAmong_isTag elementName rest found later
end

private theorem isTag_of_isElement {elementName : Text} {node : XmlNode} (found : node.isElement elementName = true) :
    node.IsTag := by
  cases node with
  | element name attributes children => trivial
  | text content => cases found

theorem forall₂_of_flatMap_tags {nodes others : List XmlNode} (first : ∀ node ∈ nodes, node.IsTag)
    (second : ∀ other ∈ others, other.IsTag) (same : nodes.flatMap tags = others.flatMap tags) :
    List.Forall₂ SameTags nodes others := by
  induction nodes generalizing others with
  | nil =>
    cases others with
    | nil => exact .nil
    | cons other others =>
      cases other with
      | element name attributes children => simp [tags] at same
      | text content => exact (second _ List.mem_cons_self).elim
  | cons node nodes ih =>
    cases node with
    | text content => exact (first _ List.mem_cons_self).elim
    | element name attributes children =>
      cases others with
      | nil => simp [tags] at same
      | cons other others =>
        cases other with
        | text content => exact (second _ List.mem_cons_self).elim
        | element otherName otherAttributes otherChildren =>
          simp only [List.flatMap_cons, tags, List.singleton_append, List.cons.injEq] at same
          refine .cons ?_ (ih (fun node member => first node (List.mem_cons_of_mem _ member))
            (fun other member => second other (List.mem_cons_of_mem _ member)) same.2)
          rw [SameTags, tags, tags, same.1]

namespace SameTags

variable {node other : XmlNode}

theorem named (same : SameTags node other) (elementName : Text) :
    List.Forall₂ SameTags (node.named elementName) (other.named elementName) := by
  apply forall₂_of_flatMap_tags (named_isTag elementName node) (named_isTag elementName other)
  rw [← namedAmong_tags, ← namedAmong_tags, same]

theorem children (same : SameTags node other) : tagsAmong node.children = tagsAmong other.children := by
  cases node with
  | text content =>
    cases other with
    | text content => rfl
    | element name attributes children => cases same
  | element name attributes children =>
    cases other with
    | text content => cases same
    | element otherName otherAttributes otherChildren => exact (XmlNode.element.inj (List.cons.inj same).1).2.2

theorem inside (same : SameTags node other) (elementName : Text) :
    List.Forall₂ SameTags (node.inside elementName) (other.inside elementName) := by
  apply forall₂_of_flatMap_tags (namedAmong_isTag elementName node.children)
    (namedAmong_isTag elementName other.children)
  rw [← namedAmong_tagsAmong, ← namedAmong_tagsAmong, same.children]

theorem filter (same : SameTags node other) (elementName : Text) :
    List.Forall₂ SameTags (node.children.filter (isElement elementName)) (other.children.filter (isElement elementName)) := by
  apply forall₂_of_flatMap_tags (fun found member => isTag_of_isElement (List.mem_filter.mp member).2)
    (fun found member => isTag_of_isElement (List.mem_filter.mp member).2)
  rw [← filter_tagsAmong, ← filter_tagsAmong, same.children]

theorem getProp (same : SameTags node other) (attributeName : Text) :
    node.getProp attributeName = other.getProp attributeName := by
  cases node with
  | text content =>
    cases other with
    | text content => rfl
    | element name attributes children => cases same
  | element name attributes children =>
    cases other with
    | text content => cases same
    | element otherName otherAttributes otherChildren =>
      obtain ⟨-, attributes_eq, -⟩ := XmlNode.element.inj (List.cons.inj same).1
      exact congrArg (fun attributes => attributes.lookup attributeName) attributes_eq

theorem attributeValue (same : SameTags node other) (attributeName : Text) :
    node.attributeValue attributeName = other.attributeValue attributeName :=
  congrArg getAttributeValueFromNode (same.getProp attributeName)

end SameTags

/-- What is read of each element by its attributes does not depend on the texts. -/
theorem map_of_forall₂ {α : Type} {nodes others : List XmlNode} (same : List.Forall₂ SameTags nodes others)
    {read : XmlNode → α} (attributes : ∀ node other, SameTags node other → read node = read other) :
    nodes.map read = others.map read := by
  induction same with
  | nil => rfl
  | cons first _ ih => rw [List.map_cons, List.map_cons, attributes _ _ first, ih]

end OpcUaAdapter.XmlNode
