import StorageGate.Xml.Attribute
/-!
# XML namespaces

A tag binds labels to namespaces by attributes named `xmlns:` and the label; a binding holds inside the element, and
inner ones hide outer ones.  The labels `xml` and `xmlns` and their namespaces belong to each other and cannot be bound
otherwise.  Here namespaces serve one purpose: to tell the attribute that marks an element as nil.
-/
namespace StorageGate
namespace Xml

/-- A label that stands for a namespace since some depth. -/
structure Binding where
  depth : Nat
  label : List Char
  uri : List Char
deriving DecidableEq, Repr

/-- The bindings in force at some depth, the innermost first. -/
structure Namespaces where
  depth : Nat := 0
  bindings : List Binding := []
deriving DecidableEq, Repr

/-- The namespace of the label `xml`. -/
def xmlUri : List Char := "http://www.w3.org/XML/1998/namespace".toList

/-- The namespace of the label `xmlns`. -/
def xmlnsUri : List Char := "http://www.w3.org/2000/xmlns/".toList

/-- The namespace of the attribute that marks an element as nil. -/
def nilUri : List Char := "http://www.w3.org/2001/XMLSchema-instance".toList

/-- The label and the namespace that an attribute binds. -/
def Attribute.binding? (a : Attribute) : Option (List Char × List Char) :=
  if "xmlns:".toList.isPrefixOf a.name then some (a.name.drop 6, a.value) else none

/-- Whether a label may be bound to a namespace. -/
def mayBind (label uri : List Char) : Bool :=
  if label = "xml".toList then uri = xmlUri
  else label ≠ "xmlns".toList && uri ≠ xmlUri && uri ≠ xmlnsUri

namespace Namespaces

/-- Inside a tag with these attributes; fails on a binding that may not be. -/
def enter (n : Namespaces) (attributes : List Char) : Option Namespaces :=
  let declared := (leadingAttributes attributes).filterMap Attribute.binding?
  if declared.all fun d => mayBind d.1 d.2 then
    some { depth := n.depth + 1, bindings := (declared.map fun d => ⟨n.depth + 1, d.1, d.2⟩).reverse ++ n.bindings }
  else none

/-- One step out: what was bound deeper is gone. -/
def leave (n : Namespaces) : Namespaces :=
  { depth := n.depth - 1, bindings := n.bindings.filter (·.depth < n.depth) }

/-- The namespace that a label stands for. -/
def uri? (n : Namespaces) (label : List Char) : Option (List Char) :=
  if label.isEmpty then none else (n.bindings.find? (·.label == label)).map Binding.uri

/-- Whether attributes mark their element as nil.  Faults among them are passed over. -/
def marksNil (n : Namespaces) (attributes : List Char) : Bool :=
  (Xml.attributes attributes).any fun
    | some a =>
      match a.name.dropWhile (· != ':') with
      | _ :: localPart =>
        localPart == "nil".toList && n.uri? (a.name.takeWhile (· != ':')) == some nilUri
          && ["true".toList, "1".toList].contains a.value
      | [] => false
    | none => false

end Namespaces
end Xml
end StorageGate
