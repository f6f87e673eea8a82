import StorageGate.Xml.Token
/-!
# The root of an XML document

A document is taken for its root element: before it only white space, comments and document types may stand, and what
follows it is not looked at.  Tags must match by name.
-/
namespace StorageGate
namespace Xml

/-- The tokens of the root, given the names of the elements around the place (the innermost first) and the tokens that
are `read` (last first).  An element without content is opened and closed. -/
def rootFrom (around : List (List Char)) (read : List Token) : List Token → Option (List Token)
  | [] | .malformed :: _ => none
  | .opening tag :: rest => rootFrom (tag.name :: around) (.opening tag :: read) rest
  | .alone tag :: rest =>
    let read := .closing tag.name :: .opening tag :: read
    if around.isEmpty then some read.reverse else rootFrom around read rest
  | .closing name :: rest =>
    match around with
    | [] => none
    | inner :: outer =>
      if name ≠ inner then none
      else if outer.isEmpty then some (.closing name :: read).reverse
      else rootFrom outer (.closing name :: read) rest
  | .characters raw :: rest =>
    if !around.isEmpty then rootFrom around (.characters raw :: read) rest
    else if raw.all isSpace then rootFrom around read rest
    else none
  | .verbatim text :: rest => if around.isEmpty then none else rootFrom around (.verbatim text :: read) rest
  | .documentType :: rest => rootFrom around (if around.isEmpty then read else .documentType :: read) rest

/-- The tokens of the root of a text.  A byte order mark in front of it is skipped. -/
def root? (text : List Char) : Option (List Token) :=
  rootFrom [] [] (tokens (match text with
    | '\uFEFF' :: rest => rest
    | _ => text))

end Xml
end StorageGate
