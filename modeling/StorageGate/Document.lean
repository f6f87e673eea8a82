import StorageGate.Text.Blank
import StorageGate.Text.Form
/-!
# Documents

A document is an ordered list of pairs with a form-encoded text.  White space around the text is no part of it, and the
text that is written holds none.
-/
namespace StorageGate

/-- An ordered list of keys and values. -/
structure Document where
  pairs : List (String × String) := []
deriving DecidableEq, Repr, Inhabited

namespace Document

/-- The document of a text. -/
def parse (text : String) : Document where
  pairs := (Form.parse (trimBlank text.toList)).map fun p => (String.ofList p.1, String.ofList p.2)

/-- The text of a document. -/
def text (d : Document) : String :=
  String.ofList (Form.write (d.pairs.map fun p => (p.1.toList, p.2.toList)))

/-- Appends a pair. -/
def push (d : Document) (key value : String) : Document := { pairs := d.pairs ++ [(key, value)] }

end Document
end StorageGate
