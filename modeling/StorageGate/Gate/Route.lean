/-!
# Routes

The paths at which a gate is reached, as a pattern.  A pattern is text that stands for itself, `{name}` for one segment,
and `{*name}` at its end for all that is left.  What stands for the end of a path is at least one character; a segment
before the end may be empty.  A brace that is text is doubled.  Names are not used, since a gate is told nothing of the
path.
-/
namespace StorageGate

/-- A piece of a pattern. -/
inductive RoutePiece where
  | exactly (c : Char)
  | segment
  | remainder
deriving DecidableEq, Repr

/-- A pattern for paths. -/
structure Route where
  pieces : List RoutePiece
deriving DecidableEq, Repr

namespace Route

/-- The characters of a pattern, and whether they are text whatever they are; a doubled brace is one that is. -/
def unescape : List Char → List (Char × Bool)
  | '\x7b' :: '\x7b' :: rest => ('\x7b', true) :: unescape rest
  | '\x7d' :: '\x7d' :: rest => ('\x7d', true) :: unescape rest
  | c :: rest => (c, false) :: unescape rest
  | [] => []

/-- What a name between braces stands for, given what follows.  A segment ends at a slash, a remainder at the end. -/
def named? (name : List Char) (rest : List (Char × Bool)) : Option RoutePiece :=
  match name with
  | [] | ['*'] => none
  | '*' :: _ => if rest.isEmpty then some .remainder else none
  | _ => if rest.isEmpty || rest.head?.any (·.1 == '/') then some .segment else none

/-- The pieces of a pattern, given the name that is open (last character first).  A name begins with any character but a
closing brace, and no slash or star stands further in it. -/
def piecesFrom : Option (List Char) → List (Char × Bool) → Option (List RoutePiece)
  | none, [] => some []
  | some _, [] => none
  | none, (c, isText) :: rest =>
    if isText || c != '\x7b' && c != '\x7d' then (piecesFrom none rest).map (.exactly c :: ·)
    else if c = '\x7b' then piecesFrom (some []) rest
    else none
  | some [], (c, _) :: rest => if c = '\x7d' then none else piecesFrom (some [c]) rest
  | some (d :: name), (c, isText) :: rest =>
    if !isText && c == '\x7d' then
      match named? (d :: name).reverse rest with
      | none => none
      | some piece => (piecesFrom none rest).map (piece :: ·)
    else if c == '/' || c == '*' then none
    else piecesFrom (some (c :: d :: name)) rest

/-- The route of a pattern. -/
def ofPattern? (pattern : String) : Option Route :=
  (piecesFrom none (unescape pattern.toList)).map Route.mk

/-- The route of one path. -/
def ofPath (path : String) : Route := ⟨path.toList.map .exactly⟩

/-- Whether pieces stand for a path. -/
def piecesAccept : List RoutePiece → List Char → Bool
  | [], path => path.isEmpty
  | .exactly c :: pieces, path =>
    match path with
    | [] => false
    | d :: rest => c == d && piecesAccept pieces rest
  | .segment :: pieces, path =>
    !(pieces.isEmpty && path.isEmpty) && piecesAccept pieces (path.dropWhile (· != '/'))
  | .remainder :: _, path => !path.isEmpty

/-- Whether a path is one of the route's. -/
def accepts (route : Route) (path : String) : Bool := piecesAccept route.pieces path.toList

/-- The route of one path accepts that path and no other. -/
theorem accepts_ofPath {path other : String} : (ofPath path).accepts other = true ↔ other = path := by
  have h : ∀ (p q : List Char), piecesAccept (p.map .exactly) q = true ↔ q = p := by
    intro p
    induction p with
    | nil => intro q; cases q <;> simp [piecesAccept]
    | cons c p ih =>
      intro q
      cases q with
      | nil => simp [piecesAccept]
      | cons d q =>
        simp only [List.map_cons, piecesAccept, Bool.and_eq_true, beq_iff_eq, ih, List.cons.injEq]
        exact ⟨fun h => ⟨h.1.symm, h.2⟩, fun h => ⟨h.1.symm, h.2⟩⟩
  simp only [accepts, ofPath, h]
  exact String.toList_inj

end Route
end StorageGate
