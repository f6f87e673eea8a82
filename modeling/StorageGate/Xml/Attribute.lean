import StorageGate.Xml.Token
/-!
# XML attributes

The attributes of a tag in order: a name, `=` and a value in quotes.  What is no attribute leaves a fault in its place,
and reading goes on behind it: after a name without `=` at the next word, after a value without quotes or a name that
stood before at the next white space.  Only a tag that ends too early ends the reading.
-/
namespace StorageGate
namespace Xml

/-- An attribute with its raw value. -/
structure Attribute where
  name : List Char
  value : List Char
deriving DecidableEq, Repr

/-- Whether a character goes on with the name of an attribute. -/
def isInAttributeName (c : Char) : Bool := c != '=' && !isSpace c

/-- Reads attributes, given what is `read` (last first; `none` is a fault) and the names that stood before; a name may
stand again only if `mayRepeat` says so. -/
def attributesFrom (mayRepeat : Bool) (read : List (Option Attribute)) (names : List (List Char)) (text : List Char) :
    List (Option Attribute) :=
  match _h₁ : text.dropWhile isSpace with
  | [] => read.reverse
  | c :: rest =>
    let name := c :: rest.takeWhile isInAttributeName
    match _h₂ : (rest.dropWhile isInAttributeName).dropWhile isSpace with
    | [] => (none :: read).reverse
    | d :: afterName =>
      if d ≠ '=' then attributesFrom mayRepeat (none :: read) names (d :: afterName)
      else if !mayRepeat && names.contains name then
        attributesFrom mayRepeat (none :: read) names (afterName.dropWhile (!isSpace ·))
      else
        match _h₃ : afterName.dropWhile isSpace with
        | [] => (none :: read).reverse
        | quote :: value =>
          if quote = '"' ∨ quote = '\'' then
            match _h₄ : value.dropWhile (· != quote) with
            | [] => (none :: read).reverse
            | _ :: after =>
              attributesFrom mayRepeat (some ⟨name, value.takeWhile (· != quote)⟩ :: read) (name :: names) after
          else attributesFrom mayRepeat (none :: read) (name :: names) (value.dropWhile (!isSpace ·))
termination_by text.length
decreasing_by
  all_goals
    have a := congrArg List.length _h₁
    have b := congrArg List.length _h₂
    have c₁ : (text.dropWhile isSpace).length ≤ text.length := (List.dropWhile_suffix _).length_le
    have c₂ : ((rest.dropWhile isInAttributeName).dropWhile isSpace).length ≤ rest.length :=
      ((List.dropWhile_suffix _).trans (List.dropWhile_suffix _)).length_le
    simp only [List.length_cons] at *
  · omega
  · have c₃ : (afterName.dropWhile (!isSpace ·)).length ≤ afterName.length := (List.dropWhile_suffix _).length_le
    omega
  · have d₁ := congrArg List.length _h₃
    have d₂ := congrArg List.length _h₄
    have c₃ : (afterName.dropWhile isSpace).length ≤ afterName.length := (List.dropWhile_suffix _).length_le
    have c₄ : (value.dropWhile (· != quote)).length ≤ value.length := (List.dropWhile_suffix _).length_le
    simp only [List.length_cons] at *
    omega
  · have d₁ := congrArg List.length _h₃
    have c₃ : (afterName.dropWhile isSpace).length ≤ afterName.length := (List.dropWhile_suffix _).length_le
    have c₄ : (value.dropWhile (!isSpace ·)).length ≤ value.length := (List.dropWhile_suffix _).length_le
    simp only [List.length_cons] at *
    omega

/-- What stands in the place of each attribute of a tag, where names may stand once. -/
def attributes (text : List Char) : List (Option Attribute) := attributesFrom false [] [] text

/-- Whether a tag holds nothing but attributes, of different names. -/
def hasAttributesOnly (text : List Char) : Bool := (attributes text).all Option.isSome

/-- The attributes in front of the first fault, where names may stand more than once. -/
def leadingAttributes (text : List Char) : List Attribute :=
  ((attributesFrom true [] [] text).takeWhile Option.isSome).filterMap id

end Xml
end StorageGate
