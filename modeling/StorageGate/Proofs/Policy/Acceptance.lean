import StorageGate.Policy.Lister
import StorageGate.Proofs.Storage.AnyRoot
import StorageGate.Proofs.Text.Utf8
/-!
# Answers that are pages

Whether an answer is a page is up to its body alone: the status is asked only for the error of what is no page.  Of the body two
things are asked, and of different parts of it: a listing is mentioned somewhere in the text, be it in a comment, and what the
root holds is a page, whatever the root is called (`readPage_eq_ok_iff`).  So a page is read under every status from a root of
every name, and a failure that speaks of something else can pass for an empty listing.
-/
namespace StorageGate

/-- Whether an answer is a listing: it was carried out, and its root has that name. -/
def Http.Response.IsListing (answer : Http.Response) : Prop :=
  isSuccess answer.status = true ∧ ∃ tag rest,
    Xml.root? (Utf8.decodeLossy answer.body) = some (.opening tag :: rest) ∧ tag.isNamed "ListBucketResult" = true

namespace Page

/-- A comment that mentions a listing. -/
def mention : List Char := Xml.comment " <ListBucketResult ".toList

/-- A page in a root of any name, behind a comment that mentions a listing. -/
def writeBehindMention (root : List Char) (p : Page) : List Char := mention ++ p.writeAs root

section Mention

variable {root : List Char} (hroot : Xml.IsName root) (p : Page)

theorem mentionsListing_writeBehindMention (root : List Char) (p : Page) : mentionsListing (p.writeBehindMention root) = true :=
  occursIn_append (by decide) (" -->".toList ++ p.writeAs root) "<!-- ".toList

include hroot

theorem parse_writeBehindMention : parse (p.writeBehindMention root) = .ok p.trimmed :=
  parse_writeAs (Xml.tokens_comment (by decide)) (by decide) hroot p (mentionsListing_writeBehindMention root p)

theorem root?_writeBehindMention :
    Xml.root? (p.writeBehindMention root) = some (Xml.elementTokens root p.tokens) :=
  Xml.root?_element (Xml.tokens_comment (by decide)) (by decide) hroot p.isContent

end Mention

end Page

namespace StorageLister

/-- An answer with a page in a root of any name as its body. -/
def answerBehindMention (status : Nat) (root : List Char) (page : Page) : Http.Response :=
  { status, body := Utf8.encode (page.writeBehindMention root) }

theorem readPage_eq_ok_iff_parse {answer : Http.Response} {page : Page} :
    readPage answer = .ok page ↔ Page.parse (Utf8.decodeLossy answer.body) = .ok page := by
  rw [readPage]
  cases Page.parse (Utf8.decodeLossy answer.body) with
  | ok read => rfl
  | error cause => simp

theorem isListing_answerBehindMention {status : Nat} {root : List Char} (hroot : Xml.IsName root) (page : Page) :
    (answerBehindMention status root page).IsListing ↔
      Http.isSuccess status = true ∧ Xml.Tag.isNamed ⟨root, []⟩ "ListBucketResult" = true := by
  rw [Http.Response.IsListing, answerBehindMention, Utf8.decodeLossy_encode, page.root?_writeBehindMention hroot]
  refine and_congr_right fun _ => ⟨?_, fun hnamed => ⟨_, _, rfl, hnamed⟩⟩
  rintro ⟨tag, rest, htokens, hnamed⟩
  cases htokens
  exact hnamed

/-- **The answers that are pages**, under any status: those in whose body a listing is mentioned and whose root holds a page.
So any page is read from a root of any name if a listing is mentioned beside it, while the answer is a listing only if it was
carried out and the root has that name. -/
theorem readPage_eq_ok_iff (answer : Http.Response) (page : Page) :
    (readPage answer = .ok page ↔ Page.mentionsListing (Utf8.decodeLossy answer.body) = true ∧
      ∃ root attributes content,
        Xml.root? (Utf8.decodeLossy answer.body) = some (.opening ⟨root, attributes⟩ :: (content ++ [.closing root])) ∧
          Page.ofContent? attributes content = some page) ∧
      ∀ root, Xml.IsName root → readPage (answerBehindMention answer.status root page) = .ok page.trimmed ∧
        ((answerBehindMention answer.status root page).IsListing ↔
          Http.isSuccess answer.status = true ∧ Xml.Tag.isNamed ⟨root, []⟩ "ListBucketResult" = true) := by
  refine ⟨readPage_eq_ok_iff_parse.trans Page.parse_eq_ok_iff, fun root hroot =>
    ⟨?_, isListing_answerBehindMention hroot page⟩⟩
  rw [readPage_eq_ok_iff_parse, answerBehindMention, Utf8.decodeLossy_encode]
  exact page.parse_writeBehindMention hroot

/-- An empty page can be read from a failure that is about something else. -/
theorem readPage_eq_ok_of_failure : Xml.IsName "Wrong".toList ∧
    readPage (answerBehindMention 500 "Wrong".toList {}) = .ok {} ∧
      ¬(answerBehindMention 500 "Wrong".toList {}).IsListing := by
  have hname : Xml.IsName "Wrong".toList := by decide
  obtain ⟨hpage, hlisting⟩ := (readPage_eq_ok_iff { status := 500 } {}).2 "Wrong".toList hname
  exact ⟨hname, hpage, fun h => absurd (hlisting.1 h).1 (by decide)⟩

end StorageLister
end StorageGate
