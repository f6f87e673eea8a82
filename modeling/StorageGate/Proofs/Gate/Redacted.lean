import StorageGate.Proofs.Document.Places
import StorageGate.Proofs.Gate.Run
import StorageGate.Proofs.Storage.Redacted
/-!
# Replies without signatures

A reply tells the storage secret in the signatures of its URLs and in nothing else.  Its document is read and written again
without the values of the signatures, and that commutes with every step of a gate: a gate whose signer leaves the signatures
out answers as one whose replies have them taken out (`redacted_handle`).  So two gates reply alike, up to the signatures, if
their signers sign alike up to them.
-/
namespace StorageGate

/-! ## What is left out -/

/-- A decision without the value of the signature. -/
def Decision.redacted : Decision → Decision
  | .pending => .pending
  | .signed url => .signed (redactedUrl url)
  | .declined reason => .declined reason

/-- A request without it. -/
def Request.redacted (r : Request) : Request := { r with decision := r.decision.redacted }

/-- A body without the values of the signatures. -/
def Body.redacted : Body → Body
  | .signing requests => .signing (requests.map Request.redacted)
  | .listing objects => .listing objects

/-- A message without them. -/
def Message.redacted (m : Message) : Message := m.withBody m.body.redacted

/-- Whether a key is that of a signed URL. -/
def isSignedUrlKey (key : String) : Bool :=
  match afterLead? "sigreq.".toList key.toList with
  | some rest => rest.dropWhile (· != '.') == ".signedUrl".toList
  | none => false

/-- A document without the values of the signatures in its signed URLs. -/
def Document.redacted (d : Document) : Document where
  pairs := d.pairs.map fun p => (p.1, if isSignedUrlKey p.1 then redactedUrl p.2 else p.2)

/-- A reply without the values of the signatures in its document. -/
def Reply.redacted (reply : Reply) : Reply := { reply with body := (Document.parse reply.body).redacted.text }

/-- A signer that leaves the values of its signatures out. -/
def UrlSigner.redacted {m : Type → Type} [Monad m] (s : UrlSigner m) : UrlSigner m where
  sign e r := Except.map SignedUrl.redacted <$> s.sign e r

/-- A policy with such a signer. -/
def Policy.redacted {m : Type → Type} [Monad m] (p : Policy m) : Policy m := { p with signer := p.signer.redacted }

/-- A gate with such a policy, if it has one. -/
def Gate.redacted {m : Type → Type} [Monad m] : Gate m → Gate m
  | ready p => ready p.redacted
  | failed cause => failed cause

/-! ## Documents -/

theorem isSignedUrlKey_of_lead {key : String} {c : Char} {rest : List Char} (h : key.toList = c :: rest) (hc : c ≠ 's') :
    isSignedUrlKey key = false := by
  have hlead : afterLead? "sigreq.".toList key.toList = none := by simp [afterLead?, h, hc.symm]
  rw [isSignedUrlKey, hlead]

/-- **The key of a place is that of a signed URL** exactly if the place is one, whatever its number. -/
theorem isSignedUrlKey_key (slot : Slot) : isSignedUrlKey slot.key = true ↔ ∃ index, slot = .request index .signedUrl := by
  cases slot with
  | listing => exact iff_of_false (by decide) (by simp)
  | application name =>
    have hkey : (Slot.application name).key.toList = 'a' :: ("pp.".toList ++ name.toList) := String.toList_append
    simp [isSignedUrlKey_of_lead hkey (by decide)]
  | property name =>
    have hkey : (Slot.property name).key.toList = 'm' :: ("sg.".toList ++ name.toList) := String.toList_append
    simp [isSignedUrlKey_of_lead hkey (by decide)]
  | object index field =>
    have hkey : (Slot.object index field).key.toList
        = 'o' :: ("bject.".toList ++ Numeral.write index ++ '.' :: field.name) := String.toList_ofList
    simp [isSignedUrlKey_of_lead hkey (by decide)]
  | request index field =>
    have hkey : (Slot.request index field).key.toList
        = "sigreq.".toList ++ (Numeral.write index ++ '.' :: field.name) := by
      unfold Slot.key
      rw [String.toList_ofList, List.append_assoc]
    rw [isSignedUrlKey, hkey, afterLead?_append]
    dsimp only
    rw [(Slot.span_write_append index field.name).2]
    unfold RequestField.name
    cases field <;> simp

namespace Message

/-- What stands in a place without the value of the signature. -/
def redactedSlot : Slot × String → Slot × String
  | (.request index .signedUrl, url) => (.request index .signedUrl, redactedUrl url)
  | s => s

theorem redactedSlot_eq (s : Slot × String) :
    redactedSlot s = (s.1, if isSignedUrlKey s.1.key then redactedUrl s.2 else s.2) := by
  unfold redactedSlot
  split
  · rw [if_pos ((isSignedUrlKey_key _).2 ⟨_, rfl⟩)]
  · rename_i h
    rw [if_neg fun hkey => ?_]
    obtain ⟨index, hslot⟩ := (isSignedUrlKey_key _).1 hkey
    exact h index s.2 (Prod.ext hslot rfl)

theorem requestSlots_redacted (index : Nat) (r : Request) :
    requestSlots index r.redacted = (requestSlots index r).map redactedSlot := by
  unfold requestSlots Request.redacted
  cases r.bucket <;> cases r.decision <;> simp [redactedSlot, Decision.redacted, Function.comp_def]

theorem objectSlots_redacted (index : Nat) (o : ListedObject) :
    (objectSlots index o).map redactedSlot = objectSlots index o := by
  unfold objectSlots
  cases o.size <;> cases o.lastModified <;> cases o.etag <;> rfl

theorem slots_redacted (m : Message) : m.redacted.slots = m.slots.map redactedSlot := by
  unfold slots redacted
  cases h : m.body with
  | signing requests =>
    simp [isListing, withBody, Body.redacted, h, List.zipIdx_map, List.flatMap_map, List.map_flatMap, requestSlots_redacted,
      redactedSlot, Function.comp_def]
  | listing objects =>
    simp [isListing, withBody, Body.redacted, h, List.map_flatMap, objectSlots_redacted, redactedSlot, Function.comp_def]

/-- **A document is redacted as its message is.** -/
theorem toDocument_redacted (m : Message) : m.redacted.toDocument = m.toDocument.redacted := by
  simp [toDocument, Document.redacted, slots_redacted, redactedSlot_eq]

end Message

/-! ## Steps of a gate -/

theorem Reply.redacted_ofMessage (m : Message) : (Reply.ofMessage m).redacted = Reply.ofMessage m.redacted := by
  rw [redacted, ofMessage, ofMessage, Message.encode, Message.encode, Document.parse_text, m.toDocument_redacted]
  rfl

theorem Reply.redacted_ofError (code : ErrorCode) : (Reply.ofError code).redacted = Reply.ofError code := by
  rw [ofError, redacted_ofMessage]
  rfl

theorem Message.redacted_faulted (m : Message) (code : ErrorCode) : (m.faulted code).redacted = m.faulted code := by
  unfold faulted redacted
  cases m.body with
  | listing objects => rfl
  | signing requests =>
    have hrequests : requests.map (Request.redacted ∘ Request.undecided) = requests.map Request.undecided := rfl
    simp [Body.redacted, withApplication, withBody, hrequests]

theorem SignedUrl.redacted_apply (u : SignedUrl) {r : Request} (h : r.decision = .pending) :
    (u.apply r).done.map Request.redacted = (u.redacted.apply r).done := by
  rw [u.apply_of_pending h, u.redacted.apply_of_pending h]
  rfl

namespace Policy

variable {m : Type → Type} [Monad m] [LawfulMonad m] (p : Policy m) (e : Exchange)

theorem redacted_decideOne (r : Request) :
    Except.map Request.redacted <$> p.decideOne e r = p.redacted.decideOne e r := by
  unfold decideOne
  rw [map_bind]
  refine bind_congr fun verdict => ?_
  cases verdict with
  | deny reason => exact map_pure _ _
  | allow =>
    show _ <$> (p.signer.sign e r.undecided >>= _) = (Except.map SignedUrl.redacted <$> p.signer.sign e r.undecided >>= _)
    rw [map_bind, bind_map_left]
    refine bind_congr fun signed => ?_
    cases signed with
    | error cause => exact map_pure _ _
    | ok u =>
      dsimp only [Except.map]
      rw [map_pure, ← u.redacted_apply rfl]
      cases (u.apply r.undecided).done <;> rfl

theorem redacted_decideAll : ∀ requests : List Request,
    Except.map (List.map Request.redacted) <$> p.decideAll e requests = p.redacted.decideAll e requests
  | [] => map_pure _ _
  | r :: rest => by
    rw [decideAll, decideAll, ← redacted_decideOne, map_bind, bind_map_left]
    refine bind_congr fun decided => ?_
    cases decided with
    | error code => exact map_pure _ _
    | ok decided =>
      dsimp only [Except.map]
      rw [← redacted_decideAll rest, map_bind, bind_map_left]
      refine bind_congr fun others => ?_
      cases others <;> exact map_pure _ _

theorem redacted_outcome : Except.map Body.redacted <$> p.outcome e = p.redacted.outcome e := by
  unfold outcome
  cases e.message.body with
  | listing objects =>
    show _ <$> (p.listing e >>= _) = (p.listing e >>= _)
    rw [map_bind]
    refine bind_congr fun listed => ?_
    cases listed <;> exact map_pure _ _
  | signing requests =>
    dsimp only
    rw [← redacted_decideAll, map_bind, bind_map_left]
    refine bind_congr fun decided => ?_
    cases decided <;> exact map_pure _ _

theorem redacted_run : Message.redacted <$> p.run e = p.redacted.run e := by
  unfold run
  rw [map_bind]
  refine bind_congr fun id => ?_
  dsimp only
  rw [← redacted_outcome, map_bind, bind_map_left]
  refine bind_congr fun outcome => ?_
  cases outcome with
  | ok body => exact map_pure _ _
  | error code => exact (map_pure _ _).trans (congrArg pure (Message.redacted_faulted _ code))

end Policy

namespace Gate

variable {m : Type → Type} [Monad m] [LawfulMonad m] (g : Gate m) (moment : Moment) (caller : Caller)

theorem redacted_process (inbound : Message) :
    Message.redacted <$> g.process moment caller inbound = g.redacted.process moment caller inbound := by
  cases g with
  | ready p => exact p.redacted_run _
  | failed cause =>
    unfold process
    dsimp only
    rw [map_bind]
    exact bind_congr fun id => (map_pure _ _).trans (congrArg pure (Message.redacted_faulted _ _))

/-- **Leaving the signatures out commutes with a gate**: in its replies, or where they are made. -/
theorem redacted_handle (document : String) :
    Reply.redacted <$> g.handle moment caller document = g.redacted.handle moment caller document := by
  unfold handle
  cases Message.decode document with
  | error cause => exact (map_pure _ _).trans (congrArg pure (Reply.redacted_ofError _))
  | ok inbound =>
    dsimp only
    rw [← redacted_process, map_bind, bind_map_left]
    exact bind_congr fun answer => (map_pure _ _).trans (congrArg pure (Reply.redacted_ofMessage answer))

end Gate

/-- **Signers of accounts that differ in their secrets are one signer** if the signatures are left out. -/
theorem StorageSigner.redacted_signer {m : Type → Type} [Monad m] [LawfulMonad m] (s : StorageSigner) (secret : String) :
    ((s.withSecret secret).signer : UrlSigner m).redacted = (s.signer : UrlSigner m).redacted := by
  unfold UrlSigner.redacted signer
  simp only [map_pure, Traversal.map_mapError, s.map_redacted_signedUrl]

end StorageGate
