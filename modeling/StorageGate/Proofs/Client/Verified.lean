import StorageGate.Proofs.Client.Own
import StorageGate.Proofs.Gate.Decided
import StorageGate.Proofs.Storage.Service
import StorageGate.Proofs.Storage.SignedHeaders
/-!
# Grants that verify

Whoever carries a grant out shows the storage service its method, the text of its URL and its headers.  From these alone the
service writes the canonical text and, with the secret, the signature (`Grant.expectedSignature?`).  It is the one in the URL,
and the headers are those that the URL names (`verifies_signedUrl`), since a grant has the metadata that was signed.  That is
so of every grant that a client with credentials makes itself, and of every grant through a gate that signs with them, whatever
its authorizer does (`grants_verify`).
-/
namespace StorageGate

/-! ## What the service makes of a grant -/

namespace Grant

/-- A parameter of the URL. -/
def param? (g : Grant) (name : String) : Option String := (Url.shownParams g.url.toList).lookup name

/-- What is sent with certain headers: these, and the host of the URL. -/
def sent (g : Grant) (headers : List (String × String)) : List (String × String) :=
  ("host", String.ofList (Url.shownHost g.url.toList)) :: headers

/-- The canonical text of the request that is made with certain headers. -/
def canonicalText (g : Grant) (headers : List (String × String)) : List Char :=
  Service.canonicalText g.action.method (Url.shownPath g.url.toList)
    ((Url.shownParams g.url.toList).filter (·.1 != "X-Amz-Signature")) (g.sent headers)

/-- The signature of that request by an account, for the time and the scope that the URL states. -/
def expectedSignature? (g : Grant) (c : Credentials) (headers : List (String × String)) : Option String := do
  let timestamp ← g.param? "X-Amz-Date"
  let credential ← g.param? "X-Amz-Credential"
  let holder := c.accessKeyId.toList ++ ['/']
  if holder.isPrefixOf credential.toList then
    let scope := credential.toList.drop holder.length
    let (day, region) ← Service.readScope? scope
    let text := Service.signedText timestamp.toList scope (g.canonicalText headers)
    return String.ofList (Service.signature c.secretAccessKey day region text)
  else none

/-- Whether a grant is good with the headers it announces: the URL names these headers and the host, and has the signature of
the request that is made with them. -/
def Verifies (g : Grant) (c : Credentials) : Prop :=
  ∃ headers signature, g.headers = .ok headers ∧
    g.param? "X-Amz-SignedHeaders" = some (String.ofList (Service.names (g.sent headers))) ∧
    g.param? "X-Amz-Signature" = some signature ∧ g.expectedSignature? c headers = some signature

end Grant

theorem Grant.expectedSignature?_of_params {g : Grant} {c : Credentials} {timestamp day : List Char} {region : String}
    (hdate : g.param? "X-Amz-Date" = some (String.ofList timestamp))
    (hcredential : g.param? "X-Amz-Credential" = some (c.accessKeyId ++ "/" ++ String.ofList (scopeText day region)))
    (hday : '/' ∉ day) (headers : List (String × String)) : g.expectedSignature? c headers
      = some (String.ofList (Service.signature c.secretAccessKey day region
          (Service.signedText timestamp (scopeText day region) (g.canonicalText headers)))) := by
  have hchars : (c.accessKeyId ++ "/" ++ String.ofList (scopeText day region)).toList
      = (c.accessKeyId.toList ++ ['/']) ++ scopeText day region := by
    rw [String.toList_append, String.toList_append]
    exact congrArg (fun text => (c.accessKeyId.toList ++ ['/']) ++ text) String.toList_ofList
  have hholder : (c.accessKeyId.toList ++ ['/']).isPrefixOf
      ((c.accessKeyId.toList ++ ['/']) ++ scopeText day region) = true :=
    List.isPrefixOf_iff_prefix.2 (List.prefix_append _ _)
  rw [expectedSignature?, hdate, hcredential]
  simp only [Option.bind_eq_bind, Option.bind_some]
  rw [hchars, if_pos hholder, List.drop_left, Service.readScope?_scopeText hday, String.toList_ofList]
  rfl

/-! ## Signed requests -/

namespace StorageSigner

variable {s : StorageSigner} {e : Exchange} {o : Operation} {u : SignedUrl}

/-- **The headers that a grant announces are those that were signed.** -/
theorem headers_of_signedUrl (h : s.signedUrl e o.toRequest = .ok u) :
    (u.grant o).headers = signedHeaders e o.toRequest := by
  have hgrant : (u.grant o).headers
      = (signedMetadata? e o.toRequest).elim (.ok []) fun _ => metadataHeaders (u.grant o).metadata := by
    obtain ⟨action, key, bucket, metadata⟩ := o
    cases action <;> rfl
  rw [hgrant, signedHeaders]
  cases hmetadata : signedMetadata? e o.toRequest with
  | some metadata => exact congrArg metadataHeaders (metadata_amend_of_signedUrl h hmetadata)
  | none => rfl

/-- The parameters that are signed have names in order, of which nothing is escaped. -/
theorem params_in_order {r : Request} {p : Presign} {c : CanonicalRequest} {text : List Char}
    (hp : s.presignFor e r = .ok p) (h : s.credentials.Shown p text c) :
    (c.params.map Prod.fst).Pairwise (· < ·) ∧ ∀ name ∈ c.params.map Prod.fst,
      name ≠ signatureParam ∧ String.ofList (CanonicalRequest.encode name) = name := by
  obtain ⟨headers, expires, -, rfl⟩ := presignFor_eq_ok hp
  rw [h.params, Credentials.names_signatureParams]
  exact names_in_order r.action.isAcl

/-- **The service writes the text that was signed**, if it is sent the headers that were signed. -/
theorem canonicalText_signedUrl (h : s.signedUrl e o.toRequest = .ok u) :
    ∃ headers r, (u.grant o).headers = .ok headers ∧ s.canonical e o.toRequest = .ok r ∧
      (u.grant o).canonicalText headers = r.text ∧ r.headers = ((u.grant o).sent headers).mergeSort headerLe := by
  obtain ⟨p, r, hp, hr, hshown⟩ := shown_of_signedUrl h
  obtain ⟨hsorted, hnames⟩ := params_in_order hp hshown
  obtain ⟨headers, expires, hheaders, rfl⟩ := presignFor_eq_ok hp
  have hsent : r.headers = ((u.grant o).sent headers).mergeSort headerLe := hshown.headers
  have hparams : (Url.shownParams u.url.toList).filter (·.1 != signatureParam) = r.params := by
    rw [hshown.signature]
    exact filter_signature_concat (fun p hp => (hnames p.1 (List.mem_map_of_mem hp)).1) _
  have hmethod : o.action.method = r.method := hshown.method.symm
  refine ⟨headers, r, (headers_of_signedUrl h).trans hheaders, hr, ?_, hsent⟩
  show Service.canonicalText o.action.method (Url.shownPath u.url.toList)
    ((Url.shownParams u.url.toList).filter (·.1 != signatureParam)) ((u.grant o).sent headers) = r.text
  rw [hmethod, ← hshown.path, hparams]
  exact Service.canonicalText_eq_text hsorted (fun name hname => (hnames name hname).2) hsent (List.cons_ne_nil _ _)

/-- That text, where it is known what is presigned and at which URL. -/
theorem canonicalText_of_presignFor {p : Presign} {base : Url} {host : String} {headers : List (String × String)}
    (h : s.signedUrl e o.toRequest = .ok u) (hp : s.presignFor e o.toRequest = .ok p)
    (hbase : s.credentials.objectUrl (p.bucket.getD s.credentials.bucket) p.key = .ok base)
    (hhost : hostHeader base = .ok host) (hheaders : (("host", host) :: p.headers).mergeSort headerLe = headers) :
    (u.grant o).headers = .ok p.headers ∧ (u.grant o).canonicalText p.headers = CanonicalRequest.text
      { method := p.method, path := base.pathText, params := s.credentials.signatureParams p headers ++ p.params, headers } := by
  obtain ⟨sent, r, hsent, hr, htext, -⟩ := canonicalText_signedUrl h
  obtain ⟨sent', expires, hsent', hsigned⟩ := presignFor_eq_ok hp
  have hown : (u.grant o).headers = .ok p.headers := by rw [headers_of_signedUrl h, hsent', hsigned]
  cases hsent.symm.trans hown
  have hnames : (Credentials.signatureNames ++ p.params.map Prod.fst).Pairwise (· < ·) := by
    rw [hsigned]
    exact (names_in_order o.action.isAcl).1
  have hcanonical : (s.presignFor e o.toRequest >>= s.credentials.canonicalFor) = .ok r := hr
  rw [hp] at hcanonical
  have hform := (Credentials.canonicalFor_of_host hbase hhost).symm.trans hcanonical
  rw [hheaders, mergeSort_paramLe (by rw [Credentials.names_signatureParams]; exact hnames)] at hform
  refine ⟨hown, ?_⟩
  rw [htext, ← Except.ok.inj hform]

/-- **The URL of a signed request has the signature that is expected of it**, with the headers that are announced. -/
theorem verifies_signedUrl (h : s.signedUrl e o.toRequest = .ok u) : (u.grant o).Verifies s.credentials := by
  obtain ⟨headers, r, hheaders, hr, htext, hsent⟩ := canonicalText_signedUrl h
  obtain ⟨p, r', hp, hr', hshown⟩ := shown_of_signedUrl h
  cases hr.symm.trans hr'
  obtain ⟨-, hnames⟩ := params_in_order hp hshown
  obtain ⟨_, expires, -, rfl⟩ := presignFor_eq_ok hp
  -- The time, the scope, the names of the headers and the signature are found among the parameters.
  have hparam (name : String) : (u.grant o).param? name = (r.params ++ [(signatureParam, String.ofList
      (signatureText s.credentials.secretAccessKey s.credentials.region e.moment.now.basicText r))]).lookup name := by
    exact congrArg (List.lookup name) hshown.signature
  have hdate : (u.grant o).param? "X-Amz-Date" = some (String.ofList e.moment.now.basicText) := by
    rw [hparam, hshown.params]
    rfl
  have hcredential : (u.grant o).param? "X-Amz-Credential" = some (s.credentials.accessKeyId ++ "/"
      ++ String.ofList (scopeText (e.moment.now.basicText.take 8) s.credentials.region)) := by
    rw [hparam, hshown.params]
    rfl
  have hsignedHeaders : (u.grant o).param? "X-Amz-SignedHeaders"
      = some (String.ofList (CanonicalRequest.namesOf r.headers)) := by
    rw [hparam, hshown.params]
    rfl
  have hsignature := (hparam signatureParam).trans
    (lookup_concat (fun p hp => (hnames p.1 (List.mem_map_of_mem hp)).1) _)
  have hday : '/' ∉ e.moment.now.basicText.take 8 := fun h =>
    Instant.slash_not_mem_basicText _ (List.mem_of_mem_take h)
  refine ⟨headers, _, hheaders, ?_, hsignature, ?_⟩
  · rw [hsignedHeaders, Service.names_eq, ← hsent]
  · rw [Grant.expectedSignature?_of_params hdate hcredential hday, htext, Service.signature_eq, Service.signedText_eq]
    rfl

end StorageSigner

/-! ## What is granted -/

/-- What a batch is answered with: as many requests, and each decided in its place if there is no error code, with what the
signer makes in the exchange with some id. -/
structure Exchange.Answers (e : Exchange) (Made : Exchange → Request → SignedUrl → Prop) (requests : List Request)
    (answer : Message) : Prop where
  length : answer.body.length = requests.length
  decided : answer.errorCode? = none → ∃ id decided, answer.body = .signing decided ∧
    List.Forall₂ (Decided (Made (e.withTransactionId id))) requests decided

theorem Runs.answers {e : Exchange} {calls : List PolicyCall} {answer : Message} (h : Runs e calls answer)
    {requests : List Request} (hbody : e.message.body = .signing requests) {Made : Exchange → Request → SignedUrl → Prop}
    (hmade : ∀ e r u, .sign e r (.ok u) ∈ calls → Made e r u) : e.Answers Made requests answer := by
  cases h with
  | @opened id others result makes =>
    have hopened : (e.withTransactionId id).message.body = .signing requests := by
      rw [Exchange.withTransactionId_body, hbody]
    obtain ⟨made, hall, rfl⟩ := makes.of_signing hopened
    cases made with
    | error code =>
      refine ⟨?_, fun hcode => ?_⟩
      · show (Message.faulted _ code).body.length = _
        rw [Message.faulted, hopened]
        exact List.length_map _
      · cases (Message.errorCode?_faulted _ code).symm.trans hcode
    | ok decided =>
      have hdecided := hall.forall₂ (fun r u hc => hmade _ r u (List.mem_cons_of_mem _ hc)) decided rfl
      exact ⟨hdecided.length_eq.symm, fun _ => ⟨id, decided, rfl, hdecided⟩⟩

/-- **Every grant of an answer is of something that the signer made** for its operation, if that is so of every request that
is signed. -/
theorem Granted.exists_made {Made : Request → SignedUrl → Prop} {operations : List Operation} {requests : List Request}
    {answer : Message} {granted : Granted} (hbody : answer.body = .signing requests)
    (hdecided : ∀ q ∈ operations.zip requests, Decided Made q.1.toRequest q.2)
    (h : ofAnswer operations answer = .ok granted) :
    ∀ g ∈ granted.grants, ∃ o ∈ operations, ∃ u, Made o.toRequest u ∧ g = u.grant o := by
  cases hcode : answer.errorCode? with
  | some code => rw [ofAnswer_of_errorCode hcode] at h; cases h
  | none =>
    have hlength : requests.length = operations.length := by
      by_contra hne
      unfold ofAnswer at h
      rw [hcode] at h
      dsimp only at h
      rw [hbody] at h
      dsimp only at h
      rw [if_pos hne] at h
      cases h
    rw [ofAnswer_of_signing hcode hbody hlength] at h
    split at h
    · cases h
    · rename_i grants hgrants
      cases h
      intro g hg
      obtain ⟨q, hq, hgrant⟩ := Traversal.exists_of_mem_mapM hgrants hg
      refine ⟨q.1, (List.of_mem_zip hq).1, ?_⟩
      have hd := hdecided q hq
      generalize q.2 = d at hd hgrant
      cases hd with
      | declined reason => cases hgrant
      | signed hmade =>
        rw [Operation.grant_of_signed] at hgrant
        cases hgrant
        exact ⟨_, hmade, rfl⟩

/-- Through a gate, whatever effects its components have: every grant is of something that the signer made for its
operation in the exchange of the batch, with some id. -/
theorem Client.always_grants {m : Type → Type} [Monad m] [LawfulMonad m] {p : Policy m} {Admitted : PolicyCall → Prop}
    (hp : p.Admits Admitted) {batch : Batch} (hb : batch.operations.length ≤ size64) (now moment : Moment)
    (caller : Caller) :
    SatisfiesM (fun result => ∀ granted, result = .ok granted → ∃ id, ∀ g ∈ granted.grants, ∃ o ∈ batch.operations, ∃ u,
        Admitted (.sign ((batch.exchange moment caller).withTransactionId id) o.toRequest (.ok u)) ∧ g = u.grant o)
      ((Client.remote (Transport.direct (.ready p) moment caller)).grants now batch) := by
  let Made (e : Exchange) (r : Request) (u : SignedUrl) : Prop := Admitted (.sign e r (.ok u))
  have hlength : (batch.operations.map Operation.toRequest).length ≤ size64 := by rwa [List.length_map]
  have hrun : SatisfiesM ((batch.exchange moment caller).Answers Made (batch.operations.map Operation.toRequest))
      (p.run (batch.exchange moment caller)) := by
    refine (Policy.always_run hp _).imp fun {answer} hout => ?_
    obtain ⟨calls, hadmitted, hruns⟩ := hout
    exact hruns.answers (batch.exchange_body moment caller) fun e r u hc => hadmitted _ hc
  have hanswer := Transport.always_direct (g := .ready p) (by rw [batch.toMessage_body]; exact hlength) hrun
    fun answer h => h.length ▸ hlength
  refine hanswer.bind ?_
  rintro _ ⟨answer, rfl, h⟩
  refine .pure fun granted hgranted => ?_
  cases hcode : answer.errorCode? with
  | some code => cases (Granted.ofAnswer_of_errorCode hcode).symm.trans hgranted
  | none =>
    obtain ⟨id, decided, hbody, hdecided⟩ := h.decided hcode
    have hzip := List.forall₂_iff_zip.1 (List.forall₂_map_left_iff.1 hdecided)
    exact ⟨id, Granted.exists_made hbody (fun q hq => hzip.2 hq) hgranted⟩

/-- By itself: every grant is of something that the client signed for its operation. -/
theorem Client.exists_signed_own {credentials : Credentials} {batch : Batch} {moment : Moment} {granted : Granted}
    (h : (Client.own credentials : Client Id).grants moment batch = .ok granted) : ∀ g ∈ granted.grants,
      ∃ o ∈ batch.operations, ∃ u, credentials.ownSigner.signedUrl (batch.ownShown moment) o.toRequest = .ok u ∧
        g = u.grant o := by
  rw [Client.grants_own, Credentials.answer_batch] at h
  cases hd : batch.operations.mapM fun o => credentials.ownSigner.settleOwn (batch.ownShown moment) o.toRequest with
  | error cause => rw [hd] at h; cases h
  | ok signed =>
    rw [hd] at h
    suffices hdecided : ∀ q ∈ batch.operations.zip signed,
        Decided (credentials.ownSigner.signedUrl (batch.ownShown moment) · = .ok ·) q.1.toRequest q.2 from
      Granted.exists_made (Message.withBody_body _ _) hdecided h
    intro q hq
    have hsettled := Traversal.eq_ok_of_mem_zip hd hq
    cases hs : credentials.ownSigner.signedUrl (batch.ownShown moment) q.1.toRequest with
    | error cause => rw [StorageSigner.settleOwn_of_error _ hs] at hsettled; cases hsettled
    | ok u =>
      rw [StorageSigner.settleOwn_of_ok _ hs] at hsettled
      generalize q.2 = d at hsettled
      cases hsettled
      exact .signed hs

/-- **Every grant verifies with the headers that it announces**: those that a client with credentials makes itself, and those
that come through a gate that signs with the credentials, whatever the other components of its policy do. -/
theorem Client.grants_verify {m : Type → Type} [Monad m] [LawfulMonad m] (s : StorageSigner) (authorizer : Authorizer m)
    (lister : BucketLister m) (transactionIds : TransactionIds m) (batch : Batch)
    (hb : batch.operations.length ≤ size64) (now moment : Moment) (caller : Caller) :
    let gate : Gate m := .ready { authorizer, signer := s.signer, lister, transactionIds }
    SatisfiesM (fun result => ∀ granted, result = .ok granted → ∀ g ∈ granted.grants, g.Verifies s.credentials)
      ((Client.remote (Transport.direct gate moment caller)).grants now batch) ∧
    ∀ granted, (Client.own s.credentials : Client Id).grants now batch = .ok granted →
      ∀ g ∈ granted.grants, g.Verifies s.credentials := by
  intro gate
  constructor
  · have hp := s.admits authorizer lister transactionIds
    refine (Client.always_grants hp hb now moment caller).imp fun {result} hresult granted hgranted g hg => ?_
    obtain ⟨id, hgrants⟩ := hresult granted hgranted
    obtain ⟨o, _, u, hu, rfl⟩ := hgrants g hg
    exact StorageSigner.verifies_signedUrl hu
  · intro granted h g hg
    obtain ⟨o, _, u, hu, rfl⟩ := Client.exists_signed_own h g hg
    exact StorageSigner.verifies_signedUrl (s := s.credentials.ownSigner) hu

/-- An upload with metadata and a look at an access list, granted by an open gate and by the client itself, and the texts
that the service writes for the two. -/
theorem Client.grants_verify_upload :
    let batch : Batch :=
      { operations := [⟨.put, "a b", none, .ofList [("Owner", " é ")]⟩, ⟨.readAcl, "c", some "d", .empty⟩] }
    let lister : BucketLister Id := { list := fun _ => .ok [] }
    let gate : Gate Id := .ready (Credentials.test.openPolicy lister)
    batch.operations.length ≤ size64 ∧ ∃ granted upload look,
      (Client.remote (Transport.direct gate default default)).grants default batch = .ok granted ∧
      (Client.own .test : Client Id).grants default batch = .ok granted ∧ granted.grants = [upload, look] ∧
      upload.Verifies .test ∧ look.Verifies .test ∧
      (∃ headers, upload.headers = .ok headers ∧ upload.canonicalText headers = ['\n'].intercalate
        ["PUT".toList, "/a%20b".toList, ['&'].intercalate (["X-Amz-Algorithm=AWS4-HMAC-SHA256",
            "X-Amz-Credential=id%2F19700101%2Fus-east-1%2Fs3%2Faws4_request", "X-Amz-Date=19700101T000000Z",
            "X-Amz-Expires=86400",
            "X-Amz-SignedHeaders=host%3Bx-amz-meta-gatekeeper-transaction-id%3Bx-amz-meta-owner"].map String.toList),
          "host:uploads.s3.test".toList, "x-amz-meta-gatekeeper-transaction-id:00000000000000000000000000".toList,
          "x-amz-meta-owner:é".toList, [], "host;x-amz-meta-gatekeeper-transaction-id;x-amz-meta-owner".toList,
          "UNSIGNED-PAYLOAD".toList]) ∧
      ∃ headers, look.headers = .ok headers ∧ look.canonicalText headers = ['\n'].intercalate
        ["GET".toList, "/c".toList, ['&'].intercalate (["X-Amz-Algorithm=AWS4-HMAC-SHA256",
            "X-Amz-Credential=id%2F19700101%2Fus-east-1%2Fs3%2Faws4_request", "X-Amz-Date=19700101T000000Z",
            "X-Amz-Expires=86400", "X-Amz-SignedHeaders=host", "acl="].map String.toList),
          "host:d.s3.test".toList, [], "host".toList, "UNSIGNED-PAYLOAD".toList] := by
  intro batch lister gate
  have hb : batch.operations.length ≤ size64 := by decide
  let s := Credentials.test.ownSigner
  let e := batch.ownShown default
  let put : Operation := ⟨.put, "a b", none, .ofList [("Owner", " é ")]⟩
  let readAcl : Operation := ⟨.readAcl, "c", some "d", .empty⟩
  have hsigned : ∀ o ∈ [put, readAcl], ∃ u, s.signedUrl e o.toRequest = .ok u := by
    rintro o (_ | ⟨_, _ | ⟨_, ho⟩⟩)
    · exact Traversal.exists_of_isSome_toOption (by decide +kernel)
    · exact Traversal.exists_of_isSome_toOption (by decide +kernel)
    · cases ho
  obtain ⟨granted, hremote, hown, hlength, hgrants⟩ := Client.own_of_signed .test lister batch default default hb hsigned
  obtain ⟨u, hu, hput⟩ := hgrants 0 put rfl
  obtain ⟨u', hu', hreadAcl⟩ := hgrants 1 readAcl rfl
  have hgranted : granted.grants = [u.grant put, u'.grant readAcl] := by
    refine List.ext_getElem? fun i => ?_
    match i with
    | 0 => exact hput
    | 1 => exact hreadAcl
    | i + 2 => exact List.getElem?_eq_none (hlength ▸ Nat.le_add_left 2 i)
  obtain ⟨hverify, -⟩ := Client.grants_verify s allowAll lister TransactionIds.ulids batch hb default default default
  have hverifies := SatisfiesM_Id_eq.1 hverify
  -- What is presigned for the two, and where.
  let upload : Presign :=
    { method := "PUT", bucket := some "uploads", key := "a b", time := ⟨0⟩, expires := 86400
      headers := [("x-amz-meta-owner", " é "), ("x-amz-meta-gatekeeper-transaction-id", "00000000000000000000000000")] }
  let look : Presign := { method := "GET", bucket := some "d", key := "c", params := [("acl", "")], time := ⟨0⟩, expires := 86400 }
  have hupload : s.presignFor e put.toRequest = .ok upload := Traversal.eq_ok_of_toOption (by decide +kernel)
  have hlook : s.presignFor e readAcl.toRequest = .ok look := Traversal.eq_ok_of_toOption (by decide +kernel)
  have hbase : s.credentials.objectUrl "uploads" "a b"
      = .ok { scheme := "https", host := some (.domain "uploads.s3.test"), path := .rooted ["a%20b"] } :=
    Traversal.eq_ok_of_toOption (by decide +kernel)
  have hbase' : s.credentials.objectUrl "d" "c"
      = .ok { scheme := "https", host := some (.domain "d.s3.test"), path := .rooted ["c"] } :=
    Traversal.eq_ok_of_toOption (by decide +kernel)
  have hsorted : (("host", "uploads.s3.test") :: upload.headers).mergeSort headerLe = [("host", "uploads.s3.test"),
      ("x-amz-meta-gatekeeper-transaction-id", "00000000000000000000000000"), ("x-amz-meta-owner", " é ")] :=
    mergeSort_headerLe_of_perm (by decide) (by decide)
  obtain ⟨hheaders, htext⟩ := StorageSigner.canonicalText_of_presignFor hu hupload hbase rfl hsorted
  obtain ⟨hheaders', htext'⟩ := StorageSigner.canonicalText_of_presignFor hu' hlook hbase' rfl (List.mergeSort_singleton _)
  refine ⟨hb, granted, _, _, hremote, hown, hgranted, hverifies _ hremote _ (List.mem_of_getElem? hput),
    hverifies _ hremote _ (List.mem_of_getElem? hreadAcl), ⟨_, hheaders, htext.trans (by decide +kernel)⟩, _, hheaders',
    htext'.trans (by decide +kernel)⟩

end StorageGate
