import StorageGate.Proofs.Storage.Presigned
/-!
# The parameters of a presigned URL

The query of a presigned URL is cut at each `&` and each piece at its first `=`, and percent-encoding is undone.  What is read
are the parameters that are signed, and behind them the signature (`params_of_presign`): those that describe the signature and
those of the request, each as often as it was given.  Nothing encoded holds a delimiter, so no name or value of a request adds
a parameter, changes one or hides one.
-/
namespace StorageGate

/-- A text whose percent-encoding is undone, if its bytes are a text. -/
def percentDecoded? (text : List Char) : Option String := (Utf8.decode? (Percent.decode text)).map String.ofList

/-- The parameter of a piece of a query, cut at its first `=`. -/
def readParam? (piece : List Char) : Option (String × String) := do
  let name ← percentDecoded? (piece.takeWhile (· != '='))
  let value ← percentDecoded? ((piece.dropWhile (· != '=')).drop 1)
  return (name, value)

/-- The parameters of a query, cut at each `&`. -/
def readParams? (query : List Char) : Option (List (String × String)) := (query.splitOn '&').mapM readParam?

namespace CanonicalRequest

theorem percentDecoded?_encode (text : String) : percentDecoded? (encode text) = some text := by
  have hdecode : Percent.decode (encode text) = Utf8.encode text.toList := Percent.decode_encode (by decide) text.toList
  simp [percentDecoded?, hdecode, Utf8.decode?_encode]

/-- **A parameter is read from its piece**, whatever its name and its value hold. -/
theorem readParam?_piece (p : String × String) : readParam? (encode p.1 ++ '=' :: encode p.2) = some p := by
  have hname : ∀ c ∈ encode p.1, (c != '=') = true := fun c hc => bne_iff_ne.2 (ne_delimiter_of_mem_encode _ c hc).2
  have htake : (encode p.1 ++ '=' :: encode p.2).takeWhile (· != '=') = encode p.1 := by
    rw [List.takeWhile_append_of_pos hname]
    simp
  have hdrop : ((encode p.1 ++ '=' :: encode p.2).dropWhile (· != '=')).drop 1 = encode p.2 := by
    rw [List.dropWhile_append_of_pos hname]
    simp
  simp [readParam?, htake, hdrop, percentDecoded?_encode]

/-- **The parameters are read from their query**, if there are any. -/
theorem readParams?_queryOf {params : List (String × String)} (h : params ≠ []) :
    readParams? (queryOf params) = some params := by
  have hpieces : ∀ piece ∈ params.map fun p => encode p.1 ++ '=' :: encode p.2, '&' ∉ piece := by
    simp only [List.mem_map, forall_exists_index, and_imp, forall_apply_eq_imp_iff₂, List.mem_append, List.mem_cons, not_or]
    intro p _
    have hfree (text : String) : '&' ∉ encode text := fun hmem => (ne_delimiter_of_mem_encode _ _ hmem).1 rfl
    exact ⟨hfree _, by decide, hfree _⟩
  rw [readParams?, queryOf, List.splitOn_intercalate '&' hpieces (by simpa using h), List.mapM_map]
  have hread : readParam? ∘ (fun p : String × String => encode p.1 ++ '=' :: encode p.2) = some :=
    funext readParam?_piece
  rw [hread]
  exact (List.mapM_pure (m := Option)).trans (by simp)

end CanonicalRequest

namespace Credentials

/-- **No parameter is injected.**  Of the query of a presigned URL are read, in the order in which they are signed, the five
parameters that describe the signature and every parameter of the request as often as it was given, and last the signature. -/
theorem params_of_presign {c : Credentials} {p : Presign} {url : Url} (h : c.presign p = .ok url) :
    ∃ r, c.canonicalFor p = .ok r ∧
      readParams? (Url.shownQuery url.write) = some (r.params ++
        [("X-Amz-Signature", String.ofList (signatureText c.secretAccessKey c.region p.time.basicText r))]) ∧
      r.params.Perm
        ([("X-Amz-Algorithm", "AWS4-HMAC-SHA256"),
          ("X-Amz-Credential", c.accessKeyId ++ "/" ++ String.ofList (scopeText (p.time.basicText.take 8) c.region)),
          ("X-Amz-Date", String.ofList p.time.basicText),
          ("X-Amz-Expires", String.ofList (Numeral.write p.expires)),
          ("X-Amz-SignedHeaders", String.ofList (CanonicalRequest.namesOf r.headers))] ++ p.params) := by
  obtain ⟨base, header, r, hbase, hheader, hr, rfl⟩ := presign_eq_ok h
  obtain ⟨host, hhost, -, hplain, hmarks⟩ := plain_of_hostHeader hbase hheader
  have hperm : r.params.Perm (c.signatureParams p r.headers ++ p.params) := by
    rw [hr]
    exact List.mergeSort_perm _ _
  have hnil : r.params ≠ [] := fun he => by
    have hlength := hperm.length_eq
    simp [he, signatureParams] at hlength
  refine ⟨r, by rw [hr, canonicalFor_of_host hbase hheader], ?_, hperm⟩
  rw [shownQuery_signed hplain hhost hmarks hnil]
  exact CanonicalRequest.readParams?_queryOf (by simp)

/-- A listing whose lead and token are made to look like more parameters. -/
theorem params_of_presign_hostile :
    let p := (Presign.list default (some "a&X-Amz-Expires=9#%26é") (some "=&max-keys=0") (some 7)).withParam "X-Amz-Expires" "1"
    ∃ (url : Url) (r : CanonicalRequest), Credentials.test.presign p = .ok url ∧ (∃ signature, readParams? (Url.shownQuery url.write)
      = some (r.params ++ [("X-Amz-Signature", signature)])) ∧
      r.params.Perm
        [("X-Amz-Algorithm", "AWS4-HMAC-SHA256"),
         ("X-Amz-Credential", "id/19700101/us-east-1/s3/aws4_request"),
         ("X-Amz-Date", "19700101T000000Z"),
         ("X-Amz-Expires", "3600"),
         ("X-Amz-SignedHeaders", "host"),
         ("list-type", "2"), ("prefix", "a&X-Amz-Expires=9#%26é"), ("continuation-token", "=&max-keys=0"),
         ("max-keys", "7"), ("X-Amz-Expires", "1")] := by
  intro p
  obtain ⟨url, hurl⟩ : ∃ url, Credentials.test.presign p = .ok url := Traversal.exists_of_isSome_toOption (by decide +kernel)
  obtain ⟨r, hr, hread, hperm⟩ := params_of_presign hurl
  have hnames : (Credentials.test.canonicalFor p).toOption.map (fun r => CanonicalRequest.namesOf r.headers)
      = some "host".toList := by decide +kernel
  have hhost : CanonicalRequest.namesOf r.headers = "host".toList := by
    rw [hr] at hnames
    exact Option.some.inj hnames
  refine ⟨url, r, hurl, ⟨_, hread⟩, hperm.trans (.of_eq ?_)⟩
  rw [hhost]
  decide +kernel

end Credentials
end StorageGate
