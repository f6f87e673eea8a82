import StorageGate.Proofs.Storage.ObjectUrl
import StorageGate.Proofs.Url.Subdomain
/-!
# The hosts of objects' URLs

In path style the URL of an object has the endpoint's host, and with the bucket in the host that of the bucket in front of the
endpoint's, as long as the bucket holds no colon (`host_of_objectUrl`).  A host ends at a colon, so of a bucket with one only
what stands before it is read, and the endpoint's host is left out: an account of `s3.test` gets a URL for `evil.test`
(`host_of_objectUrl_colon`).  A bucket whose labels are made of characters that are left out leaves an empty label in front.
-/
namespace StorageGate

/-- Whether a host stands below another: behind labels and a dot, no label empty. -/
def Host.IsBelow (host base : Host) : Prop :=
  ∃ front : List Char, host.write = front ++ '.' :: base.write ∧ [] ∉ front.splitOn '.'

theorem Host.isBelow_append (front : List Char) (name : String) :
    (Host.domain (String.ofList (front ++ '.' :: name.toList))).IsBelow (.domain name) ↔ [] ∉ front.splitOn '.' := by
  have hwrite : (Host.domain (String.ofList (front ++ '.' :: name.toList))).write = front ++ '.' :: (Host.domain name).write :=
    String.toList_ofList
  constructor
  · rintro ⟨front', he, hlabels⟩
    rw [hwrite, List.append_cancel_right_eq] at he
    rwa [he]
  · exact fun hlabels => ⟨front, hwrite, hlabels⟩

namespace Url

/-! ## A host up to its first colon -/

theorem takeWhile_append_colon_free {front : List Char} (hcolon : ':' ∉ front) (rest : List Char) :
    (front ++ rest).takeWhile (· != ':') = front ++ rest.takeWhile (· != ':') :=
  List.takeWhile_append_of_pos fun _ hc => bne_iff_ne.2 fun he => hcolon (he ▸ hc)

theorem takeWhile_colon_free {text : List Char} (hcolon : ':' ∉ text) : text.takeWhile (· != ':') = text := by
  have h := takeWhile_append_colon_free hcolon []
  rwa [List.append_nil, List.takeWhile_nil, List.append_nil] at h

theorem takeWhile_append_of_colon : ∀ {front : List Char}, ':' ∈ front → ∀ rest : List Char,
    (front ++ rest).takeWhile (· != ':') = front.takeWhile (· != ':')
  | [], hcolon, _ => nomatch hcolon
  | c :: front, hcolon, rest => by
    rw [List.cons_append, List.takeWhile_cons, List.takeWhile_cons]
    split
    · rename_i hc
      rw [takeWhile_append_of_colon ((List.mem_cons.1 hcolon).resolve_left (Ne.symm (bne_iff_ne.1 hc))) rest]
    · rfl

variable {u v : Url}

theorem setHost_of_web (hweb : isWebScheme u.scheme = true) {text : List Char} (h : u.setHost text = .ok v) :
    ∃ host, v = { u with host := some host } ∧
      Host.parse (if text.head? = some '[' ∧ text.getLast? = some ']' then text else text.takeWhile (· != ':')) = .ok host := by
  unfold setHost at h
  extract_lets isBracketed name at h
  split at h
  · cases h
  · obtain ⟨host, hread, h⟩ := Traversal.exists_of_bind_eq_ok h
    cases h
    exact ⟨host, rfl, hread⟩

/-- No text in brackets is read as a host that ends in one that is read itself. -/
theorem not_bracketed_of_parse {origin text : List Char} {base host : Host} (hbase : Host.parse origin = .ok base)
    (h : Host.parse (text ++ '.' :: base.write) = .ok host) : (text ++ '.' :: base.write).getLast? ≠ some ']' := by
  have hwritten := Host.isWritten_write hbase
  rcases Host.parse_eq_ok hbase with ⟨_, address, _, _, rfl⟩ | ⟨name, hname, hne, ⟨address, _, _, rfl⟩ | ⟨_, rfl⟩⟩
  · exact absurd h (Host.parse_append_bracket text (fun c hc => hwritten c (List.mem_cons_of_mem _ hc)) host)
  · exact absurd h (Host.parse_append_ipv4 text address host)
  · rw [Host.write, String.toList_ofList]
    exact Host.getLast?_append_ne text hne fun hmem => absurd ((Host.named?_eq_some hname).2 _ hmem) (by decide)

/-- What a text and a dot read as in front of a host up to its first colon: only a domain can stand there, and the domain that
the text names goes in front of it. -/
theorem exists_front_of_parse {origin text : List Char} {base host : Host} (hbase : Host.parse origin = .ok base)
    (h : Host.parse (text ++ ('.' :: base.write).takeWhile (· != ':')) = .ok host) :
    ∃ front name, Host.named? text = some front ∧ base = .domain name ∧
      host = .domain (String.ofList (front ++ '.' :: name.toList)) := by
  have hwritten := Host.isWritten_write hbase
  rcases Host.parse_eq_ok hbase with ⟨_, address, _, _, rfl⟩ | ⟨name, hname, _, ⟨address, _, _, rfl⟩ | ⟨_, rfl⟩⟩
  · have hpart : Host.IsWritten ((Host.writeIpv6 address ++ [']']).takeWhile (· != ':')) := fun c hc =>
      hwritten c (List.mem_cons_of_mem _ ((List.takeWhile_sublist _).mem hc))
    exact absurd h (Host.parse_append_bracket text hpart host)
  · have hfree : ':' ∉ '.' :: Host.write (.ipv4 address) :=
      List.not_mem_cons_of_ne_of_not_mem (by decide) (Host.not_mem_writeIpv4 (by decide) (by decide) address)
    rw [takeWhile_colon_free hfree] at h
    exact absurd h (Host.parse_append_ipv4 text address host)
  · have hfree : ':' ∉ '.' :: Host.write (.domain (String.ofList name)) := by
      rw [Host.write, String.toList_ofList]
      exact List.not_mem_cons_of_ne_of_not_mem (by decide) fun hmem =>
        absurd ((Host.named?_eq_some hname).2 _ hmem) (by decide)
    rw [takeWhile_colon_free hfree] at h
    obtain ⟨front, hfront, hhost⟩ := Host.parse_append_domain hbase h
    exact ⟨front, _, hfront, rfl, hhost⟩

/-- **What a host becomes with a text in front.**  Up to a colon, the text is the host.  Without one, the host was a domain,
and the one that the text names goes in front of it. -/
theorem setHost_append (hweb : isWebScheme u.scheme = true) {origin text : List Char} {base : Host}
    (hbase : Host.parse origin = .ok base) (h : u.setHost (text ++ '.' :: base.write) = .ok v) :
    ∃ host, v = { u with host := some host } ∧
      if ':' ∈ text then Host.parse (text.takeWhile (· != ':')) = .ok host
      else ∃ front name, Host.named? text = some front ∧ base = .domain name ∧
        host = .domain (String.ofList (front ++ '.' :: name.toList)) := by
  obtain ⟨host, hv, hread⟩ := setHost_of_web hweb h
  refine ⟨host, hv, ?_⟩
  split at hread
  · rename_i hbracketed
    exact absurd hbracketed.2 (not_bracketed_of_parse hbase hread)
  · split
    · rename_i hcolon
      rwa [takeWhile_append_of_colon hcolon] at hread
    · rename_i hcolon
      rw [takeWhile_append_colon_free hcolon] at hread
      exact exists_front_of_parse hbase hread

end Url

namespace Credentials

variable {c : Credentials} {bucket key : String} {url : Url}

/-- An object's URL in path style has the endpoint's host, and any other the one that is set to the bucket's name in front of
it; either has the endpoint's port. -/
theorem place_of_objectUrl (h : c.objectUrl bucket key = .ok url) : url.port = c.endpoint.port ∧
    if c.pathStyle then url.host = c.endpoint.host
    else ∃ base v, c.endpoint.host = some base ∧ base ≠ .empty ∧
      c.endpoint.setHost (bucket.toList ++ '.' :: base.write) = .ok v ∧ url.host = v.host := by
  obtain ⟨placed, rfl, hplaced⟩ := objectUrl_eq_ok h
  rw [(place_of_setPath placed _ _).1, (place_of_setPath placed _ _).2]
  split at hplaced
  · rename_i hstyle
    rw [if_pos hstyle, hplaced]
    exact ⟨rfl, rfl⟩
  · rename_i hstyle
    obtain ⟨base, hbase, hempty, hset⟩ := hplaced
    obtain ⟨host, _, rfl⟩ := Url.setHost_eq_ok hset
    rw [if_neg hstyle]
    exact ⟨rfl, base, _, hbase, hempty, hset, rfl⟩

theorem head?_pathText_of_objectUrl (h : c.objectUrl bucket key = .ok url) (hhost : url.host.isSome) :
    url.pathText.head? = some '/' := by
  rw [Url.pathText, (path_of_objectUrl h hhost).2, UrlPath.write]
  cases hsegments : c.objectSegments bucket key with
  | nil => exact absurd hsegments (Path.collapsed_ne_nil _ _)
  | cons first rest => rfl

/-- **Where an object's URL leads**, at an endpoint of a web scheme.  Its port is the endpoint's and its path begins with a
slash.  In path style the host is the endpoint's, too.  Otherwise a bucket with a colon names the host itself, up to the
colon, and any other the domain in front of the endpoint's. -/
theorem host_of_objectUrl (hweb : Url.isWebScheme c.endpoint.scheme = true) (h : c.objectUrl bucket key = .ok url) :
    ∃ host base, url.host = some host ∧ c.endpoint.host = some base ∧ url.port = c.endpoint.port ∧
      url.pathText.head? = some '/' ∧
      if c.pathStyle then host = base
      else if ':' ∈ bucket.toList then Host.parse (bucket.toList.takeWhile (· != ':')) = .ok host
      else ∃ front name, Host.named? bucket.toList = some front ∧ base = .domain name ∧
        host = .domain (String.ofList (front ++ '.' :: name.toList)) ∧ (host.IsBelow base ↔ [] ∉ front.splitOn '.') := by
  obtain ⟨hport, hplace⟩ := place_of_objectUrl h
  by_cases hstyle : c.pathStyle
  · rw [if_pos hstyle] at hplace
    obtain ⟨base, hbase⟩ := Url.exists_host_of_parse c.endpoint_eq hweb
    rw [hbase] at hplace
    exact ⟨base, base, hplace, hbase, hport, head?_pathText_of_objectUrl h (by rw [hplace]; rfl), by rw [if_pos hstyle]⟩
  · rw [if_neg hstyle] at hplace
    obtain ⟨base, v, hbase, hempty, hset, hhost⟩ := hplace
    obtain ⟨text, hread⟩ := (Url.isReadIn_of_parse c.endpoint_eq base hbase).resolve_left hempty
    rw [if_pos hweb] at hread
    obtain ⟨host, rfl, hnamed⟩ := Url.setHost_append hweb hread hset
    refine ⟨host, base, hhost, hbase, hport, head?_pathText_of_objectUrl h (by rw [hhost]; rfl), ?_⟩
    rw [if_neg hstyle]
    split
    · rename_i hcolon
      rwa [if_pos hcolon] at hnamed
    · rename_i hcolon
      rw [if_neg hcolon] at hnamed
      obtain ⟨front, name, hfront, rfl, rfl⟩ := hnamed
      exact ⟨front, name, hfront, rfl, rfl, Host.isBelow_append front name⟩

/-- A bucket with a colon makes a URL for a host of its own. -/
theorem host_of_objectUrl_colon : ∃ url, Credentials.test.objectUrl "evil.test:" "a.txt" = .ok url ∧
    url.host = some (.domain "evil.test") ∧ Credentials.test.endpoint.host = some (.domain "s3.test") ∧
    ¬(Host.domain "evil.test").IsBelow (.domain "s3.test") := by
  obtain ⟨url, hurl⟩ : ∃ url, Credentials.test.objectUrl "evil.test:" "a.txt" = .ok url :=
    Traversal.exists_of_isSome_toOption (by decide +kernel)
  obtain ⟨host, base, hhost, hbase, -, -, hread⟩ := host_of_objectUrl (by decide) hurl
  rw [if_neg (by decide), if_pos (by decide)] at hread
  have hevil : Host.parse ("evil.test:".toList.takeWhile (· != ':')) = .ok (.domain "evil.test") :=
    Traversal.eq_ok_of_toOption (by decide +kernel)
  refine ⟨url, hurl, ?_, rfl, ?_⟩
  · rw [hhost, Except.ok.inj (hread.symm.trans hevil)]
  · rintro ⟨front, he, -⟩
    have hsuffix : '.' :: "s3.test".toList <:+ "evil.test".toList := ⟨front, he.symm⟩
    exact absurd hsuffix (by decide)

end Credentials
end StorageGate
