import HookRelay.Proofs.Url.Scheme

/-!
# Addresses with a host

An address of the web is read in two parts. Of what stands behind the scheme and the slashes, all up
to the next slash, backslash, question mark or hash names the host; whether the text is an address
at all depends on that part alone, for what follows is encoded as it comes. In it the host stands
behind the last `@` and before the colon of the port, and is never empty.

## Main definitions

* `Url.authorityText` : the part of a text that names the host
* `Url.hostAndPort` : the host and the port in it
* `Url.Readable` : such a part is that of an address

## Main statements

* `Url.readAuthority_web`, `Url.exists_http_iff` : which texts are addresses of the web
* `Url.isSome_hostText_of_parse` : addresses of the web have a host
-/

namespace HookRelay.Url

variable {scheme text : String} {cs rest : List Char} {url : Url} {host : Host} {c : Char}

/-! ## Hosts -/

/-- No text is the name of no host. -/
theorem Host.ne_empty_of_read (read : Host.read cs = .ok host) : host ≠ .domain "" := by
  unfold Host.read at read
  split at read
  · unfold readBracketed at read
    split at read
    · rw [← Except.ok.inj read]
      exact Host.noConfusion
    · cases read
  · split at read
    · cases read
    · cases read
    · next ascii nonempty _ =>
      dsimp only at read
      split at read
      · split at read
        · rw [← Except.ok.inj read]
          exact Host.noConfusion
        · cases read
      · rw [← Except.ok.inj read]
        intro same
        have letters := congrArg String.toList (Host.domain.inj same)
        rw [String.toList_ofList] at letters
        exact nonempty letters

/-! ## Authorities -/

/-- What names the host of an address: all up to the beginning of a path, a query or a fragment. -/
def authorityText (cs : List Char) : List Char := cs.takeWhile fun c => !endsAuthority .web c

/-- The host and the port in an authority; a colon stands before the port. -/
def hostAndPort (cs : List Char) : List Char × List Char :=
  splitPort false (((splitUser cs).map Prod.snd).getD cs)

/-- An authority with the user that a text names, and with a host and a port. -/
def authorityOf (cs : List Char) (host : Host) (port : Option Nat) : Authority :=
  let user := ((splitUser cs).map Prod.fst).getD []
  ⟨encoded unsafeInUser (user.takeWhile (· != ':')),
    encoded unsafeInUser ((user.dropWhile (· != ':')).drop 1), host, port⟩

/-- **What an address of the web says behind its scheme and the slashes**: its host is read, then
its port. -/
theorem readAuthority_web (web : schemeKind scheme = .web) (cs : List Char) :
    readAuthority scheme cs =
      if (hostAndPort (authorityText cs)).1 = [] then .error .emptyHost
      else
        (Host.read (hostAndPort (authorityText cs)).1).bind fun host =>
          (readPort scheme ((hostAndPort (authorityText cs)).2.drop 1)).bind fun port =>
            .ok (assemble scheme (some (authorityOf (authorityText cs) host port))
              (readPathStart .web (cs.dropWhile fun c => !endsAuthority .web c))) := by
  have ends : cs.takeWhile (fun c => !endsAuthority .web c) = authorityText cs := rfl
  have split : splitPort false (((splitUser (authorityText cs)).map Prod.snd).getD
    (authorityText cs)) = hostAndPort (authorityText cs) := rfl
  unfold readAuthority
  simp only [web, bind, Except.bind, SchemeKind.isSpecial, Bool.true_and, if_true, ends, split,
    List.isEmpty_iff, List.drop_length, List.nil_append, Bool.and_eq_true]
  split
  · next nowhere => rw [if_pos (by rw [hostAndPort, nowhere.1.2]; rfl)]
  · split
    · rfl
    · cases hosted : Host.read (hostAndPort (authorityText cs)).1 with
      | error e => rfl
      | ok host =>
        simp only [Host.ne_empty_of_read hosted, decide_false, Bool.false_eq_true, false_and,
          if_false, authorityOf]

/-- **An authority can be read**: it has a host that can be read, and its port is a number. -/
structure Readable (scheme : String) (cs : List Char) : Prop where
  named : (hostAndPort cs).1 ≠ []
  host : ∃ host, Host.read (hostAndPort cs).1 = .ok host
  port : ∃ port, readPort scheme ((hostAndPort cs).2.drop 1) = .ok port

/-- Whether an address of the web is read is decided by its authority. -/
theorem exists_readAuthority_iff (web : schemeKind scheme = .web) :
    (∃ url, readAuthority scheme cs = .ok url) ↔ Readable scheme (authorityText cs) := by
  rw [readAuthority_web web]
  constructor
  · rintro ⟨url, read⟩
    split at read
    · cases read
    · next named =>
      cases hosted : Host.read (hostAndPort (authorityText cs)).1 with
      | error e =>
        rw [hosted] at read
        cases read
      | ok host =>
        rw [hosted] at read
        cases ported : readPort scheme ((hostAndPort (authorityText cs)).2.drop 1) with
        | error e =>
          rw [ported] at read
          cases read
        | ok port => exact ⟨named, ⟨host, hosted⟩, ⟨port, ported⟩⟩
  · rintro ⟨named, ⟨host, hosted⟩, ⟨port, ported⟩⟩
    rw [if_neg named, hosted, ported]
    exact ⟨_, rfl⟩

/-- The host of an address of the web has a name. -/
theorem isSome_hostText_of_readAuthority (web : schemeKind scheme = .web)
    (read : readAuthority scheme cs = .ok url) : url.hostText?.isSome = true := by
  obtain ⟨named, ⟨host, hosted⟩, ⟨port, ported⟩⟩ := (exists_readAuthority_iff web).1 ⟨url, read⟩
  rw [readAuthority_web web, if_neg named, hosted, ported] at read
  obtain rfl := Except.ok.inj read
  simp [hostText?, assemble, authorityOf, Host.ne_empty_of_read hosted]

/-! ## Addresses -/

/-- What stands behind the slashes that follow a scheme. -/
def behindSlashes (cs : List Char) : List Char := cs.dropWhile fun c => c = '/' || c = '\\'

theorem schemeKind_of_http (http : scheme = "http" ∨ scheme = "https") :
    schemeKind scheme = .web := by
  obtain rfl | rfl := http <;> rfl

/-- An address of the web is read from what stands behind its scheme and the slashes. -/
theorem readFrom_web (begun : splitScheme cs = some (scheme, rest))
    (web : schemeKind scheme = .web) :
    readFrom none cs = readAuthority scheme (behindSlashes rest) := by
  have skipped : rest.drop (rest.takeWhile fun c => c = '/' || c = '\\').length =
      behindSlashes rest := by
    have whole : rest = _ ++ behindSlashes rest := List.takeWhile_append_dropWhile.symm
    exact (congrArg _ whole).trans List.drop_left
  simp only [readFrom, begun, web, skipped]

/-- **Which texts are addresses of the web**: they begin with its scheme, and an authority that can
be read follows. -/
theorem exists_http_iff : (∃ url, readFrom none cs = .ok url ∧ url.isHttp = true) ↔
    ∃ scheme rest, splitScheme cs = some (scheme, rest) ∧ (scheme = "http" ∨ scheme = "https") ∧
      Readable scheme (authorityText (behindSlashes rest)) := by
  constructor
  · rintro ⟨url, read, http⟩
    have own := scheme_readFrom read
    split at own
    · next scheme rest begun =>
      have http : scheme = "http" ∨ scheme = "https" := by
        simpa [isHttp, own] using http
      rw [readFrom_web begun (schemeKind_of_http http)] at read
      exact ⟨scheme, rest, begun, http,
        (exists_readAuthority_iff (schemeKind_of_http http)).1 ⟨url, read⟩⟩
    · obtain ⟨b, none, -⟩ := own
      cases none
  · rintro ⟨scheme, rest, begun, http, readable⟩
    have web := schemeKind_of_http http
    obtain ⟨url, read⟩ := (exists_readAuthority_iff web).2 readable
    refine ⟨url, (readFrom_web begun web).trans read, ?_⟩
    simpa [isHttp, scheme_readAuthority read] using http

/-- **Addresses of the web have a host.** -/
theorem isSome_hostText_of_parse (read : parse text = .ok url) (http : url.isHttp = true) :
    url.hostText?.isSome = true := by
  obtain ⟨scheme, rest, begun, http, -⟩ := exists_http_iff.1 ⟨url, read, http⟩
  have web := schemeKind_of_http http
  exact isSome_hostText_of_readAuthority web ((readFrom_web begun web).symm.trans read)

end HookRelay.Url
