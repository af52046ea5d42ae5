import HookRelay.Proofs.Admission.Agreement
import HookRelay.Proofs.Hook.Answer
import HookRelay.Proofs.Url.Reread
import HookRelay.Proofs.World.InMemory

/-!
# The addresses of hooks

The address of a project or group is taken apart, and from the instance and the path the address of
its hooks is put together. The instance is written as a text and read again; the path becomes one
segment, in which slashes and percent signs are encoded. So the hooks are on the instance that was
configured, their address has five segments whatever the path is, and the path is read back from the
fourth. Each hook has one segment more.

The segments hold no slashes, so they are told apart in the written form of the address, and so is
what stands before them, the instance. Hence an address is that of one hook of one scope only.

## Main definitions

* `Hook.pathSegment` : a path as a segment
* `Hook.segments` : the segments of the address of the hooks of a scope
* `Hook.IsEndpoint` : an address of hooks of a scope

## Main statements

* `Scope.exists_web_of_ofUrl` : what a scope is split from
* `Hook.percentDecode_pathSegment` : a path is read back from its segment
* `Hook.hooksUrl_eq` : the address of the hooks of a scope
* `Hook.endpoints` : the addresses of the hooks of a source, and which of them are the same
-/

namespace HookRelay

/-! ## Scopes -/

namespace Scope

variable {kind : Kind} {raw : String} {σ : Scope}

/-- **What a scope is split from**: an address of the web, whose scheme, host and port are written
as the instance, and whose path is that of the scope. -/
theorem exists_web_of_ofUrl (split : ofUrl kind raw = .ok σ) : ∃ configured a list,
    Url.parse raw = .ok configured ∧ Url.Web configured a list ∧
      σ.baseUrl = configured.scheme ++ "://" ++ a.host.render ++ Url.portText a.port ++ "/" ∧
      σ.path = trimSlashes configured.pathText := by
  obtain ⟨⟨baseUrl, path⟩, parts, rfl⟩ := exists_splitUrl split
  unfold splitUrl at parts
  split at parts
  · cases parts
  · next configured parsed =>
    split at parts
    · cases parts
    · next http =>
      have http : configured.isHttp = true := by simpa using http
      obtain ⟨a, list, web⟩ := Url.web_of_parse parsed http
      rw [web.hostText_eq] at parts
      dsimp only at parts
      split at parts
      · cases parts
      · rw [Url.port?, web.authority] at parts
        obtain ⟨rfl, rfl⟩ := Prod.mk.inj (Except.ok.inj parts)
        exact ⟨configured, a, list, parsed, web, rfl, rfl⟩

theorem collection_injective {k k' : Kind} (same : k.collection = k'.collection) : k = k' := by
  cases k <;> cases k' <;> first | rfl | exact absurd same (by decide)

end Scope

namespace Hook

open Url (Authority Host Path Rereads Web encoded onHost portText unsafeInSegment)

variable {scheme : String} {host : Host} {port : Option Nat} {σ : Scope} {list : List String}
  {hooks url configured : Url} {segment : String}

/-! ## Segments -/

/-- A path in a segment of its own. -/
def pathSegment (path : String) : String := encoded (unsafeInSegment .web) path.toList

/-- A path in a segment holds no slash. -/
theorem unslashed_pathSegment (path : String) : '/' ∉ (pathSegment path).toList := by
  intro mem
  rw [pathSegment, encoded, String.toList_ofList] at mem
  obtain ⟨-, -, safe⟩ | sign | alphanum := Text.of_mem_percentEncode mem
  · revert safe
    decide
  · revert sign
    decide
  · revert alphanum
    decide

/-- **A path is read back from its segment.** -/
theorem percentDecode_pathSegment (path : String) :
    Text.percentDecode (pathSegment path) = path.toUTF8 := by
  have escaped : unsafeInSegment .web '%' = true := by decide
  rw [pathSegment, encoded, Text.percentDecode_percentEncode escaped, String.ofList_toList]

/-- A path is that of its segment only. -/
theorem pathSegment_injective {path path' : String} (same : pathSegment path = pathSegment path') :
    path = path' := by
  have bytes := congrArg Text.percentDecode same
  rw [percentDecode_pathSegment, percentDecode_pathSegment] at bytes
  exact String.toByteArray_inj.1 bytes

/-- The segments of the address of the hooks of a scope: `api/v4`, the collection, the path of the
scope, and `hooks`. -/
def segments (σ : Scope) : List String :=
  ["api", "v4", σ.collection, pathSegment σ.path, "hooks"]

theorem unslashed_segments (σ : Scope) (id : Int) :
    ∀ s ∈ segments σ ++ [toString id], '/' ∉ s.toList := by
  have kinds : '/' ∉ σ.collection.toList := by
    rw [Scope.collection]
    cases σ.kind <;> decide
  have digits : '/' ∉ (toString id).toList := fun slash => by
    have bare := Url.isBare_toString id _ slash
    revert bare
    decide
  simp only [segments, List.cons_append, List.nil_append, List.forall_mem_cons]
  exact ⟨by decide, by decide, kinds, unslashed_pathSegment _, by decide, digits,
    List.forall_mem_nil _⟩

/-! ## Addresses -/

/-- **The address of the hooks of a scope**, of which the instance is read as it was written. -/
theorem hooksUrl_eq (http : scheme = "http" ∨ scheme = "https")
    (opened : Url.parse σ.baseUrl = .ok (onHost scheme host port [""]))
    (plain : ∀ c ∈ σ.path.toList, Url.isDropped c = false) (notOne : σ.path ≠ ".")
    (notTwo : σ.path ≠ "..") : hooksUrl σ = .ok (onHost scheme host port (segments σ)) := by
  have bare : ∀ s ∈ ["api", "v4", "projects", "groups", "hooks"],
      s.toList.all Url.isBare = true := by decide
  have listed : σ.collection ∈ ["api", "v4", "projects", "groups", "hooks"] := by
    rw [Scope.collection]
    cases σ.kind <;> decide
  have push (list : List String) (ne : list ≠ [""]) {s : String}
      (mem : s ∈ ["api", "v4", "projects", "groups", "hooks"]) :
      (onHost scheme host port list).pushSegment s = onHost scheme host port (list ++ [s]) :=
    Url.pushSegment_behind rfl ne (List.all_eq_true.1 (bare s mem))
  have first : (onHost scheme host port [""]).pushSegment "api" =
      onHost scheme host port ["api"] :=
    Url.pushSegment_bare rfl (List.all_eq_true.1 (bare _ (by decide)))
  have web : Url.schemeKind (onHost scheme host port ["api", "v4", σ.collection]).scheme = .web :=
    Url.schemeKind_of_http http
  have path : (onHost scheme host port ["api", "v4", σ.collection]).pushSegment σ.path =
      onHost scheme host port ["api", "v4", σ.collection, pathSegment σ.path] := by
    rw [Url.pushSegment_plain rfl plain notOne notTwo, web]
    exact congrArg (onHost scheme host port) (by
      rw [onHost, Url.openSegments_of_ne (by simp), List.reverse_reverse]
      rfl)
  calc hooksUrl σ
      = .ok (((((onHost scheme host port [""]).pushSegment "api").pushSegment "v4").pushSegment
          σ.collection).pushSegment σ.path |>.pushSegment "hooks") := by
        rw [hooksUrl, opened]
        rfl
    _ = .ok (onHost scheme host port (segments σ)) := by
        rw [first, push _ (by decide) (by decide), push _ (by decide) listed, List.cons_append,
          List.nil_append, List.cons_append, List.singleton_append, path,
          push _ (by simp) (by decide)]
        rfl

theorem hookUrl_onHost (σ : Scope) (id : Int) :
    hookUrl (onHost scheme host port (segments σ)) id =
      onHost scheme host port (segments σ ++ [toString id]) :=
  Url.pushSegment_behind rfl (by simp [segments]) (Url.isBare_toString id)

/-- The written form of such an address: the instance, and the segments behind it. -/
theorem toList_render_onHost (list : List String) :
    (onHost scheme host port list).render.toList =
      (scheme ++ "://" ++ host.render ++ portText port).toList ++
        list.flatMap fun s => '/' :: s.toList := by
  have path := Url.toList_render list
  cases port <;> simp [onHost, Url.render, Authority.render, portText, path]

/-! ## Hooks of sources -/

/-- **An address of hooks of a scope**: it is on the instance that was configured, without a user, a
query or a fragment, and its path consists of the segments of the interface, the scope's own
segment, that of hooks, and those in `behind`. -/
structure IsEndpoint (configured : Url) (σ : Scope) (segment : String) (behind : List String)
    (url : Url) : Prop where
  scheme : url.scheme = configured.scheme
  host : url.hostText? = configured.hostText?
  port : url.port? = configured.port?
  user : ∃ a, url.authority = some a ∧ a.username = "" ∧ a.password = ""
  query : url.query = none
  fragment : url.fragment = none
  path : url.path = .segments (["api", "v4", σ.collection, segment, "hooks"] ++ behind)
  unslashed : '/' ∉ segment.toList
  decoded : Text.percentDecode segment = σ.path.toUTF8

theorem isEndpoint_onHost {a : Authority} (web : Web configured a list)
    (same : host.render = a.host.render) (σ : Scope) (behind : List String) :
    IsEndpoint configured σ (pathSegment σ.path) behind
      (onHost configured.scheme host a.port (segments σ ++ behind)) where
  scheme := rfl
  host := by
    have ne : host.render.toList ≠ [] := same ▸ web.written.ne_nil
    rw [Url.hostText_of_render_ne rfl ne, web.hostText_eq, same]
  port := by
    rw [Url.port?, Url.port?, web.authority]
    rfl
  user := ⟨_, rfl, rfl, rfl⟩
  query := rfl
  fragment := rfl
  path := rfl
  unslashed := unslashed_pathSegment σ.path
  decoded := percentDecode_pathSegment σ.path

/-- The instance that a source configures, and the address of its hooks on it. -/
theorem exists_hooksUrl {s : Source.Spec} (asked : s.scope = .ok σ)
    (again : Rereads s.eventSource) : ∃ configured a list host,
      Url.parse s.eventSource = .ok configured ∧ Web configured a list ∧
      host.render = a.host.render ∧
      σ.baseUrl = configured.scheme ++ "://" ++ host.render ++ portText a.port ++ "/" ∧
      hooksUrl σ = .ok (onHost configured.scheme host a.port (segments σ)) := by
  obtain ⟨url, selects⟩ := Source.Spec.selects_of_scope asked
  obtain ⟨configured, a, list, parsed, web, base, path⟩ := Scope.exists_web_of_ofUrl selects.split
  rw [← selects.origin] at parsed
  obtain ⟨host, named, same⟩ := again configured a parsed web.authority
  obtain ⟨plain, notOne, notTwo⟩ := web.plain_path
  rw [← path] at plain notOne notTwo
  have opened := Url.parse_written web.http web.written named web.ported
  rw [← base] at opened
  rw [← same] at base
  exact ⟨configured, a, list, host, parsed, web, same, base,
    hooksUrl_eq web.http opened plain notOne notTwo⟩

/-- **An address is that of one hook of one scope only.** -/
theorem eq_of_render_eq {scheme' : String} {host' : Host} {port' : Option Nat} {σ' : Scope}
    {id id' : Int}
    (base : σ.baseUrl = scheme ++ "://" ++ host.render ++ portText port ++ "/")
    (base' : σ'.baseUrl = scheme' ++ "://" ++ host'.render ++ portText port' ++ "/")
    (same : (onHost scheme host port (segments σ ++ [toString id])).render =
      (onHost scheme' host' port' (segments σ' ++ [toString id'])).render) : σ = σ' ∧ id = id' := by
  have letters := congrArg String.toList same
  rw [toList_render_onHost, toList_render_onHost] at letters
  obtain ⟨instances, listed⟩ := Url.segments_inj (by simp [segments]) (unslashed_segments σ id)
    (unslashed_segments σ' id') letters
  simp only [segments, List.cons_append, List.nil_append, List.cons.injEq, true_and,
    and_true] at listed
  obtain ⟨collections, paths, ids⟩ := listed
  have kinds : σ.kind = σ'.kind := Scope.collection_injective collections
  have bases : σ.baseUrl = σ'.baseUrl := by rw [base, base', String.toList_inj.1 instances]
  obtain ⟨kind, baseUrl, path⟩ := σ
  obtain ⟨kind', baseUrl', path'⟩ := σ'
  obtain rfl : kind = kind' := kinds
  obtain rfl : baseUrl = baseUrl' := bases
  obtain rfl : path = path' := pathSegment_injective paths
  exact ⟨rfl, Url.toString_injective ids⟩

/-- **The addresses of the hooks of a source**, if its host is read again from its written form. The
address of all hooks of its scope is on the instance that the source configures, and the path is
read back from one segment of it; each hook has its number behind that. Two hooks of sources have
the same address only if they are of the same scope and have the same number. -/
theorem endpoints {s : Source.Spec} (asked : s.scope = .ok σ) (again : Rereads s.eventSource) :
    ∃ configured hooks segment, Url.parse s.eventSource = .ok configured ∧ hooksUrl σ = .ok hooks ∧
      IsEndpoint configured σ segment [] hooks ∧
      (∀ id : Int, IsEndpoint configured σ segment [toString id] (hookUrl hooks id)) ∧
      ∀ (s' : Source.Spec) (σ' : Scope) (hooks' : Url) (id id' : Int), s'.scope = .ok σ' →
        Rereads s'.eventSource → hooksUrl σ' = .ok hooks' →
        (hookUrl hooks id).render = (hookUrl hooks' id').render → σ = σ' ∧ id = id' := by
  obtain ⟨configured, a, list, host, parsed, web, name, base, opened⟩ := exists_hooksUrl asked again
  refine ⟨configured, _, pathSegment σ.path, parsed, opened, ?_, fun id => ?_, ?_⟩
  · simpa using isEndpoint_onHost web name σ []
  · rw [hookUrl_onHost]
    exact isEndpoint_onHost web name σ [toString id]
  · intro s' σ' hooks' id id' asked' again' opened' same
    obtain ⟨configured', a', list', host', -, -, -, base', opened''⟩ :=
      exists_hooksUrl asked' again'
    obtain rfl := Except.ok.inj (opened'.symm.trans opened'')
    rw [hookUrl_onHost, hookUrl_onHost] at same
    exact eq_of_render_eq base base' same

/-- The project of a source in memory has hooks on its instance. -/
theorem repo_endpoints : InMemory.source.spec.scope = .ok InMemory.project ∧
    Rereads InMemory.source.spec.eventSource ∧
    ∃ hooks segment, hooksUrl InMemory.project = .ok hooks ∧
      hooks.path = .segments ["api", "v4", "projects", segment, "hooks"] ∧
      Text.percentDecode segment = "a/b".toUTF8 ∧
      (hookUrl hooks 7).path = .segments ["api", "v4", "projects", segment, "hooks", "7"] := by
  have asked : InMemory.source.spec.scope = .ok InMemory.project := by decide +kernel
  have again : Rereads InMemory.source.spec.eventSource := by
    intro url a parsed located
    have read : Url.parse InMemory.source.spec.eventSource =
        .ok ⟨"http", some ⟨"", "", .ipv6 [0, 0, 0, 0, 0, 0, 0, 1], none⟩,
          .segments ["a", "b"], none, none⟩ := by decide +kernel
    obtain rfl := Except.ok.inj (read.symm.trans parsed)
    obtain rfl := Option.some.inj located
    exact ⟨.ipv6 [0, 0, 0, 0, 0, 0, 0, 1], by decide +kernel, rfl⟩
  obtain ⟨_, hooks, segment, -, opened, located, numbered, -⟩ := endpoints asked again
  exact ⟨asked, again, hooks, segment, opened, located.path, located.decoded, (numbered 7).path⟩

end Hook

end HookRelay
