import HookRelay.Proofs.Delivery.Checked
import HookRelay.Proofs.Event.Title

/-!
# Which headers are forwarded

A delivery is forwarded if its header names the kind of some category. That is so for the header of
every category, in any case of the letters of its words. There is one header more: the kinds share
their names with the joined words of headers, and a kind that is named by no words of its own but by
an alias is a header's words as well. The jobs of a pipeline are announced as `Job`, which is an
alias of `build`, so that `Build` is forwarded with them, although no category has that header. All
other headers are refused as unknown.

## Main definitions

* `Event.SpelledAs` : a header with some words, in any case of their letters
* `Event.Category.token` : the words of a category, joined

## Main statements

* `Event.isKnownKind_resolveAlias_iff` : which joined words name a known kind
* `Event.exists_title_iff` : which headers have the same joined words
* `Event.exists_known_iff` : which headers name a known kind
* `Delivery.Translator.forwarded_iff` : which headers are forwarded
* `Delivery.Translator.build_forwarded` : one that no category has
-/

namespace HookRelay

namespace Event

/-- **A header has some words**, in any case of their letters, and `Hook` behind them. -/
def SpelledAs (header words : String) : Prop :=
  ∃ text, text.toLower = words.toLower ∧ header = text ++ " Hook"

/-- The words of a category, joined: the token that its `header` gives before `aliases` are
resolved. -/
def Category.token (c : Category) : String := underscored c.words.toLower

/-! ## Joined words -/

variable {header : String}

section Joined

variable {text kind : String} {u : Title}

/-- What stands before `Hook` in a header that names a kind is the text of its words. -/
theorem exists_title (named : kindOfHeader? (text ++ " Hook") = some kind) :
    ∃ u : Title, u.text = text := by
  obtain ⟨u, same, -⟩ := kindOfHeader?_eq_some_iff.1 named
  rw [u.header_eq] at same
  exact ⟨u, (String.append_left_inj _).1 same.symm⟩

/-- **Which headers have the same joined words as a title**: those with its words, in any case of
their letters. -/
theorem exists_title_iff : (∃ t : Title, header = t.header ∧ t.joined = u.joined) ↔
    SpelledAs header u.text := by
  constructor
  · rintro ⟨t, rfl, same⟩
    exact ⟨t.text, Title.joined_eq_iff.1 same, t.header_eq⟩
  · rintro ⟨text, same, rfl⟩
    obtain ⟨t, rfl⟩ := Title.exists_of_toLower same
    exact ⟨t, t.header_eq.symm, Title.joined_eq_iff.2 same⟩

end Joined

theorem tokens : Category.all.map Category.token = ["push", "tag_push", "issue",
    "confidential_issue", "note", "confidential_note", "merge_request", "job", "pipeline",
    "wiki_page", "deployment", "release"] := by decide +kernel

theorem kinds_all : Category.all.map Category.kind = ["push", "tag_push", "issue", "issue", "note",
    "note", "merge_request", "build", "pipeline", "wiki_page", "deployment", "release"] := by
  decide

/-- **Which joined words name a known kind**: those of the categories, and `build`, which is what
`job` is an alias of. -/
theorem isKnownKind_resolveAlias_iff {joined : String} :
    isKnownKind (resolveAlias joined) = true ↔
      joined = "build" ∨ ∃ c : Category, joined = c.token := by
  have known (kind : String) :
      isKnownKind kind = true ↔ kind ∈ Category.all.map Category.kind := by
    simp [isKnownKind]
  have named : (∃ c : Category, joined = c.token) ↔ joined ∈ Category.all.map Category.token := by
    simp [Category.mem_all, eq_comm]
  rw [known, named, tokens, kinds_all, resolveAlias_eq]
  grind

/-- The words of the one header that names a known kind and is that of no category. -/
def strayWords : String := "Build"

/-- **Which headers name a known kind**: those of the categories, in any case of the letters of
their words, and one that no category has. -/
theorem exists_known_iff :
    (∃ kind, kindOfHeader? header = some kind ∧ isKnownKind kind = true) ↔
      SpelledAs header strayWords ∨ ∃ c : Category, SpelledAs header c.words := by
  have named : kindOfHeader? (strayWords ++ " Hook") = some "build" := by decide +kernel
  obtain ⟨stray, strayText⟩ := exists_title named
  have strayJoined : stray.joined = "build" := by
    rw [stray.joined_eq, strayText]
    decide +kernel
  have titled (c : Category) : ∃ u : Title, u.text = c.words ∧ u.joined = c.token := by
    obtain ⟨u, text⟩ := exists_title c.kindOfHeader?_header
    exact ⟨u, text, by rw [u.joined_eq, text, Category.token]⟩
  have known : (∃ kind, kindOfHeader? header = some kind ∧ isKnownKind kind = true) ↔
      ∃ t : Title, header = t.header ∧
        (t.joined = "build" ∨ ∃ c : Category, t.joined = c.token) := by
    simp only [kindOfHeader?_eq_some_iff, ← isKnownKind_resolveAlias_iff]
    constructor
    · rintro ⟨kind, ⟨t, rfl, rfl⟩, known⟩
      exact ⟨t, rfl, known⟩
    · rintro ⟨t, rfl, known⟩
      exact ⟨_, ⟨t, rfl, rfl⟩, known⟩
  rw [known, ← strayText, ← exists_title_iff, strayJoined]
  simp only [and_or_left, exists_or]
  refine or_congr_right ⟨?_, ?_⟩
  · rintro ⟨t, rfl, c, token⟩
    obtain ⟨u, text, joined⟩ := titled c
    exact ⟨c, text ▸ exists_title_iff.1 ⟨t, rfl, token.trans joined.symm⟩⟩
  · rintro ⟨c, spelled⟩
    obtain ⟨u, text, joined⟩ := titled c
    rw [← text] at spelled
    obtain ⟨t, rfl, same⟩ := exists_title_iff.2 spelled
    exact ⟨t, rfl, c, same.trans joined⟩

end Event

/-! ## Deliveries -/

namespace Delivery

open HookRelay.Event (Category SpelledAs Title strayWords)

variable {t : Translator} {headers : Http.Headers} {header : String} {body : ByteArray}

/-- A header that names a kind is visible text. -/
theorem shows_title {title : Title} (held : headers.get? eventHeader = some title.header.toUTF8) :
    Shows headers title.header where
  held := held
  visible := by
    rw [Text.forall_bytes_iff]
    intro c mem b byte
    have narrow : 32 ≤ c.toNat ∧ c.toNat < 127 := by
      obtain rfl | alphanum := title.of_mem_header mem
      · decide
      · exact Url.forall_ascii (P := fun c => c.isAlphanum = true → 32 ≤ c.toNat ∧ c.toNat < 127)
          (by decide +kernel) (Url.toNat_of_isAlphanum alphanum).2 alphanum
    rw [Text.encode_narrow (by omega), List.mem_singleton] at byte
    rw [byte, Http.isVisibleByte_iff, UInt8.toNat_ofNat', Nat.mod_eq_of_lt (by omega)]
    exact .inl narrow

namespace Translator

/-- **Which headers are forwarded.** Of a delivery with the right secret and a JSON object, the
header decides. It is forwarded if it is that of a category, in any case of the letters of its
words; and there is one header more, which no category has. Every other header that has the form of
a header is refused as unknown. -/
theorem forwarded_iff {fields : List (String × Json)}
    (held : headers.get? eventHeader = some header.toUTF8)
    (authentic : t.secret = "" ∨ headers.get? tokenHeader = some t.secret.toUTF8)
    (parsed : Json.parse body = .ok (.object fields)) :
    ((∃ event, t.translate headers body = .ok event) ↔
      SpelledAs header strayWords ∨ ∃ c : Category, SpelledAs header c.words) ∧
    ((∃ title : Title, header = title.header) →
      ¬ (SpelledAs header strayWords ∨ ∃ c : Category, SpelledAs header c.words) →
      t.translate headers body = .error (.unknownType header)) := by
  have shows {kind : String} (named : HookRelay.Event.kindOfHeader? header = some kind) :
      Shows headers header := by
    obtain ⟨title, rfl, -⟩ := HookRelay.Event.kindOfHeader?_eq_some_iff.1 named
    exact shows_title held
  rw [← HookRelay.Event.exists_known_iff]
  constructor
  · constructor
    · rintro ⟨event, accepted⟩
      obtain ⟨-, -, header', kind, reads, -⟩ := translate_ok_iff.1 accepted
      obtain rfl := (shows_iff.2 reads.held).eq_of_held held
      exact ⟨kind, reads.named, reads.known⟩
    · rintro ⟨kind, named, known⟩
      exact ⟨_, translate_of_passes (passes_of_object authentic (shows named) named known parsed)
        (shows named) named⟩
  · rintro ⟨title, rfl⟩ unknown
    have shown := shows_title held
    have named := HookRelay.Event.kindOfHeader?_title title
    have before : ∀ c : Check, c.place < Check.kind.place → t.Passes headers body c
      | .token, _ => authentic
      | .header, _ => passes_header_of_named shown named
      | .form, _ => ⟨_, _, shown, named⟩
    have failing : ¬ t.Passes headers body .kind := by
      rintro ⟨header, kind, shown', named', known⟩
      obtain rfl := shown'.text_eq shown
      exact unknown ⟨kind, named', known⟩
    obtain ⟨why, refusal, refused⟩ := translate_of_first before failing
    rw [refused, refusal.unique (.kind shown)]

/-- A delivery with a header and an object without fields. -/
def announced (header : String) : Except Rejection Event :=
  (⟨"", "http://[::1]/a/b"⟩ : Translator).translate [(eventHeader, header.toUTF8)] emptyObject

theorem parse_emptyObject : Json.parse emptyObject = .ok (.object []) := by decide +kernel

/-- A header of a category in another case is forwarded. -/
theorem tagPush_forwarded : SpelledAs "tAG PUSH Hook" Category.tagPush.words ∧
    ∃ event, announced "tAG PUSH Hook" = .ok event := by
  have lower : "tAG PUSH".toLower = "tag push" := by decide +kernel
  have spelled : SpelledAs "tAG PUSH Hook" Category.tagPush.words :=
    ⟨"tAG PUSH", lower.trans (by decide +kernel), by decide⟩
  have held : Http.Headers.get? eventHeader [(eventHeader, "tAG PUSH Hook".toUTF8)] =
      some "tAG PUSH Hook".toUTF8 := Http.Headers.get?_cons_self
  exact ⟨spelled, (forwarded_iff held (.inl rfl) parse_emptyObject).1.2 (.inr ⟨.tagPush, spelled⟩)⟩

/-- **A header that no category has is forwarded**: the jobs of a pipeline are of the kind `build`,
which is taken for the words of a header as well. -/
theorem build_forwarded : (∃ event, announced "Build Hook" = .ok event) ∧
    ¬ ∃ c : Category, SpelledAs "Build Hook" c.words := by
  constructor
  · have named : HookRelay.Event.kindOfHeader? "Build Hook" = some "build" := by decide +kernel
    obtain ⟨title, header, -⟩ := HookRelay.Event.kindOfHeader?_eq_some_iff.1 named
    have shown : Shows [(eventHeader, "Build Hook".toUTF8)] "Build Hook" := by
      rw [header]
      exact shows_title Http.Headers.get?_cons_self
    unfold announced
    exact ⟨_, translate_of_passes
      (passes_of_object (.inl rfl) shown named (by decide) parse_emptyObject) shown named⟩
  · rintro ⟨c, text, same, header⟩
    have written : text = "Build" := by
      have whole : "Build" ++ " Hook" = text ++ " Hook" := header
      exact ((String.append_left_inj _).1 whole).symm
    subst written
    revert same
    cases c <;> decide +kernel

end Translator

end Delivery

end HookRelay
