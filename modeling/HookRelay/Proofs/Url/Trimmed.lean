import HookRelay.Proofs.Url.WideBlanks

/-!
# Addresses of the web, trimmed or not

What stands around an address means nothing in it: blanks and control characters are no part of a
scheme and end nothing. So an address with such characters around it has the scheme that it has
without them, and is an address of the web as well, unless one of them is a wide blank. A wide blank
before an address is where a scheme should begin. One behind it becomes a part of the path, the
query or the fragment, and is encoded; but if nothing is written behind the authority, it becomes a
part of that, and no authority ends in one.

## Main definitions

* `Url.IsWebAddress` : a text is an address of the web
* `Url.endsInAuthority` : nothing is written behind the authority of an address
* `Url.Spoiled` : a text has a wide blank where trimming makes a difference

## Main statements

* `Url.ownScheme_trim` : trimming leaves the scheme of an address
* `Url.isWebAddress_iff` : which texts are addresses of the web, by what is left of them by trimming
-/

namespace HookRelay.Url

variable {text scheme : String} {cs rest tail : List Char} {c : Char} {url : Url}

/-- A text is an address of the web. -/
def IsWebAddress (text : String) : Prop := ∃ url, parse text = .ok url ∧ url.isHttp = true

/-- Whether an address ends with its authority: no path, query or fragment is written behind it. -/
def endsInAuthority (cs : List Char) : Bool :=
  match splitScheme cs with
  | some (_, rest) => (behindSlashes rest).all fun c => !endsAuthority .web c
  | none => false

/-! ## Idle characters -/

/-- No character that means something in an address is idle: they are all of ASCII. -/
theorem not_isIdle (meaning : isSchemeChar c = true ∨ c = ':' ∨ endsAuthority .web c = true) :
    isIdle c = false := by
  have narrow : c.toNat < 128 := by
    simp only [isSchemeChar, endsAuthority, SchemeKind.isSpecial, Bool.true_and, Bool.or_eq_true,
      decide_eq_true_eq] at meaning
    obtain (((alphanum | rfl) | rfl) | rfl) | rfl | ((rfl | rfl) | rfl) | rfl := meaning
    · exact (toNat_of_isAlphanum alphanum).2
    all_goals decide
  exact forall_ascii (P := fun c => isSchemeChar c = true ∨ c = ':' ∨ endsAuthority .web c = true →
    isIdle c = false) (by decide +kernel) narrow meaning

theorem isSchemeChar_of_isIdle (idle : isIdle c = true) : isSchemeChar c = false := by
  by_contra inScheme
  simp [not_isIdle (.inl (by simpa using inScheme))] at idle

theorem endsAuthority_of_isIdle (idle : isIdle c = true) : endsAuthority .web c = false := by
  by_contra ends
  simp [not_isIdle (.inr (.inr (by simpa using ends)))] at idle

/-! ## Idle characters behind an address -/

theorem splitScheme_cons_of_isIdle (idle : isIdle c = true) : splitScheme (c :: cs) = none := by
  have notAlpha : c.isAlpha = false := by
    by_contra alpha
    simpa [isSchemeChar, Char.isAlphanum, alpha] using isSchemeChar_of_isIdle idle
  rw [splitScheme_cons, notAlpha]
  rfl

/-- A scheme is split off in the same way, whatever idle characters stand behind an address. -/
theorem splitScheme_append_eq_some_iff (idle : ∀ c ∈ tail, isIdle c = true) {rest' : List Char} :
    splitScheme (cs ++ tail) = some (scheme, rest') ↔
      ∃ rest, splitScheme cs = some (scheme, rest) ∧ rest' = rest ++ tail := by
  constructor
  · intro begun
    obtain ⟨c, front, whole, alpha, inScheme, spelled⟩ := splitScheme_eq_some_iff.1 begun
    have noColon : ':' ∉ tail := fun mem => by
      simpa [not_isIdle (.inr (.inl rfl))] using idle ':' mem
    obtain ⟨more, -, same⟩ | ⟨more, rfl, same⟩ := List.append_eq_append_iff.1 whole
    · exact absurd (by simp [same]) noColon
    · cases more with
      | nil =>
        have begins : ':' ∈ [] ++ tail := by
          rw [← same]
          exact List.mem_cons_self
        exact absurd begins noColon
      | cons d rest =>
        obtain ⟨rfl, split⟩ := List.cons.inj same
        exact ⟨rest, splitScheme_eq_some_iff.2 ⟨c, front, rfl, alpha, inScheme, spelled⟩, split⟩
  · rintro ⟨rest, begun, rfl⟩
    obtain ⟨c, front, rfl, alpha, inScheme, spelled⟩ := splitScheme_eq_some_iff.1 begun
    exact splitScheme_eq_some_iff.2 ⟨c, front, by simp, alpha, inScheme, spelled⟩

theorem behindSlashes_append (idle : ∀ c ∈ tail, isIdle c = true) (cs : List Char) :
    behindSlashes (cs ++ tail) = behindSlashes cs ++ tail := by
  have kept : behindSlashes tail = tail := by
    cases tail with
    | nil => rfl
    | cons c tail =>
      refine List.dropWhile_cons_of_neg fun slash => ?_
      have meaning : endsAuthority .web c = true := by
        obtain rfl | rfl : c = '/' ∨ c = '\\' := by simpa using slash
        all_goals decide
      rw [endsAuthority_of_isIdle (idle c List.mem_cons_self)] at meaning
      cases meaning
  rw [behindSlashes, List.dropWhile_append]
  split
  · next gone => rw [behindSlashes, List.isEmpty_iff.1 gone, ← behindSlashes, kept, List.nil_append]
  · rfl

/-- What stands behind an address is a part of its authority if nothing ends that. -/
theorem authorityText_append (idle : ∀ c ∈ tail, isIdle c = true) (cs : List Char) :
    authorityText (cs ++ tail) =
      if cs.all (fun c => !endsAuthority .web c) then cs ++ tail else authorityText cs := by
  split
  · next opened =>
    refine List.takeWhile_eq_self_iff.2 fun c mem => ?_
    obtain mem | mem := List.mem_append.1 mem
    · exact List.all_eq_true.1 opened c mem
    · simp [endsAuthority_of_isIdle (idle c mem)]
  · next closed =>
    refine (List.takeWhile_append ..).trans (if_neg fun same => closed ?_)
    have whole := (List.takeWhile_prefix _).eq_of_length same
    exact List.all_eq_true.2 (List.takeWhile_eq_self_iff.1 whole)

/-- A wide blank before an address would not be dropped, and begins no scheme. -/
theorem narrow_before_of_parse (read : parse text = .ok url) :
    ∀ c ∈ Text.before text, Text.isWide c = false := by
  by_contra some_wide
  have wide : ∃ c ∈ Text.before text, Text.isWide c = true := by simpa using some_wide
  obtain ⟨c, rest, begun, wide⟩ := clean_of_wide_before wide
  have own := ownScheme_parse read
  rw [ownScheme?, begun, splitScheme_cons_of_isIdle (isIdle_of_isWide wide)] at own
  cases own

/-- Unless a wide blank stands before a text, it is read as what is left of it by trimming, with
idle characters behind it if one of them is a wide blank. -/
theorem clean_trim_cases (first : ∀ c ∈ Text.before text, Text.isWide c = false) :
    ((∀ c ∈ Text.behind text, Text.isWide c = false) ∧ clean (Text.trim text) = clean text) ∨
      ((∃ c ∈ Text.behind text, Text.isWide c = true) ∧
        ∃ between c, clean text = clean (Text.trim text) ++ (between ++ [c]) ∧
          Text.isWide c = true ∧ ∀ d ∈ between ++ [c], isIdle d = true) := by
  by_cases last : ∀ c ∈ Text.behind text, Text.isWide c = false
  · exact .inl ⟨last, clean_trim first last⟩
  · have wide : ∃ c ∈ Text.behind text, Text.isWide c = true := by simpa using last
    exact .inr ⟨wide, clean_of_wide_behind first wide⟩

/-- Trimming leaves the scheme of an address. -/
theorem ownScheme_trim (read : parse text = .ok url) :
    ownScheme? (Text.trim text) = some url.scheme := by
  have own := ownScheme_parse read
  obtain ⟨-, same⟩ | ⟨-, between, c, cleaned, -, idle⟩ :=
    clean_trim_cases (narrow_before_of_parse read)
  · rw [ownScheme?, same]
    exact own
  · rw [ownScheme?, cleaned] at own
    obtain ⟨⟨scheme, rest'⟩, begun, spelled⟩ := Option.map_eq_some_iff.1 own
    obtain ⟨rest, begun, -⟩ := (splitScheme_append_eq_some_iff idle).1 begun
    rw [ownScheme?, begun]
    exact congrArg some spelled

/-- **A wide blank spoils an address**: one stands before it, or behind it where its authority
ends. -/
def Spoiled (text : String) : Prop :=
  (∃ c ∈ Text.before text, Text.isWide c = true) ∨
    (∃ c ∈ Text.behind text, Text.isWide c = true) ∧ endsInAuthority (clean (Text.trim text)) = true

/-- Idle characters that end in a wide blank become a part of an address, unless its authority ends
where they stand. -/
theorem exists_http_append_iff {between : List Char} (wide : Text.isWide c = true)
    (idle : ∀ d ∈ between ++ [c], isIdle d = true) :
    (∃ url, readFrom none (cs ++ (between ++ [c])) = .ok url ∧ url.isHttp = true) ↔
      (∃ url, readFrom none cs = .ok url ∧ url.isHttp = true) ∧ endsInAuthority cs = false := by
  rw [exists_http_iff, exists_http_iff]
  simp only [splitScheme_append_eq_some_iff idle]
  constructor
  · rintro ⟨scheme, _, ⟨rest, begun, rfl⟩, http, readable⟩
    rw [behindSlashes_append idle, authorityText_append idle] at readable
    split at readable
    · rw [← List.append_assoc] at readable
      exact absurd readable (not_readable_of_wide wide)
    · next closed =>
      exact ⟨⟨scheme, rest, begun, http, readable⟩, by simpa [endsInAuthority, begun] using closed⟩
  · rintro ⟨⟨scheme, rest, begun, http, readable⟩, closed⟩
    refine ⟨scheme, rest ++ (between ++ [c]), ⟨rest, begun, rfl⟩, http, ?_⟩
    rw [behindSlashes_append idle, authorityText_append idle, if_neg]
    · exact readable
    · simpa [endsInAuthority, begun] using closed

/-- **When trimming makes a text an address of the web**: if a wide blank spoiled it. -/
theorem isWebAddress_iff (text : String) :
    IsWebAddress text ↔ IsWebAddress (Text.trim text) ∧ ¬ Spoiled text := by
  by_cases first : ∀ c ∈ Text.before text, Text.isWide c = false
  · have unspoiled : ¬ ∃ c ∈ Text.before text, Text.isWide c = true := by simpa using first
    obtain ⟨last, same⟩ | ⟨wide, between, c, cleaned, widest, idle⟩ := clean_trim_cases first
    · have unspoiled' : ¬ ∃ c ∈ Text.behind text, Text.isWide c = true := by simpa using last
      simp [IsWebAddress, parse, same, Spoiled, unspoiled, unspoiled']
    · simp only [IsWebAddress, parse, cleaned, exists_http_append_iff widest idle, Spoiled,
        unspoiled, wide, false_or, true_and, Bool.not_eq_true]
  · have spoiled : Spoiled text := .inl (by simpa using first)
    refine iff_of_false ?_ fun h => h.2 spoiled
    rintro ⟨url, read, -⟩
    exact first (narrow_before_of_parse read)

end HookRelay.Url
