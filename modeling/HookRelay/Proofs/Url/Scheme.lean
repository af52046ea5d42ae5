import HookRelay.Url.Reader
import Mathlib.Data.List.TakeWhile

/-!
# The scheme of an address

However an address is read, its scheme is the one that its text begins with. A text without a
scheme has that of the base it is read relative to, and so is an address only relative to one.
The written form of an address begins with its scheme again.

## Main definitions

* `Url.ownScheme?` : the scheme that a text begins with
* `Url.IsScheme` : a scheme as it stands in an address

## Main statements

* `Url.ownScheme_parse`, `Url.scheme_join` : the scheme of an address that was read
* `Url.scheme_reread` : an address that is written and read again keeps its scheme
-/

namespace HookRelay.Url

/-- The scheme that a text begins with, if there is one. -/
def ownScheme? (text : String) : Option String := (splitScheme (clean text)).map Prod.fst

theorem eq_file_of_schemeKind {scheme : String} (kind : schemeKind scheme = .file) :
    scheme = "file" := by
  unfold schemeKind at kind
  split at kind
  · cases kind
  · split at kind
    · assumption
    · cases kind

variable {scheme : String} {base : Url} {cs : List Char} {url : Url}

@[simp] theorem scheme_assemble (authority : Option Authority) (path : Path × List Char) :
    (assemble scheme authority path).scheme = scheme := rfl

/-- Behind a scheme with an authority, an address has that scheme. -/
theorem scheme_readAuthority (h : readAuthority scheme cs = .ok url) : url.scheme = scheme := by
  unfold readAuthority at h
  simp only [bind, Except.bind] at h
  -- every way to an address ends by putting it together with the scheme
  repeat' split at h
  all_goals grind [scheme_assemble]

theorem scheme_readFile (h : readFile cs = .ok url) : url.scheme = "file" := by
  unfold readFile readFile.plain at h
  simp only [bind, Except.bind] at h
  repeat' split at h
  all_goals grind [scheme_assemble]

theorem scheme_readOther (h : readOther scheme cs = .ok url) : url.scheme = scheme := by
  unfold readOther at h
  split at h
  · exact scheme_readAuthority h
  · rw [← Except.ok.inj h, scheme_assemble]
  · rw [← Except.ok.inj h, scheme_assemble]

theorem scheme_readRelative (h : readRelative base cs = .ok url) : url.scheme = base.scheme := by
  unfold readRelative at h
  dsimp only at h
  repeat' split at h
  all_goals first
    | exact scheme_readAuthority h
    | rw [← Except.ok.inj h, scheme_assemble]
    | rw [← Except.ok.inj h]

/-- **The scheme of an address that was read** is that of its text, or that of its base. -/
theorem scheme_readFrom {base : Option Url} (h : readFrom base cs = .ok url) :
    match splitScheme cs with
    | some (scheme, _) => url.scheme = scheme
    | none => ∃ b, base = some b ∧ url.scheme = b.scheme := by
  unfold readFrom at h
  cases split : splitScheme cs with
  | some begun =>
    obtain ⟨scheme, rest⟩ := begun
    rw [split] at h
    dsimp only at h ⊢
    split at h
    · next kind => rw [scheme_readFile h, eq_file_of_schemeKind kind]
    · exact scheme_readOther h
    · split at h
      · split at h
        · next near => grind [scheme_readRelative]
        · exact scheme_readAuthority h
      · exact scheme_readAuthority h
  | none =>
    rw [split] at h
    dsimp only at h ⊢
    cases base with
    | none => cases h
    | some b =>
      refine ⟨b, rfl, ?_⟩
      dsimp only at h
      split at h
      · rw [← Except.ok.inj h]
      · cases h
      · exact scheme_readRelative h

/-- An address that stands by itself begins with its scheme. -/
theorem ownScheme_parse {text : String} (h : parse text = .ok url) :
    ownScheme? text = some url.scheme := by
  have own := scheme_readFrom h
  rw [ownScheme?]
  split at own
  · next scheme rest begun => rw [begun, own]; rfl
  · obtain ⟨b, none, -⟩ := own
    cases none

/-- An address relative to a base has its own scheme, or that of the base. -/
theorem scheme_join {text : String} (h : base.join text = .ok url) :
    url.scheme = (ownScheme? text).getD base.scheme := by
  have own := scheme_readFrom h
  rw [ownScheme?]
  split at own
  · next scheme rest begun => rw [begun, own]; rfl
  · next unbegun =>
    obtain ⟨b, same, own⟩ := own
    rw [unbegun, own, ← Option.some.inj same]
    rfl

/-! ## Writing a scheme and reading it again -/

/-- A character of a scheme. -/
def isSchemeChar (c : Char) : Bool := c.isAlphanum || c = '+' || c = '-' || c = '.'

/-- A scheme as it stands in an address: in lower case, beginning with a letter. -/
structure IsScheme (scheme : String) : Prop where
  first : ∃ c cs, scheme.toList = c :: cs ∧ c.isAlpha = true
  chars : ∀ c ∈ scheme.toList, isSchemeChar c = true ∧ c.toLower = c

theorem isScheme_of_all {c : Char} {cs : List Char} (spelled : scheme.toList = c :: cs)
    (alpha : c.isAlpha = true)
    (all : (scheme.toList.all fun c => isSchemeChar c && c.toLower == c) = true) :
    IsScheme scheme where
  first := ⟨c, cs, spelled, alpha⟩
  chars c mem := by simpa using List.all_eq_true.1 all c mem

theorem toNat_of_isAlphanum {c : Char} (h : c.isAlphanum = true) :
    0x20 < c.toNat ∧ c.toNat < 128 := by
  delta Char.isAlphanum Char.isAlpha Char.isUpper Char.isLower Char.isDigit at h
  simp only [Bool.or_eq_true, Bool.and_eq_true, decide_eq_true_eq, UInt32.le_iff_toNat_le,
    ge_iff_le] at h
  have same : c.toNat = c.val.toNat := rfl
  have lower : 'A'.val.toNat = 65 ∧ 'a'.val.toNat = 97 ∧ '0'.val.toNat = 48 := by decide
  have upper : 'Z'.val.toNat = 90 ∧ 'z'.val.toNat = 122 ∧ '9'.val.toNat = 57 := by decide
  omega

/-- What holds of the characters of ASCII can be checked one by one. -/
theorem forall_ascii {P : Char → Prop} (each : ∀ n < 128, P (Char.ofNat n)) {c : Char}
    (narrow : c.toNat < 128) : P c := by
  have here := each c.toNat narrow
  rwa [Char.ofNat_toNat] at here

theorem toLower_of_isAlphanum {c : Char} (h : c.isAlphanum = true) :
    c.toLower.isAlphanum = true ∧ c.toLower.toLower = c.toLower ∧
      (c.isAlpha = true → c.toLower.isAlpha = true) :=
  forall_ascii (P := fun c => c.isAlphanum = true →
      c.toLower.isAlphanum = true ∧ c.toLower.toLower = c.toLower ∧
        (c.isAlpha = true → c.toLower.isAlpha = true))
    (by decide +kernel) (toNat_of_isAlphanum h).2 h

theorem toLower_of_isSchemeChar {c : Char} (h : isSchemeChar c = true) :
    isSchemeChar c.toLower = true ∧ c.toLower.toLower = c.toLower := by
  simp only [isSchemeChar, Bool.or_eq_true, decide_eq_true_eq] at h
  obtain ((alphanum | rfl) | rfl) | rfl := h
  · obtain ⟨kept, same, -⟩ := toLower_of_isAlphanum alphanum
    exact ⟨by simp [isSchemeChar, kept], same⟩
  all_goals decide

theorem splitScheme_cons (c : Char) (cs : List Char) :
    splitScheme (c :: cs) =
      if !c.isAlpha then none
      else
        match (c :: cs).dropWhile isSchemeChar with
        | ':' :: rest =>
          some (String.ofList (((c :: cs).takeWhile isSchemeChar).map Char.toLower), rest)
        | _ => none := rfl

/-- **What is split off as a scheme**: characters of a scheme before a colon, the first of them a
letter. -/
theorem splitScheme_eq_some_iff {rest : List Char} : splitScheme cs = some (scheme, rest) ↔
    ∃ c front, cs = c :: front ++ ':' :: rest ∧ c.isAlpha = true ∧
      (∀ d ∈ c :: front, isSchemeChar d = true) ∧
      scheme = String.ofList ((c :: front).map Char.toLower) := by
  constructor
  · intro begun
    cases cs with
    | nil => cases begun
    | cons c cs =>
      rw [splitScheme_cons] at begun
      split at begun
      · cases begun
      · next alpha =>
        have alpha : c.isAlpha = true := by simpa using alpha
        have inScheme : isSchemeChar c = true := by simp [isSchemeChar, Char.isAlphanum, alpha]
        split at begun
        · next rest' dropped =>
          obtain ⟨rfl, rfl⟩ := Prod.mk.inj (Option.some.inj begun)
          rw [List.dropWhile_cons_of_pos inScheme] at dropped
          rw [List.takeWhile_cons_of_pos inScheme]
          refine ⟨c, cs.takeWhile isSchemeChar, ?_, alpha, ?_, rfl⟩
          · rw [← dropped, List.cons_append, List.takeWhile_append_dropWhile]
          · exact List.forall_mem_cons.2 ⟨inScheme, fun d => List.mem_takeWhile_imp⟩
        · cases begun
  · rintro ⟨c, front, rfl, alpha, inScheme, rfl⟩
    have taken : (c :: front ++ ':' :: rest).takeWhile isSchemeChar = c :: front := by
      rw [List.takeWhile_append_of_pos inScheme, List.takeWhile_cons_of_neg (by decide),
        List.append_nil]
    have dropped : (c :: front ++ ':' :: rest).dropWhile isSchemeChar = ':' :: rest := by
      rw [List.dropWhile_append_of_pos inScheme, List.dropWhile_cons_of_neg (by decide)]
    rw [List.cons_append] at taken dropped ⊢
    simp [splitScheme_cons, alpha, taken, dropped]

/-- A scheme that was split off stands as it does in addresses. -/
theorem isScheme_of_splitScheme {rest : List Char} (h : splitScheme cs = some (scheme, rest)) :
    IsScheme scheme := by
  obtain ⟨c, front, -, alpha, inScheme, rfl⟩ := splitScheme_eq_some_iff.1 h
  constructor
  · rw [String.toList_ofList, List.map_cons]
    exact ⟨_, _, rfl, (toLower_of_isAlphanum (by simp [Char.isAlphanum, alpha])).2.2 alpha⟩
  · intro d mem
    rw [String.toList_ofList, List.mem_map] at mem
    obtain ⟨e, mem, rfl⟩ := mem
    exact toLower_of_isSchemeChar (inScheme e mem)

/-- What a scheme and its colon consist of is not dropped when a text is cleaned. -/
theorem kept_of_isSchemeChar {c : Char} (h : isSchemeChar c = true ∨ c = ':') :
    decide (c.toNat ≤ 0x20) = false ∧ isDropped c = false := by
  have above : 0x20 < c.toNat := by
    simp only [isSchemeChar, Bool.or_eq_true, decide_eq_true_eq] at h
    obtain (((alphanum | rfl) | rfl) | rfl) | rfl := h
    · exact (toNat_of_isAlphanum alphanum).1
    all_goals decide
  refine ⟨decide_eq_false (by omega), ?_⟩
  simp only [isDropped, Bool.or_eq_false_iff, decide_eq_false_iff_not]
  refine ⟨⟨?_, ?_⟩, ?_⟩ <;> rintro rfl <;> revert above <;> decide

/-- Dropping from the end leaves a beginning of which nothing is to be dropped. -/
theorem reverse_dropWhile_append {α : Type} {p : α → Bool} {front : List α} (ne : front ≠ [])
    (kept : ∀ a ∈ front, p a = false) (rest : List α) :
    ∃ rest', (((front ++ rest).reverse.dropWhile p).reverse) = front ++ rest' := by
  have stops : front.reverse.dropWhile p = front.reverse := by
    obtain ⟨a, before, last⟩ := List.exists_cons_of_ne_nil (mt List.reverse_eq_nil_iff.1 ne)
    rw [last, List.dropWhile_cons_of_neg]
    have mem : a ∈ front := List.mem_reverse.1 (last ▸ List.mem_cons_self ..)
    simp [kept a mem]
  rw [List.reverse_append, List.dropWhile_append, stops]
  split
  · exact ⟨[], by simp⟩
  · exact ⟨_, by rw [List.reverse_append, List.reverse_reverse]⟩

/-- Cleaning a text leaves what it begins with, if nothing of that is to be dropped. -/
theorem clean_append {front : List Char} (ne : front ≠ [])
    (kept : ∀ c ∈ front, decide (c.toNat ≤ 0x20) = false ∧ isDropped c = false)
    {text : String} {rest : List Char} (begun : text.toList = front ++ rest) :
    ∃ rest', clean text = front ++ rest' := by
  have start : (front ++ rest).dropWhile (fun c => decide (c.toNat ≤ 0x20)) = front ++ rest := by
    obtain ⟨c, tail, rfl⟩ := List.exists_cons_of_ne_nil ne
    rw [List.cons_append, List.dropWhile_cons_of_neg]
    simpa using (kept c (List.mem_cons_self ..)).1
  obtain ⟨rest', ended⟩ := reverse_dropWhile_append ne (fun c mem => (kept c mem).1) rest
  have inside : front.filter (fun c => !isDropped c) = front :=
    List.filter_eq_self.2 fun c mem => by simp [(kept c mem).2]
  refine ⟨rest'.filter fun c => !isDropped c, ?_⟩
  rw [clean, begun, start, ended, List.filter_append, inside]

/-- **The written form of an address begins with its scheme.** -/
theorem ownScheme_append (valid : IsScheme scheme) (rest : String) :
    ownScheme? (scheme ++ ":" ++ rest) = some scheme := by
  have whole : (scheme ++ ":" ++ rest).toList = (scheme.toList ++ [':']) ++ rest.toList := by
    simp
  have kept : ∀ c ∈ scheme.toList ++ [':'], decide (c.toNat ≤ 0x20) = false ∧
      isDropped c = false := by
    intro c mem
    obtain mem | mem := List.mem_append.1 mem
    · exact kept_of_isSchemeChar (.inl (valid.chars c mem).1)
    · exact kept_of_isSchemeChar (.inr (List.mem_singleton.1 mem))
  obtain ⟨rest', cleaned⟩ := clean_append (by simp) kept whole
  obtain ⟨c, cs, first, alpha⟩ := valid.first
  have all : ∀ d ∈ scheme.toList, isSchemeChar d = true := fun d mem => (valid.chars d mem).1
  have lower : scheme.toList.map Char.toLower = scheme.toList :=
    List.map_congr_left (fun d mem => (valid.chars d mem).2) |>.trans (List.map_id' _)
  rw [first] at all lower
  have begun : splitScheme (clean (scheme ++ ":" ++ rest)) = some (scheme, rest') :=
    splitScheme_eq_some_iff.2 ⟨c, cs, by rw [cleaned, first, List.append_assoc,
      List.singleton_append], alpha, all, by rw [lower, ← first, String.ofList_toList]⟩
  rw [ownScheme?, begun]
  rfl

/-- A scheme that a text begins with stands as it does in addresses. -/
theorem isScheme_of_ownScheme {text : String} (h : ownScheme? text = some scheme) :
    IsScheme scheme := by
  obtain ⟨⟨_, rest⟩, begun, rfl⟩ := Option.map_eq_some_iff.1 h
  exact isScheme_of_splitScheme begun

/-- **An address that is written and read again keeps its scheme.** -/
theorem scheme_reread {url' : Url} (valid : IsScheme url.scheme)
    (reread : parse url.render = .ok url') : url'.scheme = url.scheme := by
  have own := ownScheme_parse reread
  unfold render at own
  simp only [String.append_assoc] at own
  rw [← String.append_assoc, ownScheme_append valid] at own
  exact (Option.some.inj own).symm

end HookRelay.Url
