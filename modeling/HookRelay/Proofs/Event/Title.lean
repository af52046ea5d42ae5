import HookRelay.Proofs.Event.Named
import HookRelay.Proofs.Text.Parts
import HookRelay.Proofs.Url.Scheme

/-!
# The headers that name a kind

A header names a kind if and only if it consists of one or more words and `Hook`, with one blank
between two of them. The last word before `Hook` may itself be `Hook`; blanks at the ends, two
blanks in a row, line ends and letters beyond ASCII make a text no header.

The kind is what the words are in lower case, joined by underscores, unless that is an alias. No
word holds a blank or an underscore, so the joined words tell the words apart, up to the case of
their letters; and no two aliases stand for the same kind, nor does one stand for another. So two
headers name the same kind only if they differ in case, or if one of them is an alias of the other.

## Main definitions

* `IsWord` : a word of a header, and `isWord`, which decides it of its letters
* `Title` : the words of a header
* `Title.header`, `Title.joined` : the header with these words, and what they are joined to

## Main statements

* `areWords_eq` : a text is scanned as it would be split
* `captured?_eq_some_iff` : which headers capture which words
* `Title.joined_eq` : joining words and replacing their blanks come to the same
* `kindOfHeader?_eq_some_iff` : which headers name which kinds
* `Title.joined_eq_iff`, `resolveAlias_eq_iff` : which words are joined to the same, and which of
  these name the same kind
* `kindOfHeader?_spelled` : both, for all headers
-/

namespace HookRelay

namespace Event

/-! ## Letters -/

section Letters

variable {c : Char}

theorem toLower_of_wide (wide : 128 ≤ c.toNat) : c.toLower = c := by
  have upper : ¬ (c.val ≥ 'A'.val ∧ c.val ≤ 'Z'.val) := by
    rintro ⟨-, low⟩
    have low : c.toNat ≤ 90 := UInt32.le_iff_toNat_le.1 low
    omega
  exact dif_neg upper

/-- The case of a letter does not matter to what a word is made of. -/
theorem toLower_class (c : Char) :
    c.toLower.isAlpha = c.isAlpha ∧ c.toLower.isAlphanum = c.isAlphanum ∧
      (c.toLower = ' ' ↔ c = ' ') ∧ (c.toLower = '_' ↔ c = '_') := by
  by_cases narrow : c.toNat < 128
  · exact Url.forall_ascii (P := fun c => c.toLower.isAlpha = c.isAlpha ∧
      c.toLower.isAlphanum = c.isAlphanum ∧ (c.toLower = ' ' ↔ c = ' ') ∧
        (c.toLower = '_' ↔ c = '_')) (by decide +kernel) narrow
  · rw [toLower_of_wide (Nat.le_of_not_lt narrow)]
    exact ⟨rfl, rfl, Iff.rfl, Iff.rfl⟩

end Letters

/-! ## Words -/

/-- **A word of a header**: an ASCII letter, followed by ASCII letters and digits. -/
def IsWord (w : String) : Prop :=
  ∃ c cs, w.toList = c :: cs ∧ c.isAlpha = true ∧ ∀ d ∈ cs, d.isAlphanum = true

/-- Whether letters are those of a word. -/
def isWord : List Char → Bool
  | [] => false
  | c :: cs => c.isAlpha && cs.all Char.isAlphanum

section Words

variable {w w' : String}

theorem isWord_iff : isWord w.toList = true ↔ IsWord w := by
  rw [IsWord]
  cases w.toList with
  | nil => exact ⟨nofun, by rintro ⟨c, cs, ⟨⟩, -⟩⟩
  | cons c cs =>
    rw [isWord, Bool.and_eq_true, List.all_eq_true]
    constructor
    · rintro ⟨alpha, rest⟩
      exact ⟨c, cs, rfl, alpha, rest⟩
    · rintro ⟨c, cs, ⟨⟩, alpha, rest⟩
      exact ⟨alpha, rest⟩

theorem IsWord.isAlphanum (word : IsWord w) : ∀ d ∈ w.toList, d.isAlphanum = true := by
  obtain ⟨c, cs, whole, alpha, rest⟩ := word
  rw [whole]
  exact List.forall_mem_cons.2 ⟨by rw [Char.isAlphanum, alpha, Bool.true_or], rest⟩

theorem toList_toLower (s : String) : s.toLower.toList = s.toList.map Char.toLower :=
  String.toList_map

/-- A word stays one in lower case. -/
theorem isWord_toLower : IsWord w.toLower ↔ IsWord w := by
  rw [← isWord_iff, ← isWord_iff, toList_toLower]
  cases w.toList with
  | nil => rfl
  | cons c cs =>
    rw [List.map_cons, isWord, isWord, (toLower_class c).1, List.all_map]
    have same : Char.isAlphanum ∘ Char.toLower = Char.isAlphanum :=
      funext fun d => (toLower_class d).2.1
    rw [same]

theorem IsWord.blank_not_mem (word : IsWord w) : ' ' ∉ w.toList := fun mem =>
  absurd (word.isAlphanum _ mem) (by decide)

theorem IsWord.underscore_not_mem (word : IsWord w) : '_' ∉ w.toList := fun mem =>
  absurd (word.isAlphanum _ mem) (by decide)

end Words

/-- **The words of a header**, an `X-Gitlab-Event`, before its last word, which is always the
same. -/
structure Title where
  words : List String
  ne_nil : words ≠ []
  spelt : ∀ w ∈ words, IsWord w

namespace Title

variable {t u : Title}

/-- The words, with one blank between two of them. -/
def text (t : Title) : String := " ".intercalate t.words

/-- The header with these words. -/
def header (t : Title) : String := " ".intercalate (t.words ++ ["Hook"])

/-- The words in lower case, joined by underscores. -/
def joined (t : Title) : String := "_".intercalate (t.words.map String.toLower)

theorem header_eq (t : Title) : t.header = t.text ++ " Hook" := by
  rw [← String.toList_inj, header, text, String.toList_append, String.toList_intercalate,
    String.toList_intercalate, List.map_append, List.map_singleton,
    intercalate_append_singleton _ (by simpa using t.ne_nil), List.append_assoc]
  rfl

theorem toList_header (t : Title) : t.header.toList = t.text.toList ++ ending := by
  rw [t.header_eq, String.toList_append]
  rfl

/-- No word holds a blank, so the words of a title are told from its text. -/
theorem splitOn_text (t : Title) : t.text.toList.splitOn ' ' = t.words.map String.toList := by
  rw [text, String.toList_intercalate]
  exact List.splitOn_intercalate ' '
    (List.forall_mem_map.2 fun w mem => (t.spelt w mem).blank_not_mem) (by simpa using t.ne_nil)

/-- A header is made of ASCII letters and digits and blanks. -/
theorem of_mem_header {c : Char} (mem : c ∈ t.header.toList) : c = ' ' ∨ c.isAlphanum = true := by
  rw [header, String.toList_intercalate] at mem
  obtain mem | ⟨part, among, mem⟩ := mem_of_mem_intercalate mem
  · exact .inl (List.mem_singleton.1 mem)
  · obtain ⟨w, word, rfl⟩ := List.mem_map.1 among
    obtain word | last := List.mem_append.1 word
    · exact .inr ((t.spelt w word).isAlphanum _ mem)
    · obtain rfl : w = "Hook" := List.mem_singleton.1 last
      have hook : "Hook".toList.all Char.isAlphanum = true := by decide
      exact .inr (List.all_eq_true.1 hook c mem)

/-- The words in lower case. -/
def lower (t : Title) : Title where
  words := t.words.map String.toLower
  ne_nil := by simpa using t.ne_nil
  spelt := List.forall_mem_map.2 fun w mem => isWord_toLower.2 (t.spelt w mem)

theorem toLower_text (t : Title) : t.text.toLower = t.lower.text := by
  rw [← String.toList_inj, toList_toLower, text, text, String.toList_intercalate,
    String.toList_intercalate, map_intercalate, lower, List.map_map, List.map_map]
  refine congrArg₂ List.intercalate rfl (List.map_congr_left fun w _ => ?_)
  exact (toList_toLower w).symm

/-- A text that is that of a title in lower case is that of a title. -/
theorem exists_of_toLower {text : String} (same : text.toLower = u.text.toLower) :
    ∃ t : Title, t.text = text := by
  have letters : text.toList.map Char.toLower =
      [' '].intercalate (u.lower.words.map String.toList) := by
    rw [← toList_toLower, same, u.toLower_text, Title.text, String.toList_intercalate]
    rfl
  obtain ⟨parts, lowered, whole⟩ := exists_parts_of_map
    (fun c => (toLower_class c).2.2.1) (by simpa using u.lower.ne_nil) letters
  have spelt : ∀ w ∈ parts.map String.ofList, IsWord w := by
    refine List.forall_mem_map.2 fun part mem => isWord_toLower.1 ?_
    obtain ⟨w, among, taken⟩ := List.mem_map.1 (lowered ▸ List.mem_map_of_mem mem)
    have same : (String.ofList part).toLower = w := by
      rw [← String.toList_inj, toList_toLower, String.toList_ofList, taken]
    exact same ▸ u.lower.spelt w among
  have ne : parts.map String.ofList ≠ [] := by
    intro none
    rw [List.map_eq_nil_iff.1 none] at lowered
    exact u.lower.ne_nil (List.map_eq_nil_iff.1 lowered.symm)
  refine ⟨⟨parts.map String.ofList, ne, spelt⟩, ?_⟩
  rw [← String.toList_inj, whole, Title.text, String.toList_intercalate, List.map_map]
  exact congrArg _ ((List.map_congr_left fun part _ => String.toList_ofList).trans
    (List.map_id parts))

/-- What words are joined to is their text in lower case, with underscores for blanks. -/
theorem joined_eq (t : Title) : t.joined = underscored t.text.toLower := by
  have kept : t.lower.words.map String.toList =
      (t.lower.words.map String.toList).map
        (List.map fun c => if c = ' ' then '_' else c) := by
    rw [List.map_map]
    refine List.map_congr_left fun w mem => ?_
    have word := t.lower.spelt w mem
    refine ((List.map_congr_left fun c mem => if_neg ?_).trans (List.map_id' _)).symm
    exact fun blank => word.blank_not_mem (blank ▸ mem)
  rw [t.toLower_text, ← String.toList_inj, underscored, String.toList_map, Title.text,
    String.toList_intercalate, map_intercalate, ← kept]
  exact String.toList_intercalate

/-- Words without a separator are told from what they are joined to with it. -/
theorem intercalate_words_inj {sep : String} {x : Char} (single : sep.toList = [x])
    (without : ∀ w, IsWord w → x ∉ w.toList) :
    sep.intercalate t.words = sep.intercalate u.words ↔ t.words = u.words := by
  refine ⟨fun same => ?_, fun same => by rw [same]⟩
  rw [← String.toList_inj, String.toList_intercalate, String.toList_intercalate, single] at same
  have parts (v : Title) : ([x].intercalate (v.words.map String.toList)).splitOn x =
      v.words.map String.toList :=
    List.splitOn_intercalate x (List.forall_mem_map.2 fun w mem => without w (v.spelt w mem))
      (by simpa using v.ne_nil)
  have same := (parts t).symm.trans ((congrArg (List.splitOn x) same).trans (parts u))
  exact List.map_injective_iff.2 (fun _ _ => String.toList_inj.1) same

/-- **Words are joined to the same if and only if they are equal up to the case of letters.** -/
theorem joined_eq_iff : t.joined = u.joined ↔ t.text.toLower = u.text.toLower := by
  rw [toLower_text, toLower_text]
  exact (intercalate_words_inj (t := t.lower) (u := u.lower) rfl
      fun w => IsWord.underscore_not_mem).trans
    (intercalate_words_inj rfl fun w => IsWord.blank_not_mem).symm

theorem toLower_header_eq_iff : t.header.toLower = u.header.toLower ↔ t.joined = u.joined := by
  rw [joined_eq_iff, header_eq, header_eq, ← String.toList_inj, ← String.toList_inj]
  simp only [toList_toLower, String.toList_append, List.map_append, List.append_left_inj]

end Title

/-! ## Headers -/

variable {header kind : String}

/-- The letters that are words are those between whose blanks are words. Within a word, what is left
of it comes first. -/
theorem areWords_eq (cs : List Char) :
    areWords false cs = (cs.splitOn ' ').all isWord ∧
      ∀ first rest, cs.splitOn ' ' = first :: rest →
        areWords true cs = (first.all Char.isAlphanum && rest.all isWord) := by
  induction cs with
  | nil =>
    refine ⟨rfl, fun first rest parts => ?_⟩
    rw [List.splitOn_nil] at parts
    cases parts
    rfl
  | cons c cs ih =>
    obtain ⟨outside, within⟩ := ih
    obtain ⟨first, rest, parts⟩ := List.exists_cons_of_ne_nil (List.splitOn_ne_nil ' ' cs)
    by_cases blank : c = ' '
    · subst blank
      have split : (' ' :: cs).splitOn ' ' = [] :: cs.splitOn ' ' := by
        rw [List.splitOn_cons_eq_if_modifyHead, if_pos BEq.rfl]
      refine ⟨by rw [split]; rfl, fun first rest parts => ?_⟩
      rw [split] at parts
      cases parts
      rw [areWords, if_pos rfl, outside]
      rfl
    · have split : (c :: cs).splitOn ' ' = (c :: first) :: rest := by
        rw [List.splitOn_cons_eq_if_modifyHead, if_neg (by simpa using blank), parts,
          List.modifyHead_cons]
      refine ⟨?_, fun first' rest' parts' => ?_⟩
      · rw [split, areWords, within first rest parts, List.all_cons, isWord, Bool.and_assoc]
      · rw [split] at parts'
        cases parts'
        rw [areWords, if_neg blank, within first rest parts, List.all_cons, Bool.and_assoc]

/-- What has the form of words is the text of a title. -/
theorem areWords_iff {cs : List Char} :
    areWords false cs = true ↔ ∃ t : Title, cs = t.text.toList := by
  rw [(areWords_eq cs).1, List.all_eq_true]
  constructor
  · intro spelt
    have letters : ((cs.splitOn ' ').map String.ofList).map String.toList = cs.splitOn ' ' := by
      rw [List.map_map]
      exact (List.map_congr_left fun w _ => String.toList_ofList).trans (List.map_id _)
    refine ⟨⟨(cs.splitOn ' ').map String.ofList, by simp,
      List.forall_mem_map.2 fun w mem => ?_⟩, ?_⟩
    · rw [← isWord_iff, String.toList_ofList]
      exact spelt w mem
    · rw [Title.text, String.toList_intercalate, letters]
      exact (List.intercalate_splitOn ' ').symm
  · rintro ⟨t, rfl⟩
    rw [t.splitOn_text]
    exact List.forall_mem_map.2 fun w mem => isWord_iff.2 (t.spelt w mem)

/-- **What a header captures** is the text of a title, of which it is the header. -/
theorem captured?_eq_some_iff {words : String} :
    captured? header = some words ↔ ∃ t : Title, header = t.header ∧ words = t.text := by
  simp only [captured?]
  constructor
  · intro read
    split at read
    · next form =>
      rw [Bool.and_eq_true, List.isSuffixOf_iff_suffix, List.suffix_iff_eq_append] at form
      obtain ⟨whole, spelt⟩ := form
      obtain ⟨t, text⟩ := areWords_iff.1 spelt
      rw [text] at whole read
      refine ⟨t, String.toList_inj.1 (whole.symm.trans t.toList_header.symm), ?_⟩
      rw [← Option.some.inj read, String.ofList_toList]
    · cases read
  · rintro ⟨t, rfl, rfl⟩
    have before : t.header.toList.take (t.header.toList.length - ending.length) =
        t.text.toList := by
      rw [t.toList_header, List.length_append, Nat.add_sub_cancel, List.take_left]
    have form : (ending.isSuffixOf t.header.toList && areWords false t.text.toList) = true := by
      rw [Bool.and_eq_true, List.isSuffixOf_iff_suffix, t.toList_header]
      exact ⟨List.suffix_append _ _, areWords_iff.2 ⟨t, rfl⟩⟩
    rw [before, if_pos form, String.ofList_toList]

/-- It makes no difference whether blanks are replaced before or after the letters. -/
theorem toLower_underscored (s : String) : (underscored s).toLower = underscored s.toLower := by
  rw [← String.toList_inj, toList_toLower, underscored, underscored, String.toList_map,
    String.toList_map, toList_toLower, List.map_map, List.map_map]
  refine List.map_congr_left fun c _ => ?_
  have blank : c.toLower = ' ' ↔ c = ' ' := (toLower_class c).2.2.1
  by_cases at_blank : c = ' '
  · subst at_blank
    rfl
  · simp only [Function.comp_apply, if_neg at_blank, if_neg (blank.not.2 at_blank)]

/-- **Which headers name which kinds.** -/
theorem kindOfHeader?_eq_some_iff : kindOfHeader? header = some kind ↔
    ∃ t : Title, header = t.header ∧ kind = resolveAlias t.joined := by
  have token (t : Title) : (underscored t.text).toLower = t.joined := by
    rw [toLower_underscored, t.joined_eq]
  rw [kindOfHeader?, Option.map_eq_some_iff]
  constructor
  · rintro ⟨words, read, rfl⟩
    obtain ⟨t, rfl, rfl⟩ := captured?_eq_some_iff.1 read
    exact ⟨t, rfl, by rw [token]⟩
  · rintro ⟨t, rfl, rfl⟩
    exact ⟨t.text, captured?_eq_some_iff.2 ⟨t, rfl, rfl⟩, by rw [token]⟩

theorem kindOfHeader?_title (t : Title) : kindOfHeader? t.header = some (resolveAlias t.joined) :=
  kindOfHeader?_eq_some_iff.2 ⟨t, rfl, rfl⟩

/-! ## Aliases -/

theorem resolveAlias_eq (joined : String) : resolveAlias joined =
    if joined = "confidential_issue" then "issue"
    else if joined = "confidential_note" then "note"
    else if joined = "job" then "build"
    else joined := by
  simp only [resolveAlias, aliases, List.lookup_cons]
  grind

/-- **Which joined words name the same kind**: the same ones, and an alias and what it stands for.
No two aliases stand for the same, and none for another one. -/
theorem resolveAlias_eq_iff {j k : String} : resolveAlias j = resolveAlias k ↔
    j = k ∨ (j, k) ∈ aliases ∨ (k, j) ∈ aliases := by
  simp only [resolveAlias_eq, aliases, List.mem_cons, Prod.mk.injEq, List.not_mem_nil, or_false]
  grind

/-- **The headers that name a kind, and what they have in common if they name the same.** A header
names a kind if and only if it consists of one or more words and a last one, `Hook`; the kind is
what the words are in lower case, joined by underscores, or what that is an alias of. Two headers
name the same kind if and only if they are equal up to the case of letters, or the joined words of
one are an alias of those of the other. -/
theorem kindOfHeader?_spelled :
    (∀ header kind, kindOfHeader? header = some kind ↔
      ∃ t : Title, header = t.header ∧ kind = resolveAlias t.joined) ∧
    ∀ t u : Title, kindOfHeader? t.header = kindOfHeader? u.header ↔
      t.header.toLower = u.header.toLower ∨ (t.joined, u.joined) ∈ aliases ∨
        (u.joined, t.joined) ∈ aliases := by
  refine ⟨fun header kind => kindOfHeader?_eq_some_iff, fun t u => ?_⟩
  rw [kindOfHeader?_title, kindOfHeader?_title, Option.some_inj, resolveAlias_eq_iff,
    Title.toLower_header_eq_iff]

example : kindOfHeader? "Hook Hook" = some "hook" ∧ kindOfHeader? "Hook" = none ∧
    kindOfHeader? "Push  Hook" = none ∧ kindOfHeader? "Push Hook\n" = none := by decide +kernel

end Event

end HookRelay
