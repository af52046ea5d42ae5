import HookRelay.Json.Printer
import HookRelay.Proofs.Json.Ascending
import HookRelay.Proofs.Text.Bytes

/-!
# What is printed is read back

A reader of JSON goes by the bytes that remain from an offset on. Where those are the text of a
string it reads that string, the escapes of the printer included; and so on upwards, to an object
of strings and truth values, whose text is read as the object that was printed.

## Main definitions

* `remaining` : the bytes of a text from an offset on
* `isScalar` : whether a value has no parts and is no number
* `fieldBytes`, `objectBytes` : the text of fields, and of the end of their object

## Main statements

* `readStringBytes_spelt` : a string is read back, whatever characters it has
* `readFields_spelt` : so are the fields of an object
* `parse_render_object` : and so is the object, as a whole text
-/

namespace HookRelay.Json

variable {text : ByteArray} {pos : Nat} {b : UInt8} {bs xs ys : List UInt8}

/-! ## What remains of a text -/

/-- The bytes of a text from an offset on. -/
def remaining (text : ByteArray) (pos : Nat) : List UInt8 := text.data.toList.drop pos

theorem getElem?_eq_head? (text : ByteArray) (pos : Nat) :
    text[pos]? = (remaining text pos).head? := by
  rw [remaining, List.head?_drop, Array.getElem?_toList]
  rfl

theorem get_of_remaining (rest : remaining text pos = b :: bs) : text[pos]? = some b := by
  rw [getElem?_eq_head?, rest]
  rfl

theorem lt_of_remaining (rest : remaining text pos = b :: bs) : pos < text.size := by
  have length := congrArg List.length rest
  rw [remaining, List.length_drop, Array.length_toList, List.length_cons] at length
  have : text.size = text.data.size := rfl
  omega

theorem getElem_of_remaining (rest : remaining text pos = b :: bs) (h : pos < text.size) :
    text[pos] = b := by
  have found := get_of_remaining rest
  rw [getElem?_pos text pos h] at found
  exact Option.some_inj.1 found

theorem remaining_next (rest : remaining text pos = b :: bs) : remaining text (pos + 1) = bs := by
  rw [remaining, ← List.tail_drop]
  exact congrArg List.tail rest

theorem remaining_skip (rest : remaining text pos = xs ++ ys) :
    remaining text (pos + xs.length) = ys := by
  rw [remaining, ← List.drop_drop]
  rw [remaining] at rest
  rw [rest, List.drop_left]

/-! ## Strings -/

/-- Whether a byte stands for itself in a string. -/
def isPlainByte (b : UInt8) : Bool := !(b = 34 || b = 92 || b < 32)

theorem skipPlain_plain (rest : remaining text pos = b :: bs) (plain : isPlainByte b = true) :
    skipPlain text pos = skipPlain text (pos + 1) := by
  have within := lt_of_remaining rest
  rw [skipPlain, dif_pos within]
  simp only [getElem_of_remaining rest within]
  rw [if_neg (by simpa [isPlainByte] using plain)]

theorem skipPlain_special (rest : remaining text pos = b :: bs) (special : isPlainByte b = false) :
    skipPlain text pos = pos := by
  have within := lt_of_remaining rest
  rw [skipPlain, dif_pos within]
  simp only [getElem_of_remaining rest within]
  rw [if_pos (by simpa only [isPlainByte, Bool.not_eq_false'] using special)]

theorem toList_extract (text : ByteArray) (i j : Nat) :
    (text.extract i j).data.toList = (remaining text i).take (j - i) := by
  rw [ByteArray.data_extract, Array.toList_extract, List.extract_eq_take_drop, remaining]

/-- The first byte of a piece may as well be put behind what was read before. -/
theorem append_extract (rest : remaining text pos = b :: bs) {p : Nat} (le : pos + 1 ≤ p)
    (acc : ByteArray) : acc ++ text.extract pos p = acc.push b ++ text.extract (pos + 1) p := by
  apply ByteArray.ext
  apply Array.toList_inj.1
  rw [ByteArray.toList_data_append, ByteArray.toList_data_append, toList_extract, toList_extract,
    remaining_next rest, rest, ByteArray.data_push, Array.toList_push]
  obtain ⟨n, rfl⟩ := Nat.exists_eq_add_of_le le
  have length : pos + 1 + n - pos = n + 1 := by omega
  rw [length, List.take_succ_cons, Nat.add_sub_cancel_left, List.append_assoc]
  rfl

/-- **A byte that stands for itself is put behind what was read.** -/
theorem readStringBytes_plain (rest : remaining text pos = b :: bs)
    (plain : isPlainByte b = true) (acc : ByteArray) :
    readStringBytes text pos acc = readStringBytes text (pos + 1) (acc.push b) := by
  have le := le_skipPlain text (pos + 1)
  have piece := append_extract rest le acc
  rw [readStringBytes, readStringBytes, skipPlain_plain rest plain]
  generalize skipPlain text (pos + 1) = p at le piece
  have before : (if pos < p then acc ++ text.extract pos p else acc) =
      if pos + 1 < p then acc.push b ++ text.extract (pos + 1) p else acc.push b := by
    rw [if_pos (show pos < p from le), piece]
    split
    · rfl
    · obtain rfl : p = pos + 1 := by omega
      apply ByteArray.ext
      apply Array.toList_inj.1
      rw [ByteArray.toList_data_append, toList_extract, Nat.sub_self, List.take_zero,
        List.append_nil]
  simp only [before]

/-- A quote ends the string. -/
theorem readStringBytes_quote (rest : remaining text pos = 34 :: bs) (acc : ByteArray) :
    readStringBytes text pos acc = .ok (acc, pos + 1) := by
  have within := lt_of_remaining rest
  rw [readStringBytes, skipPlain_special rest (by decide)]
  simp [within, getElem_of_remaining rest within]

/-- **What a backslash begins is put behind what was read.** -/
theorem readStringBytes_escape {c : Char} {q : Nat} (rest : remaining text pos = 92 :: bs)
    (escape : readEscape text (pos + 1) = .ok (c, q)) (le : pos + 1 ≤ q) (acc : ByteArray) :
    readStringBytes text pos acc = readStringBytes text q (acc ++ c.toString.toUTF8) := by
  have within := lt_of_remaining rest
  rw [readStringBytes, skipPlain_special rest (by decide)]
  simp [within, getElem_of_remaining rest within, escape, Nat.max_eq_right le]

/-! ## Characters -/

/-- The bytes of a text. -/
def spelt (cs : List Char) : List UInt8 := cs.flatMap String.utf8EncodeChar

theorem spelt_append (cs ds : List Char) : spelt (cs ++ ds) = spelt cs ++ spelt ds :=
  List.flatMap_append

/-- The characters that are escaped by a letter, and that letter. -/
def letters : List (Char × UInt8) :=
  [('"', 34), ('\\', 92), ('\n', 110), ('\r', 114), ('\t', 116), ('\x08', 98), ('\x0c', 102)]

variable {c : Char}

theorem spelt_escapeChar_of_letter (letter : (c, b) ∈ letters) :
    spelt (escapeChar c) = [92, b] := by
  simp only [letters, List.mem_cons, List.not_mem_nil, or_false, Prod.mk.injEq] at letter
  rcases letter with ⟨rfl, rfl⟩ | ⟨rfl, rfl⟩ | ⟨rfl, rfl⟩ | ⟨rfl, rfl⟩ | ⟨rfl, rfl⟩ | ⟨rfl, rfl⟩ |
    ⟨rfl, rfl⟩ <;> decide

theorem readEscape_of_letter (letter : (c, b) ∈ letters) (rest : remaining text pos = b :: bs) :
    readEscape text pos = .ok (c, pos + 1) := by
  rw [readEscape, get_of_remaining rest]
  simp only [letters, List.mem_cons, List.not_mem_nil, or_false, Prod.mk.injEq] at letter
  rcases letter with ⟨rfl, rfl⟩ | ⟨rfl, rfl⟩ | ⟨rfl, rfl⟩ | ⟨rfl, rfl⟩ | ⟨rfl, rfl⟩ | ⟨rfl, rfl⟩ |
    ⟨rfl, rfl⟩ <;> rfl

/-- Two digits of a control character. -/
theorem hexValue?_hexDigit : ∀ n < 32,
    (hexDigit (n / 16)).toNat < 128 ∧ (hexDigit n).toNat < 128 ∧
    hexValue? (UInt8.ofNat (hexDigit (n / 16)).toNat) = some (n / 16) ∧
      hexValue? (UInt8.ofNat (hexDigit n).toNat) = some (n % 16) := by
  decide

theorem isPlainByte_iff : isPlainByte b = true ↔ b.toNat ≠ 34 ∧ b.toNat ≠ 92 ∧ 32 ≤ b.toNat := by
  simp only [isPlainByte, Bool.not_eq_true', Bool.or_eq_false_iff, decide_eq_false_iff_not,
    UInt8.lt_iff_toNat_lt, ← UInt8.toNat_inj, UInt8.reduceToNat, Nat.not_lt, and_assoc, ne_eq]

/-- A character that is not escaped has plain bytes. -/
theorem isPlainByte_encode (notQuote : c ≠ '"') (notBackslash : c ≠ '\\') (printed : 32 ≤ c.toNat) :
    ∀ b ∈ String.utf8EncodeChar c, isPlainByte b = true := by
  intro b mem
  rw [isPlainByte_iff]
  by_cases narrow : c.toNat < 128
  · rw [Text.encode_narrow narrow, List.mem_singleton] at mem
    have number : b.toNat = c.toNat := by
      rw [mem, UInt8.toNat_ofNat', Nat.mod_eq_of_lt (by omega)]
    have other {d : Char} (ne : c ≠ d) : c.toNat ≠ d.toNat := fun same =>
      ne (by rw [← Char.ofNat_toNat c, same, Char.ofNat_toNat])
    rw [number]
    exact ⟨other notQuote, other notBackslash, printed⟩
  · have wide := Text.encode_wide (Nat.le_of_not_lt narrow) b mem
    omega

/-- What the printer makes of a character: a backslash and a letter, four digits, or itself. -/
theorem escapeChar_cases (c : Char) :
    (∃ b, (c, b) ∈ letters) ∨
    (c.toNat < 32 ∧
      escapeChar c = ['\\', 'u', '0', '0', hexDigit (c.toNat / 16), hexDigit c.toNat]) ∨
    (escapeChar c = [c] ∧ ∀ b ∈ String.utf8EncodeChar c, isPlainByte b = true) := by
  by_cases letter : ∃ b, (c, b) ∈ letters
  · exact .inl letter
  · have other {d : Char} {b : UInt8} (mem : (d, b) ∈ letters) : c ≠ d := fun same =>
      letter ⟨b, same ▸ mem⟩
    have notQuote : c ≠ '"' := other (b := 34) (by decide)
    have notBackslash : c ≠ '\\' := other (b := 92) (by decide)
    rw [escapeChar, if_neg notQuote, if_neg notBackslash, if_neg (other (b := 110) (by decide)),
      if_neg (other (b := 114) (by decide)), if_neg (other (b := 116) (by decide)),
      if_neg (other (b := 98) (by decide)), if_neg (other (b := 102) (by decide))]
    by_cases small : c.toNat < 32
    · exact .inr (.inl ⟨small, if_pos small⟩)
    · have printed : 32 ≤ c.toNat := Nat.le_of_not_lt small
      exact .inr (.inr ⟨if_neg small, isPlainByte_encode notQuote notBackslash printed⟩)

/-- The digits of a control character are read. -/
theorem readEscape_unicode (small : c.toNat < 32)
    (rest : remaining text pos =
      spelt ['u', '0', '0', hexDigit (c.toNat / 16), hexDigit c.toNat] ++ ys) :
    readEscape text pos = .ok (c, pos +
      (spelt ['u', '0', '0', hexDigit (c.toNat / 16), hexDigit c.toNat]).length) := by
  obtain ⟨narrow₁, narrow₂, digit₁, digit₂⟩ := hexValue?_hexDigit c.toNat small
  have bytes : spelt ['u', '0', '0', hexDigit (c.toNat / 16), hexDigit c.toNat] =
      [117, 48, 48, UInt8.ofNat (hexDigit (c.toNat / 16)).toNat,
        UInt8.ofNat (hexDigit c.toNat).toNat] := by
    simp only [spelt, List.flatMap_cons, List.flatMap_nil, Text.encode_narrow narrow₁,
      Text.encode_narrow narrow₂]
    rfl
  rw [bytes] at rest ⊢
  have at₁ := remaining_next rest
  have at₂ : remaining text (pos + 1 + 1) = _ := remaining_next at₁
  have at₃ : remaining text (pos + 1 + 2) = _ := remaining_next at₂
  have at₄ : remaining text (pos + 1 + 3) = _ := remaining_next at₃
  have within : pos + 1 + 4 ≤ text.size := lt_of_remaining at₄
  have value : ((0 * 16 + 0) * 16 + c.toNat / 16) * 16 + c.toNat % 16 = c.toNat := by omega
  have read : readHex text (pos + 1) = .ok (c.toNat, pos + 1 + 4) := by
    rw [readHex, if_pos within, get_of_remaining at₁, get_of_remaining at₂, get_of_remaining at₃,
      get_of_remaining at₄]
    simp only [Option.bind_some, digit₁, digit₂, show hexValue? 48 = some 0 from rfl, value]
  rw [readEscape, get_of_remaining rest]
  have notTrail : ¬ (0xDC00 ≤ c.toNat && c.toNat ≤ 0xDFFF) = true := by simp; omega
  have notLead : (c.toNat < 0xD800 || 0xDFFF < c.toNat) = true := by simp; omega
  simp only [readUnicode, read, bind, Except.bind, if_neg notTrail, if_pos notLead,
    Char.ofNat_toNat]
  rfl

/-- Bytes that stand for themselves are put behind what was read. -/
theorem readStringBytes_plains (plain : ∀ b ∈ xs, isPlainByte b = true)
    (rest : remaining text pos = xs ++ ys) (acc : ByteArray) :
    readStringBytes text pos acc =
      readStringBytes text (pos + xs.length) (acc ++ ⟨xs.toArray⟩) := by
  induction xs generalizing pos acc with
  | nil =>
    have nothing : acc ++ ⟨[].toArray⟩ = acc := ByteArray.append_empty
    rw [nothing]
    rfl
  | cons b xs ih =>
    rw [readStringBytes_plain rest (plain b List.mem_cons_self),
      ih (fun b mem => plain b (List.mem_cons_of_mem _ mem)) (remaining_next rest)]
    have bytes : acc.push b ++ ⟨xs.toArray⟩ = acc ++ ⟨(b :: xs).toArray⟩ := by
      apply ByteArray.ext
      apply Array.toList_inj.1
      simp
    rw [bytes, List.length_cons, Nat.add_assoc, Nat.add_comm 1]

theorem toUTF8_toString (c : Char) : c.toString.toUTF8 = ⟨(String.utf8EncodeChar c).toArray⟩ := by
  apply ByteArray.ext
  apply Array.toList_inj.1
  rw [Text.toList_toUTF8]
  simp

/-- **What the printer makes of a character is read as that character.** -/
theorem readStringBytes_escapeChar (rest : remaining text pos = spelt (escapeChar c) ++ ys)
    (acc : ByteArray) :
    readStringBytes text pos acc =
      readStringBytes text (pos + (spelt (escapeChar c)).length) (acc ++ c.toString.toUTF8) := by
  rcases escapeChar_cases c with ⟨b, letter⟩ | ⟨small, digits⟩ | ⟨itself, plain⟩
  · rw [spelt_escapeChar_of_letter letter] at rest ⊢
    have escape := readEscape_of_letter letter (remaining_next rest)
    exact readStringBytes_escape rest escape (by omega) acc
  · rw [digits] at rest ⊢
    have escape := readEscape_unicode small (remaining_next rest)
    rw [readStringBytes_escape rest escape (by omega), Nat.add_right_comm]
    rfl
  · rw [itself, spelt, List.flatMap_singleton] at rest ⊢
    rw [readStringBytes_plains plain rest, toUTF8_toString]

/-! ## Texts -/

theorem foldl_push (cs : List Char) (s : String) :
    (cs.foldl String.push s).toList = s.toList ++ cs := by
  induction cs generalizing s with
  | nil => simp
  | cons c cs ih => simp [ih]

theorem toList_renderString (s : String) :
    (renderString s).toList = '"' :: s.toList.flatMap escapeChar ++ ['"'] := by
  have fold (cs : List Char) (acc : String) :
      (cs.foldl (fun acc c => (escapeChar c).foldl String.push acc) acc).toList =
        acc.toList ++ cs.flatMap escapeChar := by
    induction cs generalizing acc with
    | nil => simp
    | cons c cs ih => simp [ih, foldl_push]
  rw [renderString, String.toList_push, String.foldl_eq_foldl_toList, fold]
  rfl

/-- The bytes of a string, with its quotes. -/
def quoted (s : String) : List UInt8 := spelt (renderString s).toList

theorem quoted_eq (s : String) :
    quoted s = 34 :: (spelt (s.toList.flatMap escapeChar) ++ [34]) := by
  rw [quoted, toList_renderString, List.cons_append, spelt, List.flatMap_cons, ← spelt,
    spelt_append]
  rfl

/-- **A string is read back**, whatever characters it has. -/
theorem readStringBytes_spelt (cs : List Char) (acc : ByteArray)
    (rest : remaining text pos = spelt (cs.flatMap escapeChar) ++ 34 :: ys) :
    ∃ q, readStringBytes text pos acc = .ok (acc ++ (String.ofList cs).toUTF8, q) ∧ pos < q ∧
      remaining text q = ys := by
  induction cs generalizing pos acc with
  | nil =>
    refine ⟨pos + 1, ?_, Nat.lt_succ_self _, remaining_next rest⟩
    rw [readStringBytes_quote rest]
    exact congrArg (fun bytes => Except.ok (bytes, pos + 1)) ByteArray.append_empty.symm
  | cons c cs ih =>
    rw [List.flatMap_cons, spelt_append, List.append_assoc] at rest
    obtain ⟨q, read, lt, rest'⟩ := ih (acc ++ c.toString.toUTF8) (remaining_skip rest)
    refine ⟨q, ?_, by omega, rest'⟩
    have text_eq : String.ofList (c :: cs) = c.toString ++ String.ofList cs := by
      apply String.toList_inj.1
      simp
    rw [readStringBytes_escapeChar rest, read, ByteArray.append_assoc, text_eq,
      String.toUTF8_eq_toByteArray, String.toUTF8_eq_toByteArray, String.toUTF8_eq_toByteArray,
      String.toByteArray_append]

theorem readString_quoted (s : String) (rest : remaining text pos = quoted s ++ ys) :
    ∃ q, readString text (pos + 1) = .ok (s, q) ∧ pos < q ∧ remaining text q = ys := by
  rw [quoted_eq, List.cons_append, List.append_assoc] at rest
  have inside := remaining_next rest
  obtain ⟨q, read, lt, rest'⟩ := readStringBytes_spelt s.toList ByteArray.empty inside
  refine ⟨q, ?_, by omega, rest'⟩
  simp only [readString, read, bind, Except.bind]
  rw [ByteArray.empty_append, String.ofList_toList, fromUTF8?_toUTF8]

/-! ## Values -/

/-- Whether a value has no parts and is no number. -/
def isScalar : Json → Bool
  | .null | .bool _ | .string _ => true
  | _ => false

variable {j : Json}

theorem renderTo_scalar (scalar : j.isScalar = true) (acc : String) :
    renderTo acc j = acc ++ j.render := by
  cases j with
  | null | bool | string => simp [render, renderTo]
  | number | array | object => cases scalar

theorem readWord_spelt (rest : remaining text pos = xs ++ ys) :
    readWord text pos xs = .ok (pos + xs.length) := by
  induction xs generalizing pos with
  | nil => rfl
  | cons b xs ih =>
    rw [readWord, get_of_remaining rest]
    simp only [if_true]
    rw [ih (remaining_next rest), List.length_cons, Nat.add_assoc, Nat.add_comm 1]

/-- **A value without parts is read back.** -/
theorem readValue_scalar (scalar : j.isScalar = true) (depth : Nat)
    (rest : remaining text pos = spelt j.render.toList ++ ys) :
    ∃ q, readValue text depth pos = (j.toDocument, some q) ∧ pos < q ∧ remaining text q = ys := by
  cases j with
  | null =>
    have spelling : spelt (render .null).toList = [110, 117, 108, 108] := by decide
    rw [spelling] at rest
    have word : readWord text (pos + 1) [117, 108, 108] = .ok (pos + 4) :=
      readWord_spelt (remaining_next rest)
    refine ⟨pos + 4, ?_, by omega, remaining_skip rest⟩
    rw [readValue.eq_def]
    simp only [get_of_remaining rest, readValue.word, word, toDocument]
  | bool b =>
    cases b with
    | true =>
      have spelling : spelt (render (.bool true)).toList = [116, 114, 117, 101] := by decide
      rw [spelling] at rest
      have word : readWord text (pos + 1) [114, 117, 101] = .ok (pos + 4) :=
        readWord_spelt (remaining_next rest)
      refine ⟨pos + 4, ?_, by omega, remaining_skip rest⟩
      rw [readValue.eq_def]
      simp only [get_of_remaining rest, readValue.word, word, toDocument]
    | false =>
      have spelling : spelt (render (.bool false)).toList = [102, 97, 108, 115, 101] := by decide
      rw [spelling] at rest
      have word : readWord text (pos + 1) [97, 108, 115, 101] = .ok (pos + 5) :=
        readWord_spelt (remaining_next rest)
      refine ⟨pos + 5, ?_, by omega, remaining_skip rest⟩
      rw [readValue.eq_def]
      simp only [get_of_remaining rest, readValue.word, word, toDocument]
  | string s =>
    have spelling : spelt (render (.string s)).toList = quoted s := by
      simp [render, renderTo, quoted]
    rw [spelling] at rest
    obtain ⟨q, read, lt, rest'⟩ := readString_quoted s rest
    refine ⟨q, ?_, lt, rest'⟩
    rw [quoted_eq] at rest
    rw [readValue.eq_def]
    simp only [get_of_remaining rest, read, Reading.ofScalar, toDocument]
  | number | array | object => cases scalar

/-! ## Fields -/

theorem skipSpace_of_token (rest : remaining text pos = b :: bs) (token : isSpaceByte b = false) :
    skipSpace text pos = pos := by
  have within := lt_of_remaining rest
  rw [skipSpace, dif_pos within, getElem_of_remaining rest within, if_neg (by simp [token])]

theorem size_le_of_end (rest : remaining text pos = []) : text.size ≤ pos := by
  rw [remaining, List.drop_eq_nil_iff, Array.length_toList] at rest
  exact rest

theorem skipSpace_of_end (rest : remaining text pos = []) : skipSpace text pos = pos := by
  rw [skipSpace, dif_neg (Nat.not_lt_of_le (size_le_of_end rest))]

/-- A value without parts begins with no blank. -/
theorem exists_token (scalar : j.isScalar = true) :
    ∃ b bs, spelt j.render.toList = b :: bs ∧ isSpaceByte b = false := by
  cases j with
  | null => exact ⟨110, _, rfl, by decide⟩
  | bool b => cases b with
    | true => exact ⟨116, _, rfl, by decide⟩
    | false => exact ⟨102, _, rfl, by decide⟩
  | string s =>
    have spelling : spelt (render (.string s)).toList = quoted s := by
      simp [render, renderTo, quoted]
    exact ⟨34, _, spelling.trans (quoted_eq s), by decide⟩
  | number | array | object => cases scalar

/-- The text of a field. -/
def fieldText (f : String × Json) : List UInt8 := quoted f.1 ++ 58 :: spelt f.2.render.toList

/-- The text of fields that stand behind others, and of the end of the object. -/
def fieldBytes : List (String × Json) → List UInt8
  | [] => [125]
  | f :: fs => 44 :: (fieldText f ++ fieldBytes fs)

variable {f : String × Json} {fs : List (String × Json)}

/-- The text of a field begins with the quote of its key. -/
theorem remaining_field (rest : remaining text pos = fieldText f ++ ys) :
    ∃ bs, remaining text pos = 34 :: bs := by
  rw [rest, fieldText, quoted_eq]
  exact ⟨_, rfl⟩

/-- A field is read back. -/
theorem readField_spelt (depth : Nat) (scalar : f.2.isScalar = true)
    (rest : remaining text pos = fieldText f ++ ys) :
    ∃ q, readField text (readValue text depth) pos = .ok (f.1, f.2.toDocument, some q) ∧ pos < q ∧
      remaining text q = ys := by
  rw [fieldText, List.append_assoc] at rest
  obtain ⟨p, key, lt, colon⟩ := readString_quoted f.1 rest
  obtain ⟨b, bs, spelling, token⟩ := exists_token scalar
  have value := remaining_next colon
  have start : skipSpace text (p + 1) = p + 1 := by
    have begins : remaining text (p + 1) = b :: (bs ++ ys) := by
      rw [value, spelling]
      rfl
    exact skipSpace_of_token begins token
  obtain ⟨q, read, lt', rest'⟩ := readValue_scalar scalar depth value
  refine ⟨q, ?_, by omega, rest'⟩
  simp only [readField, key, bind, Except.bind, skipSpace_of_token colon (by decide),
    get_of_remaining colon, start, read]

/-- **The fields of an object are read back.** -/
theorem readFields_spelt (depth : Nat) (scalars : ∀ f ∈ fs, f.2.isScalar = true)
    (acc : List (String × Document)) (rest : remaining text pos = fieldBytes fs ++ ys) :
    ∃ q, readFields text (readValue text depth) pos acc =
      (.object (acc.reverse ++ toFieldDocuments fs) none, some q) ∧ remaining text q = ys := by
  induction fs generalizing pos acc with
  | nil =>
    have within := lt_of_remaining rest
    refine ⟨pos + 1, ?_, remaining_next rest⟩
    rw [readFields, skipSpace_of_token rest (by decide)]
    simp [within, getElem_of_remaining rest within, toFieldDocuments]
  | cons f fs ih =>
    rw [fieldBytes, List.cons_append, List.append_assoc] at rest
    have within := lt_of_remaining rest
    have field := remaining_next rest
    obtain ⟨bs, quote⟩ := remaining_field field
    obtain ⟨q, read, lt, rest'⟩ :=
      readField_spelt depth (scalars f List.mem_cons_self) field
    obtain ⟨r, read', rest''⟩ :=
      ih (fun f mem => scalars f (List.mem_cons_of_mem _ mem)) ((f.1, f.2.toDocument) :: acc) rest'
    refine ⟨r, ?_, rest''⟩
    rw [readFields, skipSpace_of_token rest (by decide)]
    simp only [within, getElem_of_remaining rest within, skipSpace_of_token quote (by decide),
      get_of_remaining quote, read]
    rw [Nat.max_eq_right (by omega), read']
    simp [toFieldDocuments]

theorem spelt_field (scalar : f.2.isScalar = true) (acc : String) :
    spelt (renderTo ((acc ++ renderString f.1).push ':') f.2).toList =
      spelt acc.toList ++ fieldText f := by
  rw [renderTo_scalar scalar, String.toList_append, String.toList_push, String.toList_append,
    spelt_append, spelt_append, spelt_append, fieldText, quoted, List.append_assoc,
    List.append_assoc]
  rfl

theorem spelt_renderFields (scalars : ∀ f ∈ fs, f.2.isScalar = true) (acc : String) :
    spelt (renderFields acc false fs).toList ++ [125] = spelt acc.toList ++ fieldBytes fs := by
  induction fs generalizing acc with
  | nil => rfl
  | cons f fs ih =>
    have behind := ih fun f mem => scalars f (List.mem_cons_of_mem _ mem)
    have field := spelt_field (scalars f List.mem_cons_self) (acc.push ',')
    rw [renderFields, behind]
    simp only [Bool.false_eq_true, if_false]
    rw [field, String.toList_push, spelt_append, fieldBytes, List.append_assoc, List.append_assoc]
    rfl

/-- What stands behind the opening brace of an object. -/
def objectBytes : List (String × Json) → List UInt8
  | [] => [125]
  | f :: fs => fieldText f ++ fieldBytes fs

/-- The text of an object. -/
theorem spelt_render_object (scalars : ∀ f ∈ fs, f.2.isScalar = true) :
    spelt (render (.object fs)).toList = 123 :: objectBytes fs := by
  rw [render, renderTo, String.toList_push, spelt_append]
  cases fs with
  | nil => rfl
  | cons f fs =>
    have behind := spelt_renderFields fun f mem => scalars f (List.mem_cons_of_mem _ mem)
    have field := spelt_field (scalars f List.mem_cons_self) (String.push "" '\x7b')
    rw [renderFields]
    simp only [if_true]
    exact (behind _).trans (by rw [field]; rfl)

/-- **An object is read back.** -/
theorem readObject_spelt (depth : Nat) (scalars : ∀ f ∈ fs, f.2.isScalar = true)
    (rest : remaining text pos = objectBytes fs ++ ys) :
    ∃ q, readObject text (readValue text depth) pos = (toDocument (.object fs), some q) ∧
      remaining text q = ys := by
  cases fs with
  | nil =>
    refine ⟨pos + 1, ?_, remaining_next rest⟩
    rw [readObject, skipSpace_of_token rest (by decide)]
    simp only [get_of_remaining rest]
    rfl
  | cons f fs =>
    rw [objectBytes, List.append_assoc] at rest
    obtain ⟨bs, quote⟩ := remaining_field rest
    obtain ⟨q, read, lt, rest'⟩ :=
      readField_spelt depth (scalars f List.mem_cons_self) rest
    obtain ⟨r, read', rest''⟩ := readFields_spelt depth
      (fun f mem => scalars f (List.mem_cons_of_mem _ mem)) [(f.1, f.2.toDocument)] rest'
    refine ⟨r, ?_, rest''⟩
    rw [readObject, skipSpace_of_token quote (by decide)]
    simp only [get_of_remaining quote, read, read']
    rfl

/-- **What is printed is read back**: an object of values without parts, none of them a number. -/
theorem parse_render_object (scalars : ∀ f ∈ fs, f.2.isScalar = true) :
    parse (render (.object fs)).toUTF8 = .ok (.object fs) := by
  have rest : remaining (render (.object fs)).toUTF8 0 = 123 :: (objectBytes fs ++ []) := by
    rw [remaining, List.drop_zero, Text.toList_toUTF8, ← spelt, spelt_render_object scalars,
      List.append_nil]
  obtain ⟨q, read, done⟩ := readObject_spelt 126 scalars (remaining_next rest)
  have value : readValue (render (.object fs)).toUTF8 nestingLimit 0 =
      (toDocument (.object fs), some q) := by
    rw [nestingLimit, readValue.eq_def]
    simp only [get_of_remaining rest, read]
  have whole : Document.read (render (.object fs)).toUTF8 = (toDocument (.object fs), none) := by
    rw [Document.read, skipSpace_of_token rest (by decide), value]
    simp only [skipSpace_of_end done, if_neg (Nat.not_lt_of_le (size_le_of_end done))]
  rw [parse, whole]
  simp only [value_toDocument]

end HookRelay.Json
