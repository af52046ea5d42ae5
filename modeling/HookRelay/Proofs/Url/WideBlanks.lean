import HookRelay.Proofs.Text.Bytes
import HookRelay.Proofs.Url.Cleaned
import HookRelay.Proofs.Url.Hosted
import Mathlib.Data.List.Basic

/-!
# Wide blanks behind a host

A blank beyond ASCII is not dropped when an address is read, and no host is spelled with one. An
authority whose last character is such a blank is that of no address: the blank is part of the host
or of the port, since only a few characters of ASCII end those.

The name of a host is percent-decoded before it is read as a domain name. What is decoded are
characters of ASCII, so that the bytes of the blank come out behind whatever stands before them, and
as no character ends in the bytes of another one, the decoded text ends in the blank again.

## Main statements

* `Text.exists_concat_of_bytes` : a text ends in the character that its bytes end in
* `Idna.toAscii?_of_isBlank` : no domain name holds a blank
* `Url.Host.not_read_of_wide`, `Url.not_readable_of_wide` : no host, and no authority, ends in a
  wide blank
-/

namespace HookRelay

/-! ## Bytes -/

namespace Text

variable {c d : Char} {s : String}

/-- The bytes of an array as a list, counted from the first one. -/
theorem toList_loop (bytes : ByteArray) (i : Nat) (acc : List UInt8) :
    ByteArray.toList.loop bytes i acc = acc.reverse ++ bytes.data.toList.drop i := by
  fun_induction ByteArray.toList.loop bytes i acc with
  | case1 i acc inside ih =>
    have inside' : i < bytes.data.toList.length := by simpa using inside
    rw [ih, List.drop_eq_getElem_cons inside', List.reverse_cons, List.append_assoc,
      List.singleton_append, Array.getElem_toList]
    simp [ByteArray.get!, inside]
  | case2 i acc outside =>
    rw [List.drop_eq_nil_of_le (by simpa using Nat.le_of_not_lt outside), List.append_nil]

theorem toList_bytes (bytes : ByteArray) : bytes.toList = bytes.data.toList := by
  rw [ByteArray.toList, toList_loop]
  rfl

theorem encode_injective (same : String.utf8EncodeChar c = String.utf8EncodeChar d) : c = d := by
  have texts : String.ofList [c] = String.ofList [d] := by
    rw [← String.toByteArray_inj, String.toByteArray_ofList, String.toByteArray_ofList]
    simp [List.utf8Encode, same]
  simpa using texts

/-- No character ends in the bytes of another one: of the bytes of a character, only the first one
can begin a character. -/
theorem eq_of_encode_suffix (suffix : String.utf8EncodeChar d <:+ String.utf8EncodeChar c) :
    d = c := by
  obtain ⟨front, whole⟩ := suffix
  have some_byte : 0 < (String.utf8EncodeChar d).length := List.length_pos_iff.2 (encode_ne_nil d)
  have first : ((String.utf8EncodeChar d)[0]).IsUTF8FirstByte :=
    UInt8.isUTF8FirstByte_getElem_utf8EncodeChar.2 rfl
  have inside : front.length < (String.utf8EncodeChar c).length := by
    rw [← whole, List.length_append]
    omega
  have begins : ((String.utf8EncodeChar c)[front.length]).IsUTF8FirstByte := by
    simp only [← whole, List.getElem_append_right (Nat.le_refl _), Nat.sub_self]
    exact first
  have none_before : front.length = 0 := UInt8.isUTF8FirstByte_getElem_utf8EncodeChar.1 begins
  rw [List.length_eq_zero_iff] at none_before
  rw [none_before, List.nil_append] at whole
  exact encode_injective whole

/-- **A text ends in the character that its bytes end in.** -/
theorem exists_concat_of_bytes {front : List UInt8}
    (bytes : s.toUTF8.data.toList = front ++ String.utf8EncodeChar c) :
    ∃ before, s.toList = before ++ [c] := by
  rw [toList_toUTF8] at bytes
  obtain none | ⟨before, d, last⟩ := List.eq_nil_or_concat s.toList
  · rw [none] at bytes
    exact absurd (List.append_eq_nil_iff.1 bytes.symm).2 (encode_ne_nil c)
  · rw [List.concat_eq_append] at last
    rw [last, List.flatMap_append, List.flatMap_singleton] at bytes
    refine ⟨before, ?_⟩
    rw [last]
    obtain ⟨more, -, suffix⟩ | ⟨more, -, suffix⟩ := List.append_eq_append_iff.1 bytes
    · rw [eq_of_encode_suffix ⟨more, suffix.symm⟩]
    · rw [eq_of_encode_suffix ⟨more, suffix.symm⟩]

/-- Wide blanks lie beyond ASCII. -/
theorem le_toNat_of_isWide (wide : isWide c = true) : 128 ≤ c.toNat := by
  simp only [isWide, isBlank, Bool.and_eq_true, Bool.or_eq_true, decide_eq_true_eq,
    beq_iff_eq] at wide
  omega

/-- A wide blank is none of the characters that mean something in an address. -/
theorem ne_of_isWide (wide : isWide c = true) (narrow : d.toNat < 128) : c ≠ d := by
  rintro rfl
  exact absurd (le_toNat_of_isWide wide) (Nat.not_le_of_lt narrow)

theorem hexDigit?_of_wide {b : UInt8} (wide : 128 ≤ b.toNat) : hexDigit? b = none := by
  simp only [hexDigit?, Bool.and_eq_true, decide_eq_true_eq, UInt8.le_iff_toNat_le]
  have bounds : (57 : UInt8).toNat = 57 ∧ (70 : UInt8).toNat = 70 ∧ (102 : UInt8).toNat = 102 := by
    decide
  rw [if_neg (by omega), if_neg (by omega), if_neg (by omega)]

/-- A byte stays unless a complete triple begins with it. -/
theorem percentDecodeBytes_cons {b : UInt8} {bytes : List UInt8}
    (incomplete : ∀ x y rest, b = 37 → bytes = x :: y :: rest →
      hexDigit? x = none ∨ hexDigit? y = none) :
    percentDecodeBytes (b :: bytes) = b :: percentDecodeBytes bytes := by
  rw [percentDecodeBytes.eq_def]
  split
  · next x y rest whole =>
    obtain ⟨rfl, rfl⟩ := List.cons.inj whole
    split
    · next high low => simpa [high, low] using incomplete x y rest rfl rfl
    · rfl
  · next whole =>
    obtain ⟨rfl, rfl⟩ := List.cons.inj whole
    rfl
  · next whole => cases whole

theorem percentDecodeBytes_of_wide {bytes : List UInt8} (wide : ∀ b ∈ bytes, 128 ≤ b.toNat) :
    percentDecodeBytes bytes = bytes := by
  induction bytes with
  | nil => rfl
  | cons b bytes ih =>
    rw [percentDecodeBytes_cons fun x y rest _ whole => .inl ?_,
      ih fun b mem => wide b (.tail _ mem)]
    exact hexDigit?_of_wide (wide x (by simp [whole]))

/-- What is decoded is ASCII: bytes beyond it come out as they are, whatever stands before them. -/
theorem percentDecodeBytes_append {behind : List UInt8} (wide : ∀ b ∈ behind, 128 ≤ b.toNat)
    (bytes : List UInt8) :
    percentDecodeBytes (bytes ++ behind) = percentDecodeBytes bytes ++ behind := by
  fun_induction percentDecodeBytes bytes with
  | case1 a b rest x y high low ih =>
    simp only [List.cons_append, percentDecodeBytes, high, low, ih]
  | case2 a b rest incomplete ih =>
    rw [List.cons_append, percentDecodeBytes_cons, ih, List.cons_append]
    rintro x y rest' - whole
    obtain ⟨rfl, rfl, -⟩ : a = x ∧ b = y ∧ rest ++ behind = rest' := by simpa using whole
    by_contra complete
    simp only [not_or, ← ne_eq, Option.ne_none_iff_exists'] at complete
    obtain ⟨⟨x, high⟩, ⟨y, low⟩⟩ := complete
    exact incomplete x y high low
  | case3 b rest alone ih =>
    -- what completes a triple here would be one of the bytes beyond ASCII
    rw [List.cons_append, percentDecodeBytes_cons, ih, List.cons_append]
    rintro x y rest' rfl whole
    match rest, whole with
    | [], whole => exact .inl (hexDigit?_of_wide (wide x (by simp_all)))
    | [a], whole => exact .inr (hexDigit?_of_wide (wide y (by simp_all)))
    | a :: b :: rest, _ => exact absurd rfl (alone a b rest rfl)
  | case4 => exact percentDecodeBytes_of_wide wide

end Text

/-! ## Domain names -/

namespace Idna

variable {c : Char} {name : List Char}

theorem mapChars_of_isBlank (mem : c ∈ name) (blank : Text.isBlank c = true) :
    mapChars name = none := by
  induction name with
  | nil => cases mem
  | cons d name ih =>
    rw [mapChars]
    split
    · rfl
    · next notBlank =>
      obtain rfl | mem := List.mem_cons.1 mem
      · exact absurd blank notBlank
      · rw [ih mem]
        cases fate d <;> rfl

/-- **No domain name holds a blank.** -/
theorem toAscii?_of_isBlank (mem : c ∈ name) (blank : Text.isBlank c = true) :
    toAscii? name = none := by
  rw [toAscii?, mapChars_of_isBlank mem blank]
  rfl

end Idna

/-! ## Hosts and authorities -/

namespace Url

variable {c : Char} {cs before : List Char} {host : Host} {scheme : String}

/-- The decoded name of a host ends in the wide blank that the host ends in. -/
theorem Host.decoded_of_wide (wide : Text.isWide c = true) {s : String}
    (decoded : String.fromUTF8? (Text.percentDecode (String.ofList (before ++ [c]))) = some s) :
    c ∈ s.toList := by
  have bytes := congrArg (fun b => b.data.toList) (toUTF8_of_fromUTF8? decoded)
  simp only [Text.percentDecode, Text.toList_bytes, Text.toList_toUTF8, String.toList_ofList,
    List.flatMap_append, List.flatMap_singleton] at bytes
  rw [Text.percentDecodeBytes_append (Text.encode_wide (Text.le_toNat_of_isWide wide)),
    ← Text.toList_toUTF8] at bytes
  obtain ⟨front, ended⟩ := Text.exists_concat_of_bytes bytes
  simp [ended]

/-- **No host ends in a wide blank.** -/
theorem Host.not_read_of_wide (wide : Text.isWide c = true) :
    Host.read (before ++ [c]) ≠ .ok host := by
  intro read
  unfold Host.read at read
  split at read
  · next rest bracketed =>
    have last : rest.getLast? = some c := by
      cases before with
      | nil =>
        obtain ⟨rfl, -⟩ := List.cons.inj bracketed
        exact absurd rfl (Text.ne_of_isWide (d := '[') wide (by decide))
      | cons b before =>
        obtain ⟨-, rfl⟩ := List.cons.inj bracketed
        simp
    unfold readBracketed at read
    split at read
    · next closed _ =>
      rw [closed] at last
      exact absurd (Option.some.inj last).symm (Text.ne_of_isWide wide (by decide))
    · cases read
  · have unnamed : (String.fromUTF8? (Text.percentDecode (String.ofList (before ++ [c])))).bind
        (fun s => Idna.toAscii? s.toList) = none := by
      rw [Option.bind_eq_none_iff]
      intro s decoded
      exact Idna.toAscii?_of_isBlank (decoded_of_wide wide decoded) (Text.isBlank_of_isWide wide)
    rw [unnamed] at read
    cases read

/-- Nothing is lost between a host and its port. -/
theorem splitPort_append (inBrackets : Bool) (cs : List Char) :
    (splitPort inBrackets cs).1 ++ (splitPort inBrackets cs).2 = cs := by
  induction cs generalizing inBrackets with
  | nil => rfl
  | cons c cs ih =>
    rw [splitPort]
    split
    · rfl
    · exact congrArg (c :: ·) (ih _)

/-- What stands before a port is a colon. -/
theorem splitPort_snd (inBrackets : Bool) (cs : List Char) :
    (splitPort inBrackets cs).2 = [] ∨ ∃ port, (splitPort inBrackets cs).2 = ':' :: port := by
  induction cs generalizing inBrackets with
  | nil => exact .inl rfl
  | cons c cs ih =>
    rw [splitPort]
    split
    · next outside =>
      obtain rfl : c = ':' := by simpa using (Bool.and_eq_true_iff.1 outside).1
      exact .inr ⟨cs, rfl⟩
    · exact ih _

/-- The host and the port of an authority end as the authority does, unless it ends in `@`. -/
theorem exists_hostPart_concat (before : List Char) (wide : Text.isWide c = true) :
    ∃ front, ((splitUser (before ++ [c])).map Prod.snd).getD (before ++ [c]) = front ++ [c] := by
  unfold splitUser
  dsimp only
  split
  · exact ⟨before, rfl⟩
  · have noSign : (c != '@') = true := bne_iff_ne.2 (Text.ne_of_isWide wide (by decide))
    refine ⟨(before.reverse.takeWhile (· != '@')).reverse, ?_⟩
    rw [Option.map_some, Option.getD_some, List.reverse_append, List.reverse_singleton,
      List.singleton_append]
    simp only [List.takeWhile_cons, noSign, if_true, List.reverse_cons]

theorem all_isDigit_of_readPort {port : Option Nat} (read : readPort scheme cs = .ok port) :
    ∀ d ∈ cs, d.isDigit = true := by
  unfold readPort at read
  split at read
  · cases read
  · next digits => simpa using digits

theorem isDigit_of_isWide (wide : Text.isWide c = true) : c.isDigit = false := by
  have beyond := Text.le_toNat_of_isWide wide
  by_contra digit
  have low : c.toNat ≤ 57 := by
    simp only [Bool.not_eq_false, Char.isDigit, Bool.and_eq_true, decide_eq_true_eq,
      UInt32.le_iff_toNat_le] at digit
    exact digit.2
  omega

/-- **No authority ends in a wide blank.** -/
theorem not_readable_of_wide (wide : Text.isWide c = true) :
    ¬ Readable scheme (before ++ [c]) := by
  rintro ⟨-, ⟨host, hosted⟩, ⟨port, ported⟩⟩
  obtain ⟨front, ended⟩ := exists_hostPart_concat before wide
  rw [hostAndPort, ended] at hosted ported
  have whole := splitPort_append false (front ++ [c])
  obtain portless | ⟨digits, written⟩ := splitPort_snd false (front ++ [c])
  · -- without a port the host ends in the blank
    rw [portless, List.append_nil] at whole
    rw [whole] at hosted
    exact Host.not_read_of_wide wide hosted
  · -- otherwise the port does, behind its colon
    have last := congrArg List.getLast? whole
    rw [written, List.getLast?_concat,
      List.getLast?_append_of_ne_nil _ (List.cons_ne_nil _ _)] at last
    have mem : c ∈ ':' :: digits := List.mem_of_getLast? last
    obtain rfl | mem := List.mem_cons.1 mem
    · exact absurd rfl (Text.ne_of_isWide (d := ':') wide (by decide))
    · rw [written] at ported
      have digit := all_isDigit_of_readPort ported c mem
      rw [isDigit_of_isWide wide] at digit
      cases digit

end Url

end HookRelay
