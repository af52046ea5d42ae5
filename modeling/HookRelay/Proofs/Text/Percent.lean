import HookRelay.Proofs.Url.WideBlanks

/-!
# Percent encoding read back

A text that is percent-encoded consists of characters of ASCII that are safe where it stands, and of
triples. If the percent sign itself is encoded, every triple is one that the encoding made, so that
decoding once gives the bytes of the text, whatever they are.

## Main statements

* `Text.of_mem_percentEncode` : which characters an encoded text consists of
* `Text.percentDecode_percentEncode` : an encoded text is read back
-/

namespace HookRelay.Text

variable {isUnsafe : Char → Bool} {c : Char} {cs : List Char} {b : UInt8}

theorem charBytes_eq (c : Char) : charBytes c = String.utf8EncodeChar c := by
  rw [charBytes, toList_bytes, toList_toUTF8, Char.toString, String.toList_singleton,
    List.flatMap_singleton]

/-- The digits of a byte are digits or letters. -/
theorem isAlphanum_upperHex : ∀ n < 16, (upperHex n).isAlphanum = true := by decide

/-- **Which characters an encoded text consists of**: those that are safe, and those of triples. -/
theorem of_mem_percentEncode (mem : c ∈ percentEncode isUnsafe cs) :
    (c ∈ cs ∧ c.toNat < 128 ∧ isUnsafe c = false) ∨ c = '%' ∨ c.isAlphanum = true := by
  obtain ⟨d, inside, mem⟩ := List.mem_flatMap.1 mem
  split at mem
  · obtain ⟨b, -, mem⟩ := List.mem_flatMap.1 mem
    have small := b.toNat_lt
    simp only [percentByte, List.mem_cons, List.not_mem_nil, or_false] at mem
    obtain rfl | rfl | rfl := mem
    · exact .inr (.inl rfl)
    · exact .inr (.inr (isAlphanum_upperHex _ (by omega)))
    · exact .inr (.inr (isAlphanum_upperHex _ (by omega)))
  · next safe =>
    obtain rfl := List.mem_singleton.1 mem
    simp only [ge_iff_le, Bool.or_eq_true, decide_eq_true_eq, not_or, Nat.not_le,
      Bool.not_eq_true] at safe
    exact .inl ⟨inside, safe⟩

/-- A digit of a byte is one byte, and has its value. -/
theorem hexDigit?_upperHex : ∀ n < 16,
    String.utf8EncodeChar (upperHex n) = [UInt8.ofNat (upperHex n).toNat] ∧
      hexDigit? (UInt8.ofNat (upperHex n).toNat) = some (UInt8.ofNat n) := by
  decide

/-- The two digits of a byte. -/
theorem digits_eq (b : UInt8) :
    UInt8.ofNat (b.toNat / 16) * 16 + UInt8.ofNat (b.toNat % 16) = b := by
  have small := b.toNat_lt
  apply UInt8.toNat_inj.1
  simp only [UInt8.toNat_add, UInt8.toNat_mul, UInt8.toNat_ofNat', UInt8.reduceToNat]
  omega

/-- A triple is read back. -/
theorem percentDecodeBytes_percentByte (b : UInt8) (rest : List UInt8) :
    percentDecodeBytes ((percentByte b).flatMap String.utf8EncodeChar ++ rest) =
      b :: percentDecodeBytes rest := by
  have small := b.toNat_lt
  obtain ⟨high, highValue⟩ := hexDigit?_upperHex (b.toNat / 16) (by omega)
  obtain ⟨low, lowValue⟩ := hexDigit?_upperHex (b.toNat % 16) (by omega)
  have sign : String.utf8EncodeChar '%' = [37] := by decide
  simp only [percentByte, List.flatMap_cons, List.flatMap_nil, sign, high, low,
    List.append_nil, List.cons_append, List.nil_append]
  rw [percentDecodeBytes, highValue, lowValue]
  exact congrArg (· :: percentDecodeBytes rest) (digits_eq b)

theorem percentDecodeBytes_percentBytes (bytes rest : List UInt8) :
    percentDecodeBytes ((bytes.flatMap percentByte).flatMap String.utf8EncodeChar ++ rest) =
      bytes ++ percentDecodeBytes rest := by
  induction bytes with
  | nil => rfl
  | cons b bytes ih =>
    rw [List.flatMap_cons, List.flatMap_append, List.append_assoc, percentDecodeBytes_percentByte,
      ih, List.cons_append]

/-- **An encoded text is read back** by decoding it once, if the percent sign is encoded. -/
theorem percentDecode_percentEncode (escaped : isUnsafe '%' = true) (cs : List Char) :
    percentDecode (String.ofList (percentEncode isUnsafe cs)) = (String.ofList cs).toUTF8 := by
  have bytes : percentDecodeBytes ((percentEncode isUnsafe cs).flatMap String.utf8EncodeChar) =
      cs.flatMap String.utf8EncodeChar := by
    induction cs with
    | nil => rfl
    | cons c cs ih =>
      rw [percentEncode, List.flatMap_cons, List.flatMap_append, ← percentEncode, List.flatMap_cons]
      split
      · rw [percentDecodeBytes_percentBytes, charBytes_eq, ih]
      · next safe =>
        simp only [ge_iff_le, Bool.or_eq_true, decide_eq_true_eq, not_or, Nat.not_le] at safe
        have noSign : UInt8.ofNat c.toNat ≠ 37 := by
          intro same
          have sign : c.toNat = 37 := by
            have number := congrArg UInt8.toNat same
            rw [UInt8.toNat_ofNat', Nat.mod_eq_of_lt (by omega)] at number
            exact number
          obtain rfl : c = '%' := Char.toNat_inj.1 sign
          exact safe.2 escaped
        rw [List.flatMap_singleton, encode_narrow safe.1, List.singleton_append,
          percentDecodeBytes_cons fun _ _ _ sign => absurd sign noSign, ih, List.singleton_append]
  apply ByteArray.ext
  apply Array.toList_inj.1
  rw [percentDecode, toList_bytes, toList_toUTF8, toList_toUTF8, String.toList_ofList,
    String.toList_ofList, bytes]

end HookRelay.Text
