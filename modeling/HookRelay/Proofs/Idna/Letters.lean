import HookRelay.Idna.Domain
import HookRelay.Proofs.Text.Parts
import HookRelay.Proofs.Url.Scheme

/-!
# The letters of a domain name

The ASCII form of a domain name holds none of the characters that mean something in an address. Its
labels are checked for them after they are decoded, and what Punycode writes for the characters
beyond ASCII are letters, digits and hyphens.

## Main definitions

* `Idna.IsLetter` : a character that may stand in the ASCII form of a domain name

## Main statements

* `Idna.Punycode.of_mem_encode` : which characters Punycode writes
* `Idna.isLetter_of_mem_toAscii?` : which characters the ASCII form of a domain name consists of
-/

namespace HookRelay.Idna

variable {label name ascii : List Char} {c : Char}

/-! ## Punycode -/

namespace Punycode

/-- What Punycode writes of a label: its characters of ASCII, hyphens, and digits of numbers. -/
def IsWritten (label : List Char) (c : Char) : Prop :=
  (c ∈ label ∧ c.toNat < 128) ∨ c = '-' ∨ c.isAlphanum = true

theorem threshold_le (k bias : Nat) : threshold k bias ≤ 26 := by
  unfold threshold
  split
  · omega
  · split <;> omega

theorem isAlphanum_digitChar : ∀ d < 36, (digitChar d).isAlphanum = true := by decide

theorem isAlphanum_of_mem_numberDigits {q k bias : Nat} (mem : c ∈ numberDigits q k bias) :
    c.isAlphanum = true := by
  have narrow (k : Nat) := threshold_le k bias
  fun_induction numberDigits q k bias with
  | case1 q k t small =>
    obtain rfl := List.mem_singleton.1 mem
    exact isAlphanum_digitChar q (by have := narrow k; omega)
  | case2 q k t large ih =>
    obtain rfl | mem := List.mem_cons.1 mem
    · refine isAlphanum_digitChar _ ?_
      have bound : t ≤ 26 := narrow k
      have rest := Nat.mod_lt (q - t) (show 0 < 36 - t by omega)
      omega
    · exact ih mem

theorem encodeStep_written {n basic : Nat} {s : Encoding} (d : Char)
    (written : ∀ c ∈ s.written, IsWritten label c) :
    ∀ c ∈ (encodeStep n basic s d).written, IsWritten label c := by
  unfold encodeStep
  split
  · exact written
  · split
    · intro c mem
      obtain mem | mem := List.mem_append.1 mem
      · exact .inr (.inr (isAlphanum_of_mem_numberDigits (List.mem_reverse.1 mem)))
      · exact written c mem
    · exact written

theorem encodeFrom_written {basic previous : Nat} {ns : List Nat} {s : Encoding}
    (written : ∀ c ∈ s.written, IsWritten label c) (read : List Char) :
    ∀ c ∈ (encodeFrom read basic ns previous s).written, IsWritten label c := by
  have run (n : Nat) (cs : List Char) (s : Encoding)
      (written : ∀ c ∈ s.written, IsWritten label c) :
      ∀ c ∈ (cs.foldl (encodeStep n basic) s).written, IsWritten label c := by
    induction cs generalizing s with
    | nil => exact written
    | cons d cs ih => exact ih _ (encodeStep_written d written)
  induction ns generalizing previous s with
  | nil => exact written
  | cons n ns ih => exact ih (run n read _ written)

/-- **Which characters Punycode writes.** -/
theorem of_mem_encode (mem : c ∈ encode label) : IsWritten label c := by
  refine encodeFrom_written (fun c mem => ?_) label c (List.mem_reverse.1 mem)
  dsimp only at mem
  split at mem
  · cases mem
  · obtain rfl | mem := List.mem_cons.1 mem
    · exact .inr (.inl rfl)
    · have inside := List.mem_filter.1 (List.mem_reverse.1 mem)
      exact .inl ⟨inside.1, by simpa using inside.2⟩

end Punycode

/-! ## Domain names -/

/-- A character that may stand in the ASCII form of a domain name. -/
def IsLetter (c : Char) : Prop := c.toNat < 128 ∧ isForbidden c = false

instance (c : Char) : Decidable (IsLetter c) :=
  inferInstanceAs (Decidable (c.toNat < 128 ∧ isForbidden c = false))

theorem isForbidden_of_labelOk (valid : labelOk label = true) (mem : c ∈ label) :
    isForbidden c = false := by
  simp only [labelOk, Bool.and_eq_true, Bool.not_eq_true', List.any_eq_false,
    Bool.not_eq_true] at valid
  exact valid.1.1 c mem

theorem isLetter_of_isAlphanum (alphanum : c.isAlphanum = true) : IsLetter c := by
  have narrow := (Url.toNat_of_isAlphanum alphanum).2
  refine ⟨narrow, Url.forall_ascii (P := fun c => c.isAlphanum = true → isForbidden c = false)
    (by decide +kernel) narrow alphanum⟩

/-- A label that is well formed is written in letters. -/
theorem isLetter_of_mem_encodeLabel (valid : labelOk label = true) (mem : c ∈ encodeLabel label) :
    IsLetter c := by
  unfold encodeLabel at mem
  split at mem
  · next narrow =>
    exact ⟨by simpa using List.all_eq_true.1 narrow c mem, isForbidden_of_labelOk valid mem⟩
  · obtain mem | mem := List.mem_append.1 mem
    · have marked : encodedPrefix.all (fun c => decide (IsLetter c)) = true := by decide
      exact of_decide_eq_true (List.all_eq_true.1 marked c mem)
    · obtain ⟨inside, narrow⟩ | rfl | alphanum := Punycode.of_mem_encode mem
      · exact ⟨narrow, isForbidden_of_labelOk valid inside⟩
      · decide
      · exact isLetter_of_isAlphanum alphanum

/-- **Which characters the ASCII form of a domain name consists of.** -/
theorem isLetter_of_mem_toAscii? (named : toAscii? name = some ascii) (mem : c ∈ ascii) :
    IsLetter c := by
  unfold toAscii? at named
  obtain ⟨mapped, -, named⟩ := Option.bind_eq_some_iff.1 named
  obtain ⟨labels, -, named⟩ := Option.bind_eq_some_iff.1 named
  split at named
  · cases named
  · next valid =>
    split at named
    · cases named
    · obtain rfl := Option.some.inj named
      obtain dot | ⟨part, among, mem⟩ := mem_of_mem_intercalate mem
      · obtain rfl := List.mem_singleton.1 dot
        decide
      · obtain ⟨label, inside, rfl⟩ := List.mem_map.1 among
        have valid : labels.all labelOk = true := by simpa using valid
        exact isLetter_of_mem_encodeLabel (List.all_eq_true.1 valid label inside) mem

end HookRelay.Idna
