import HookRelay.Proofs.Idna.Letters
import HookRelay.Proofs.Url.Cleaned
import HookRelay.Proofs.Url.Path
import HookRelay.Proofs.Url.WideBlanks

/-!
# Hosts and ports that are written and read again

The host and the port of an address are put into another one as texts. Whatever text a host is read
from, it is written without the characters that end an authority or split it: a domain name in
letters, and a number in digits with dots between them, or with colons between brackets. So in the
new address the same text names the host, and behind it the same digits name the port; no user,
query or fragment comes with them, and the path is empty.

Whether that text is read as the host that it was written for is another matter. It is one of the
tables that domain names are mapped by, and what mapping makes of a name that has been mapped
already.

## Main definitions

* `Url.IsWritten` : how hosts are written
* `Url.IsPort`, `Url.portText` : a port that is written out, and how
* `Url.onHost` : an address with a host, maybe a port, and segments
* `Url.Web` : what an address of the web consists of
* `Url.Rereads` : the host of an address is read again

## Main statements

* `Url.isWritten_of_read` : hosts are written in such a way
* `Url.parse_written` : a host and a port that are put into an address are read again
* `Url.web_of_parse` : what an address of the web consists of
* `Url.Web.plain_path` : its path, as the path of a scope
-/

namespace HookRelay.Url

open Idna (IsLetter isLetter_of_isAlphanum)

variable {scheme text : String} {cs front behind : List Char} {url : Url} {host : Host} {c : Char}
  {port : Option Nat}

/-! ## Hosts -/

/-- **How hosts are written**: in letters of domain names, or in such letters and colons between
brackets. -/
def IsWritten (cs : List Char) : Prop :=
  (cs ≠ [] ∧ ∀ c ∈ cs, IsLetter c) ∨
    ∃ inner, cs = '[' :: inner ++ [']'] ∧ ∀ c ∈ inner, c = ':' ∨ IsLetter c

theorem IsWritten.ne_nil (written : IsWritten cs) : cs ≠ [] := by
  obtain ⟨ne, -⟩ | ⟨inner, rfl, -⟩ := written
  · exact ne
  · exact List.cons_ne_nil _ _

theorem isAlphanum_of_mem_toDigits {n : Nat} (mem : c ∈ Nat.toDigits 16 n) :
    c.isAlphanum = true := by
  have digits : ∀ d < 16, (Nat.digitChar d).isAlphanum = true := by decide
  induction n using Nat.strongRecOn with
  | ind n ih =>
    rw [Nat.toDigits_eq_if (by decide)] at mem
    split at mem
    · next small =>
      obtain rfl := List.mem_singleton.1 mem
      exact digits n small
    · obtain mem | mem := List.mem_append.1 mem
      · exact ih (n / 16) (Nat.div_lt_self (by omega) (by decide)) mem
      · obtain rfl := List.mem_singleton.1 mem
        exact digits _ (Nat.mod_lt n (by decide))

theorem isLetter_of_mem_repr {n : Nat} (mem : c ∈ (toString n).toList) : IsLetter c := by
  rw [Nat.toString_eq_repr, Nat.toList_repr] at mem
  have digit := Nat.isDigit_of_mem_toDigits (by decide) (by decide) mem
  exact isLetter_of_isAlphanum (by simp [Char.isAlphanum, digit])

theorem isWritten_ipv4Text (n : Nat) : IsWritten (ipv4Text n).toList := by
  have dot : ∀ c ∈ (toString ".").toList, IsLetter c :=
    List.forall_mem_singleton.2 (by decide)
  have digits (n : Nat) : ∀ c ∈ (toString n).toList, IsLetter c := fun _ => isLetter_of_mem_repr
  refine .inl ⟨by simp [ipv4Text], ?_⟩
  simp only [ipv4Text, String.toList_append, List.forall_mem_append]
  exact ⟨⟨⟨⟨⟨⟨digits _, dot⟩, digits _⟩, dot⟩, digits _⟩, dot⟩, digits _⟩

theorem isLetter_of_mem_ipv6Text {pieces : List Nat} (mem : c ∈ (ipv6Text pieces).toList) :
    c = ':' ∨ IsLetter c := by
  have joined (l : List Nat) (mem : c ∈ (":".intercalate (l.map hexPiece)).toList) :
      c = ':' ∨ IsLetter c := by
    rw [String.toList_intercalate] at mem
    obtain colon | ⟨part, among, mem⟩ := mem_of_mem_intercalate mem
    · exact .inl (List.mem_singleton.1 colon)
    · simp only [List.mem_map] at among
      obtain ⟨_, ⟨n, -, rfl⟩, rfl⟩ := among
      rw [hexPiece, String.toList_ofList] at mem
      exact .inr (isLetter_of_isAlphanum (isAlphanum_of_mem_toDigits mem))
  unfold ipv6Text at mem
  dsimp only at mem
  split at mem
  · exact joined _ mem
  · rw [String.toList_append, String.toList_append, List.mem_append, List.mem_append] at mem
    obtain (mem | mem) | mem := mem
    · exact joined _ mem
    · have colons : ∀ c ∈ "::".toList, c = ':' := by simp
      exact .inl (colons c mem)
    · exact joined _ mem

theorem isWritten_ipv6 (pieces : List Nat) : IsWritten (Host.ipv6 pieces).render.toList :=
  .inr ⟨(ipv6Text pieces).toList, by simp [Host.render], fun _ => isLetter_of_mem_ipv6Text⟩

/-- **Hosts are written in such a way**, whatever they are read from. -/
theorem isWritten_of_read (read : Host.read cs = .ok host) : IsWritten host.render.toList := by
  unfold Host.read at read
  split at read
  · unfold Host.readBracketed at read
    split at read
    · rw [← Except.ok.inj read]
      exact isWritten_ipv6 _
    · cases read
  · split at read
    · cases read
    · cases read
    · next ascii nonempty named =>
      dsimp only at read
      split at read
      · split at read
        · rw [← Except.ok.inj read]
          exact isWritten_ipv4Text _
        · cases read
      · obtain ⟨s, -, named⟩ := Option.bind_eq_some_iff.1 named
        rw [← Except.ok.inj read, Host.render, String.toList_ofList]
        exact .inl ⟨nonempty, fun c => Idna.isLetter_of_mem_toAscii? named⟩

/-! ## Ports -/

/-- **A port that is written out**: it fits into 16 bits and is not the usual one. -/
def IsPort (scheme : String) (port : Nat) : Prop := port ≤ 65535 ∧ usualPort? scheme ≠ some port

/-- How a port is written behind a host. -/
def portText (port : Option Nat) : String :=
  match port with
  | some p => ":" ++ toString p
  | none => ""

/-- Reading digits with a bound gives what they denote, up to that bound. -/
theorem foldl_bounded (cs : List Char) (n : Nat) :
    cs.foldl (fun n c => min (n * 10 + (c.toNat - 48)) 70000) (min n 70000) =
      min (Nat.ofDigitChars 10 cs n) 70000 := by
  induction cs generalizing n with
  | nil => rfl
  | cons c cs ih =>
    have digit : '0'.toNat = 48 := rfl
    rw [List.foldl_cons, Nat.ofDigitChars_cons, ← ih, digit]
    congr 1
    omega

/-- A port that is read fits, and is written out only if it has to be. -/
theorem isPort_of_readPort {p : Nat} (read : readPort scheme cs = .ok (some p)) :
    IsPort scheme p := by
  unfold readPort at read
  split at read
  · cases read
  · dsimp only at read
    split at read
    · cases read
    · next fits =>
      split at read
      · cases read
      · next unusual =>
        obtain rfl := Option.some.inj (Except.ok.inj read)
        simp only [Bool.or_eq_true, decide_eq_true_eq, not_or] at unusual
        exact ⟨Nat.le_of_not_lt fits, unusual.2⟩

/-- **A port is read from its digits.** -/
theorem readPort_toString {p : Nat} (valid : IsPort scheme p) :
    readPort scheme (toString p).toList = .ok (some p) := by
  have digits : (toString p).toList.all Char.isDigit = true := List.all_eq_true.2 fun c mem => by
    rw [Nat.toString_eq_repr, Nat.toList_repr] at mem
    exact Nat.isDigit_of_mem_toDigits (by decide) (by decide) mem
  have number : (toString p).toList.foldl
      (fun n c => min (n * 10 + (c.toNat - 48)) 70000) 0 = p := by
    have bounded := foldl_bounded (toString p).toList 0
    rw [Nat.toString_eq_repr, Nat.toList_repr, Nat.ofDigitChars_ten_toDigits] at bounded
    rw [Nat.toString_eq_repr, Nat.toList_repr]
    exact bounded.trans (Nat.min_eq_left (valid.1.trans (by decide)))
  have written : (toString p).toList.isEmpty = false := by
    rw [Nat.toString_eq_repr, Nat.toList_repr, List.isEmpty_eq_false_iff]
    exact Nat.toDigits_ne_nil
  have fits : ¬ p > 65535 := Nat.not_lt.2 valid.1
  simp only [readPort, digits, number, written, fits, valid.2, Bool.not_true, Bool.false_eq_true,
    if_false, decide_false, Bool.or_self]

/-! ## Authorities -/

/-- Letters of domain names neither end an authority nor split it. -/
theorem notSpecial_of_isLetter (letter : IsLetter c) :
    endsAuthority .web c = false ∧ c ∉ ['@', ':', '[', ']'] ∧ 0x20 < c.toNat :=
  forall_ascii (P := fun c => Idna.isForbidden c = false →
      endsAuthority .web c = false ∧ c ∉ ['@', ':', '[', ']'] ∧ 0x20 < c.toNat)
    (by decide +kernel) letter.1 letter.2

theorem splitUser_of_not_mem (noSign : '@' ∉ cs) : splitUser cs = none := by
  have whole : (cs.reverse.takeWhile (· != '@')).reverse = cs := by
    rw [List.takeWhile_eq_self_iff.2, List.reverse_reverse]
    exact fun c mem => bne_iff_ne.2 fun sign => noSign (sign ▸ List.mem_reverse.1 mem)
  unfold splitUser
  dsimp only
  rw [whole, if_pos rfl]

/-- A host without colons and brackets is a host, whatever follows. -/
theorem splitPort_append_of_plain (plain : ∀ c ∈ front, c ∉ [':', '[', ']']) :
    splitPort false (front ++ behind) =
      (front ++ (splitPort false behind).1, (splitPort false behind).2) := by
  induction front with
  | nil => rfl
  | cons c front ih =>
    obtain ⟨here, plain⟩ := List.forall_mem_cons.1 plain
    simp only [List.mem_cons, List.not_mem_nil, or_false, not_or] at here
    simp [splitPort, here, ih plain]

/-- Colons between brackets do not end a host. -/
theorem splitPort_append_of_bracketed (plain : ∀ c ∈ front, c ∉ ['[', ']'])
    (behind : List Char) :
    splitPort true (front ++ ']' :: behind) =
      (front ++ ']' :: (splitPort false behind).1, (splitPort false behind).2) := by
  induction front with
  | nil => simp [splitPort]
  | cons c front ih =>
    obtain ⟨here, plain⟩ := List.forall_mem_cons.1 plain
    simp only [List.mem_cons, List.not_mem_nil, or_false, not_or] at here
    simp [splitPort, here, ih plain]

/-- Behind a host, a port is told from it by its colon. -/
theorem splitPort_portText (port : Option Nat) :
    splitPort false (portText port).toList = ([], (portText port).toList) := by
  cases port with
  | none => rfl
  | some p => simp [portText, splitPort]

/-- What a host and a port consist of neither ends an authority nor names a user. -/
theorem notSpecial_of_isWritten (written : IsWritten cs) (port : Option Nat) :
    ∀ c ∈ cs ++ (portText port).toList,
      endsAuthority .web c = false ∧ c ≠ '@' ∧ 0x20 < c.toNat := by
  have letter {c : Char} (letter : IsLetter c) :
      endsAuthority .web c = false ∧ c ≠ '@' ∧ 0x20 < c.toNat :=
    ⟨(notSpecial_of_isLetter letter).1, by
      rintro rfl
      exact (notSpecial_of_isLetter letter).2.1 List.mem_cons_self,
      (notSpecial_of_isLetter letter).2.2⟩
  rw [List.forall_mem_append]
  constructor
  · obtain ⟨-, letters⟩ | ⟨inner, rfl, letters⟩ := written
    · exact fun c mem => letter (letters c mem)
    · have brackets : ∀ c ∈ ['[', ']', ':'],
          endsAuthority .web c = false ∧ c ≠ '@' ∧ 0x20 < c.toNat := by
        simp only [List.forall_mem_cons]
        exact ⟨by decide, by decide, by decide, List.forall_mem_nil _⟩
      intro c mem
      simp only [List.cons_append, List.mem_cons, List.mem_append, List.not_mem_nil,
        or_false] at mem
      obtain rfl | mem | rfl := mem
      · exact brackets _ (by simp)
      · obtain rfl | inside := letters c mem
        · exact brackets _ (by simp)
        · exact letter inside
      · exact brackets _ (by simp)
  · cases port with
    | none => simp [portText]
    | some p =>
      rw [portText, String.toList_append, List.forall_mem_append]
      exact ⟨List.forall_mem_singleton.2 (by decide),
        fun c mem => letter (isLetter_of_mem_repr mem)⟩

/-- **The text of a host and a port is taken apart again.** -/
theorem hostAndPort_written (written : IsWritten cs) (port : Option Nat) :
    hostAndPort (cs ++ (portText port).toList) = (cs, (portText port).toList) := by
  have noSign : '@' ∉ cs ++ (portText port).toList := fun mem =>
    (notSpecial_of_isWritten written port _ mem).2.1 rfl
  have apart : splitPort false (cs ++ (portText port).toList) =
      (cs ++ (splitPort false (portText port).toList).1,
        (splitPort false (portText port).toList).2) := by
    obtain ⟨-, letters⟩ | ⟨inner, rfl, letters⟩ := written
    · exact splitPort_append_of_plain fun c mem special =>
        (notSpecial_of_isLetter (letters c mem)).2.1 (List.mem_cons_of_mem _ special)
    · have plain : ∀ c ∈ inner, c ∉ ['[', ']'] := fun c mem special => by
        obtain rfl | letter := letters c mem
        · revert special
          decide
        · exact (notSpecial_of_isLetter letter).2.1
            (List.mem_cons_of_mem _ (List.mem_cons_of_mem _ special))
      have between := splitPort_append_of_bracketed plain (portText port).toList
      simp [splitPort, between]
  rw [hostAndPort, splitUser_of_not_mem noSign, Option.map_none, Option.getD_none, apart,
    splitPort_portText, List.append_nil]

/-! ## Addresses -/

/-- A text of visible characters is read as it is. -/
theorem clean_of_visible (visible : ∀ c ∈ text.toList, 0x20 < c.toNat) :
    clean text = text.toList := by
  have inside : ∀ c ∈ text.toList, isEdge c = false := fun c mem => by
    simpa [isEdge] using visible c mem
  have kept : unbroken text.toList = text.toList := by
    refine List.filter_eq_self.2 fun c mem => ?_
    by_contra dropped
    have edge := isEdge_of_isDropped (c := c) (by simpa using dropped)
    rw [inside c mem] at edge
    cases edge
  rw [clean_eq, kept, stripped_eq_self_iff]
  exact ⟨fun c first => inside c (List.mem_of_mem_head? first),
    fun c last => inside c (List.mem_of_getLast? last)⟩

/-- An address that has a host, maybe a port, the segments of a path, and nothing else. -/
def onHost (scheme : String) (host : Host) (port : Option Nat) (list : List String) : Url :=
  ⟨scheme, some ⟨"", "", host, port⟩, .segments list, none, none⟩

section Written

variable {name : String} (http : scheme = "http" ∨ scheme = "https")
  (written : IsWritten name.toList) (named : Host.read name.toList = .ok host)
  (ported : ∀ p ∈ port, IsPort scheme p)

include http written named ported in
/-- An authority that was put together is read again. -/
theorem readAuthority_written :
    readAuthority scheme (name.toList ++ (portText port).toList ++ ['/']) =
      .ok (onHost scheme host port [""]) := by
  have special := notSpecial_of_isWritten written port
  have goesOn : ∀ c ∈ name.toList ++ (portText port).toList,
      (!endsAuthority .web c) = true := fun c mem => by
    rw [(special c mem).1]
    rfl
  have ended : authorityText (name.toList ++ (portText port).toList ++ ['/']) =
      name.toList ++ (portText port).toList := by
    rw [authorityText, List.takeWhile_append_of_pos goesOn, List.takeWhile_cons_of_neg (by decide),
      List.append_nil]
  have path : (name.toList ++ (portText port).toList ++ ['/']).dropWhile
      (fun c => !endsAuthority .web c) = ['/'] := by
    rw [List.dropWhile_append_of_pos goesOn, List.dropWhile_cons_of_neg (by decide)]
  have noUser : authorityOf (name.toList ++ (portText port).toList) host port =
      ⟨"", "", host, port⟩ := by
    rw [authorityOf, splitUser_of_not_mem fun mem => (special _ mem).2.1 rfl]
    rfl
  have digits : readPort scheme ((portText port).toList.drop 1) = .ok port := by
    cases port with
    | none => rfl
    | some p =>
      rw [portText, String.toList_append]
      exact readPort_toString (ported p rfl)
  rw [readAuthority_web (schemeKind_of_http http), ended, path, hostAndPort_written written,
    if_neg written.ne_nil, named]
  dsimp only [Except.bind]
  rw [digits]
  dsimp only
  rw [noUser]
  rfl

include http written named ported in
/-- **A host and a port that are put into an address are read again.** -/
theorem parse_written :
    parse (scheme ++ "://" ++ name ++ portText port ++ "/") =
      .ok (onHost scheme host port [""]) := by
  have special := notSpecial_of_isWritten written port
  have letters : (scheme ++ "://" ++ name ++ portText port ++ "/").toList =
      scheme.toList ++ ':' :: '/' :: '/' ::
        (name.toList ++ (portText port).toList ++ ['/']) := by
    simp
  have visible : ∀ c ∈ (scheme ++ "://" ++ name ++ portText port ++ "/").toList,
      0x20 < c.toNat := by
    rw [letters]
    simp only [List.forall_mem_append, List.forall_mem_cons]
    rw [← List.forall_mem_append]
    refine ⟨?_, by decide, by decide, by decide, fun c mem => (special c mem).2.2, by decide, ?_⟩
    · obtain rfl | rfl := http <;> simp
    · exact List.forall_mem_nil _
  have begun : splitScheme (scheme.toList ++ ':' :: '/' :: '/' ::
        (name.toList ++ (portText port).toList ++ ['/'])) =
      some (scheme, '/' :: '/' :: (name.toList ++ (portText port).toList ++ ['/'])) := by
    rw [splitScheme_eq_some_iff]
    obtain rfl | rfl := http
    · exact ⟨'h', ['t', 't', 'p'], by simp, by decide, List.all_eq_true.1 (by decide), by decide⟩
    · exact ⟨'h', ['t', 't', 'p', 's'], by simp, by decide, List.all_eq_true.1 (by decide),
        by decide⟩
  have unslashed : behindSlashes ('/' :: '/' ::
        (name.toList ++ (portText port).toList ++ ['/'])) =
      name.toList ++ (portText port).toList ++ ['/'] := by
    obtain ⟨c, rest, first⟩ := List.exists_cons_of_ne_nil written.ne_nil
    have stops : ¬ (c = '/' ∨ c = '\\') := by
      intro slash
      have ends := (special c (by simp [first])).1
      revert ends
      obtain rfl | rfl := slash <;> decide
    rw [first]
    simp [behindSlashes, not_or.1 stops]
  rw [parse, clean_of_visible visible, letters, readFrom_web begun (schemeKind_of_http http),
    unslashed, readAuthority_written http written named ported]

end Written

/-! ## Addresses of the web -/

/-- **What an address of the web consists of**, however it was read. -/
structure Web (url : Url) (a : Authority) (list : List String) : Prop where
  http : url.scheme = "http" ∨ url.scheme = "https"
  authority : url.authority = some a
  written : IsWritten a.host.render.toList
  ported : ∀ p ∈ a.port, IsPort url.scheme p
  path : url.path = .segments list
  steps : ∀ s ∈ list, IsStep s

/-- Every address of the web is one. -/
theorem web_of_parse (read : parse text = .ok url) (http : url.isHttp = true) :
    ∃ a list, Web url a list := by
  obtain ⟨scheme, rest, begun, schemes, -⟩ := exists_http_iff.1 ⟨url, read, http⟩
  have web := schemeKind_of_http schemes
  rw [parse, readFrom_web begun web] at read
  obtain ⟨named, ⟨host, hosted⟩, ⟨port, ported⟩⟩ := (exists_readAuthority_iff web).1 ⟨url, read⟩
  rw [readAuthority_web web, if_neg named, hosted] at read
  dsimp only [Except.bind] at read
  rw [ported] at read
  obtain rfl := Except.ok.inj read
  obtain ⟨list, path, steps⟩ := exists_steps_readPathStart
    ((behindSlashes rest).dropWhile fun c => !endsAuthority .web c)
  refine ⟨_, list, schemes, rfl, isWritten_of_read hosted, ?_, path, steps⟩
  rintro p rfl
  exact isPort_of_readPort ported

/-- A host that has a name is the host of its address. -/
theorem hostText_of_render_ne {a : Authority} (located : url.authority = some a)
    (ne : a.host.render.toList ≠ []) : url.hostText? = some a.host.render := by
  rw [hostText?, located]
  refine if_neg fun nameless => ne ?_
  rw [nameless]
  rfl

theorem Web.hostText_eq {a : Authority} {list : List String} (web : Web url a list) :
    url.hostText? = some a.host.render := hostText_of_render_ne web.authority web.written.ne_nil

/-- The path of an address of the web, without the slashes at its ends, holds nothing that is
dropped and leads somewhere. -/
theorem Web.plain_path {a : Authority} {list : List String} (web : Web url a list) :
    (∀ c ∈ (Scope.trimSlashes url.pathText).toList, isDropped c = false) ∧
      Scope.trimSlashes url.pathText ≠ "." ∧ Scope.trimSlashes url.pathText ≠ ".." := by
  have letters : url.pathText.toList = list.flatMap fun s => '/' :: s.toList := by
    rw [pathText, web.path, toList_render]
  obtain ⟨before, behind, whole, first, last⟩ :=
    exists_stripped (fun c => decide (c = '/')) url.pathText.toList
  rw [← toList_trimSlashes, letters] at whole
  have notDots {core : String} (left : Scope.trimSlashes url.pathText = core)
      (ne : core.toList ≠ []) (unslashed : '/' ∉ core.toList) : ∃ s ∈ list, s = core := by
    subst left
    obtain ⟨s, among, same⟩ := exists_segment_of_trimmed
      (fun s among slash => ((web.steps s among).plain _ slash).1 rfl) ne unslashed
      (fun c mem => of_decide_eq_true (first c mem)) (fun c mem => of_decide_eq_true (last c mem))
      whole
    exact ⟨s, among, String.toList_inj.1 same⟩
  refine ⟨fun c mem => ?_, fun left => ?_, fun left => ?_⟩
  · have inside : c ∈ list.flatMap fun s => '/' :: s.toList := by
      rw [whole]
      exact List.mem_append_left _ (List.mem_append_right _ mem)
    obtain ⟨s, among, mem⟩ := List.mem_flatMap.1 inside
    obtain rfl | mem := List.mem_cons.1 mem
    · decide
    · exact ((web.steps s among).plain c mem).2
  · obtain ⟨s, among, rfl⟩ := notDots left (by decide) (by decide)
    exact absurd (web.steps _ among).notSingle (by decide)
  · obtain ⟨s, among, rfl⟩ := notDots left (by decide) (by decide)
    exact absurd (web.steps _ among).notDouble (by decide)

/-- **A text names a host that is read again**, to the same text, from the form in which addresses
have it. -/
def Rereads (text : String) : Prop :=
  ∀ url a, parse text = .ok url → url.authority = some a →
    ∃ host, Host.read a.host.render.toList = .ok host ∧ host.render = a.host.render

end HookRelay.Url
