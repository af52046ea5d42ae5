/-!
# JSON values

The value type that cluster objects, patches and answers are made of.

A number is either whole, and then exact, or a binary floating-point number, kept as the bits
of its double: two numbers are equal exactly if they are written alike. The fields of an object
are a list of pairs. Objects that stand for stored data are *tidy*: their keys are strictly
ascending (`Json.tidy` brings them there, a later duplicate replacing an earlier one).
-/

namespace HookRelay

/-- A JSON number. -/
inductive Json.Number where
  /-- A number without a fraction or exponent that fits into 64 bits, signed or unsigned. -/
  | whole (n : Int)
  /-- Any other number, as the bits of the nearest double. -/
  | float (bits : UInt64)
  deriving DecidableEq, Repr, Inhabited

/-- A JSON value. -/
inductive Json where
  | null
  | bool (b : Bool)
  | number (n : Json.Number)
  | string (s : String)
  | array (items : List Json)
  | object (fields : List (String × Json))
  deriving Repr, Inhabited

namespace Json

mutual

/-- Equality of values is decided structurally. -/
def decEq : (a b : Json) → Decidable (a = b)
  | .null, .null => isTrue rfl
  | .bool a, .bool b => if h : a = b then isTrue (h ▸ rfl) else isFalse (fun e => h (by cases e; rfl))
  | .number a, .number b =>
    if h : a = b then isTrue (h ▸ rfl) else isFalse (fun e => h (by cases e; rfl))
  | .string a, .string b =>
    if h : a = b then isTrue (h ▸ rfl) else isFalse (fun e => h (by cases e; rfl))
  | .array a, .array b =>
    match decEqItems a b with
    | isTrue h => isTrue (h ▸ rfl)
    | isFalse h => isFalse (fun e => h (by cases e; rfl))
  | .object a, .object b =>
    match decEqFields a b with
    | isTrue h => isTrue (h ▸ rfl)
    | isFalse h => isFalse (fun e => h (by cases e; rfl))
  | .null, .bool _ | .null, .number _ | .null, .string _ | .null, .array _ | .null, .object _
  | .bool _, .null | .bool _, .number _ | .bool _, .string _ | .bool _, .array _
  | .bool _, .object _ | .number _, .null | .number _, .bool _ | .number _, .string _
  | .number _, .array _ | .number _, .object _ | .string _, .null | .string _, .bool _
  | .string _, .number _ | .string _, .array _ | .string _, .object _ | .array _, .null
  | .array _, .bool _ | .array _, .number _ | .array _, .string _ | .array _, .object _
  | .object _, .null | .object _, .bool _ | .object _, .number _ | .object _, .string _
  | .object _, .array _ => isFalse (fun e => by cases e)

/-- Equality of two lists of values. -/
def decEqItems : (a b : List Json) → Decidable (a = b)
  | [], [] => isTrue rfl
  | x :: xs, y :: ys =>
    match decEq x y, decEqItems xs ys with
    | isTrue h, isTrue k => isTrue (h ▸ k ▸ rfl)
    | isFalse h, _ => isFalse (fun e => h (by cases e; rfl))
    | _, isFalse k => isFalse (fun e => k (by cases e; rfl))
  | [], _ :: _ | _ :: _, [] => isFalse (fun e => by cases e)

/-- Equality of two lists of fields. -/
def decEqFields : (a b : List (String × Json)) → Decidable (a = b)
  | [], [] => isTrue rfl
  | (k, x) :: xs, (l, y) :: ys =>
    if hk : k = l then
      match decEq x y, decEqFields xs ys with
      | isTrue h, isTrue t => isTrue (hk ▸ h ▸ t ▸ rfl)
      | isFalse h, _ => isFalse (fun e => h (by cases e; rfl))
      | _, isFalse t => isFalse (fun e => t (by cases e; rfl))
    else isFalse (fun e => hk (by cases e; rfl))
  | [], _ :: _ | _ :: _, [] => isFalse (fun e => by cases e)

end

instance : DecidableEq Json := decEq

/-- A whole number as a value. -/
def ofInt (n : Int) : Json := .number (.whole n)

/-- A natural number as a value. -/
def ofNat (n : Nat) : Json := .number (.whole n)

/-- An optional text: `null` when absent. -/
def ofText? : Option String → Json
  | some s => .string s
  | none => .null

/-- The text of a string value. -/
def asText? : Json → Option String
  | .string s => some s
  | _ => none

/-- The items of an array. -/
def asItems? : Json → Option (List Json)
  | .array xs => some xs
  | _ => none

/-- The fields of an object. -/
def asFields? : Json → Option (List (String × Json))
  | .object fs => some fs
  | _ => none

/-- Whether a value is an object. -/
def isObject : Json → Bool
  | .object _ => true
  | _ => false

/-- Whether a value is `null`. -/
def isNull : Json → Bool
  | .null => true
  | _ => false

/-! ## Fields of an object, with keys in ascending order -/

/-- The value under a key. -/
def lookup (key : String) : List (String × Json) → Option Json
  | [] => none
  | (k, v) :: rest => if k = key then some v else lookup key rest

/-- Puts a value under a key, in place of what stands there, keys ascending. -/
def insert (key : String) (value : Json) : List (String × Json) → List (String × Json)
  | [] => [(key, value)]
  | (k, v) :: rest =>
    if key < k then (key, value) :: (k, v) :: rest
    else if k = key then (key, value) :: rest
    else (k, v) :: insert key value rest

/-- Takes a key out. -/
def erase (key : String) (fields : List (String × Json)) : List (String × Json) :=
  fields.filter (fun f => f.1 != key)

/-- The value under a key, for an object; `none` for every other value. -/
def get? (key : String) : Json → Option Json
  | .object fs => lookup key fs
  | _ => none

/-- Follows a list of keys into nested objects. -/
def getPath? : List String → Json → Option Json
  | [], j => some j
  | k :: ks, j => (j.get? k).bind (getPath? ks)

/-- Sets a key of an object; every other value is left alone. -/
def set (j : Json) (key : String) (value : Json) : Json :=
  match j with
  | .object fs => .object (insert key value fs)
  | j => j

/-- An object from pairs in any order; a later pair replaces an earlier one of the same key. -/
def ofFields (fields : List (String × Json)) : Json :=
  .object (fields.foldl (fun acc f => insert f.1 f.2 acc) [])

mutual

/-- Brings every object inside a value into tidy form. -/
def tidy : Json → Json
  | .array xs => .array (tidyItems xs)
  | .object fs => .object (tidyFields fs [])
  | j => j

/-- Tidies each item. -/
def tidyItems : List Json → List Json
  | [] => []
  | x :: xs => tidy x :: tidyItems xs

/-- Tidies each field and adds it to those already taken over. -/
def tidyFields : List (String × Json) → List (String × Json) → List (String × Json)
  | [], acc => acc
  | (k, v) :: rest, acc => tidyFields rest (insert k (tidy v) acc)

end

/-! ## One equation per operation on fields -/

@[simp] theorem lookup_nil (key : String) : lookup key [] = none := rfl

theorem lookup_cons (key k : String) (v : Json) (rest : List (String × Json)) :
    lookup key ((k, v) :: rest) = if k = key then some v else lookup key rest := rfl

/-- What was put under a key is found there. -/
theorem lookup_insert_self (key : String) (value : Json) (fs : List (String × Json)) :
    lookup key (insert key value fs) = some value := by
  induction fs with
  | nil => simp [insert, lookup]
  | cons f rest ih =>
    obtain ⟨k, v⟩ := f
    by_cases h : key < k
    · simp [insert, h, lookup]
    · by_cases e : k = key
      · simp [insert, e, lookup]
      · simp [insert, h, e, lookup, ih]

/-- Other keys do not see an insertion. -/
theorem lookup_insert_of_ne {key other : String} (ne : other ≠ key) (value : Json)
    (fs : List (String × Json)) : lookup other (insert key value fs) = lookup other fs := by
  induction fs with
  | nil => simp [insert, lookup, Ne.symm ne]
  | cons f rest ih =>
    obtain ⟨k, v⟩ := f
    by_cases h : key < k
    · simp [insert, h, lookup, Ne.symm ne]
    · by_cases e : k = key
      · subst e; simp [insert, lookup, Ne.symm ne]
      · simp [insert, h, e, lookup, ih]

end Json

end HookRelay
