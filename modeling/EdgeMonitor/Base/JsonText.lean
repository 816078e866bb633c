import EdgeMonitor.Base.Decimal
import EdgeMonitor.Base.Json
import EdgeMonitor.Base.Numeral
import EdgeMonitor.Base.Utf8

/-!
# Printed JSON

Library `Base`. JSON texts without white space as a program prints them with format strings, their
bytes, and the value that a reader of JSON gives them. A number is an integer or has two decimal
places; a string needs no escapes.
-/

namespace EdgeMonitor.Base

namespace Json

/-- Of different keys each has its own value. -/
theorem member_of_nodup {members : List (Text × Json)} (h : (members.map Prod.fst).Nodup)
    {key : Text} {value : Json} (hmem : (key, value) ∈ members) :
    member members key = some value := by
  have hfind : members.reverse.find? (fun m ↦ m.1 = key) = some (key, value) := by
    rw [← List.nodup_reverse, ← List.map_reverse] at h
    rw [← List.mem_reverse] at hmem
    generalize members.reverse = reversed at h hmem
    induction reversed with
    | nil => cases hmem
    | cons m rest ih =>
      rw [List.map_cons, List.nodup_cons] at h
      rcases List.mem_cons.mp hmem with rfl | hmem
      · exact List.find?_cons_of_pos (by simp)
      · have hne : m.1 ≠ key := by
          intro heq
          apply h.1
          rw [heq]
          exact List.mem_map_of_mem (f := Prod.fst) hmem
        rw [List.find?_cons_of_neg (by simpa using hne)]
        exact ih h.2 hmem
  rw [member, hfind]
  rfl

/-- A dict that is filled with members of different keys has these members. -/
theorem items_of_nodup {members : List (Text × Json)} (h : (members.map Prod.fst).Nodup) :
    items members = members := by
  have hfold (rest d : List (Text × Json)) (h : ((d ++ rest).map Prod.fst).Nodup) :
      rest.foldl (fun d m ↦ setMember d m.1 m.2) d = d ++ rest := by
    induction rest generalizing d with
    | nil => rw [List.foldl_nil, List.append_nil]
    | cons m rest ih =>
      have hnew : d.any (·.1 == m.1) = false := by
        rw [List.map_append, List.map_cons, List.nodup_append] at h
        rw [List.any_eq_false]
        intro m' hm' heq
        exact h.2.2 m'.1 (List.mem_map_of_mem hm') m.1 List.mem_cons_self (eq_of_beq heq)
      rw [List.foldl_cons, setMember, hnew, if_neg Bool.false_ne_true]
      rw [List.append_cons] at h
      exact (ih (d ++ [m]) h).trans (List.append_cons d m rest).symm
  exact hfold members [] h

end Json

/-- A JSON text. -/
inductive JsonText where
  | null
  | integer (n : Int)
  /-- A number of hundredths with two decimal places. -/
  | hundredths (negative : Bool) (n : Nat)
  | string (s : List UInt8)
  | object (members : List (String × JsonText))

namespace JsonText

/-- The bytes of a literal. -/
def literal (s : String) : List UInt8 := (Text.ofString s).asciiBytes

/-- An integer in decimal. -/
def integerBytes (n : Int) : List UInt8 :=
  if n < 0 then 0x2D :: Numeral.decimal n.natAbs else Numeral.decimal n.natAbs

/-- A number with two decimal places. -/
def hundredthsBytes (negative : Bool) (n : Nat) : List UInt8 :=
  (if negative then [0x2D] else []) ++ Numeral.decimal (n / 100) ++
    [0x2E, UInt8.ofNat (48 + n % 100 / 10), UInt8.ofNat (48 + n % 10)]

/-- The bytes of a member with the given bytes of a value. -/
def keyed (key : String) (value : List UInt8) : List UInt8 :=
  0x22 :: literal key ++ 0x22 :: 0x3A :: value

mutual

/-- The bytes of a text. -/
def render : JsonText → List UInt8
  | null => literal "null"
  | integer n => integerBytes n
  | hundredths negative n => hundredthsBytes negative n
  | string s => 0x22 :: s ++ [0x22]
  | object members => 0x7B :: renderMembers members ++ [0x7D]

def renderMembers : List (String × JsonText) → List UInt8
  | [] => []
  | [(key, value)] => keyed key (render value)
  | (key, value) :: next :: rest => keyed key (render value) ++ 0x2C :: renderMembers (next :: rest)

end

/-- The number of a text with two decimal places. -/
def hundredthsValue (negative : Bool) (n : Nat) : ℚ := if negative then -(n / 100) else n / 100

mutual

/-- The value of a text, where a number with decimal places is rounded to a floating point
number. -/
def value (nearest : ℚ → ℚ) : JsonText → Json
  | null => .null
  | integer n => .integer n
  | hundredths negative n => .float (.finite (nearest (hundredthsValue negative n)))
  | string s => .string (s.map UInt8.toNat)
  | object members => .object (valueMembers nearest members)

def valueMembers (nearest : ℚ → ℚ) : List (String × JsonText) → List (Text × Json)
  | [] => []
  | (key, t) :: rest => (Text.ofString key, value nearest t) :: valueMembers nearest rest

end

/-- A character that a string may hold without an escape. -/
def IsPlain (c : UInt8) : Prop := 0x20 ≤ c ∧ c ≤ 0x7E ∧ c ≠ 0x22 ∧ c ≠ 0x5C

instance (c : UInt8) : Decidable (IsPlain c) := inferInstanceAs (Decidable (_ ∧ _ ∧ _ ∧ _))

mutual

/-- Strings and keys need no escapes. -/
def Plain : JsonText → Prop
  | null | integer _ | hundredths _ _ => True
  | string s => ∀ c ∈ s, IsPlain c
  | object members => PlainMembers members

def PlainMembers : List (String × JsonText) → Prop
  | [] => True
  | (key, t) :: rest => (∀ c ∈ literal key, IsPlain c) ∧ Plain t ∧ PlainMembers rest

end

/-- What a reader of JSON makes of a text. -/
def ReadBy {ε : Type} (loads : List UInt8 → Except ε Json) (nearest : ℚ → ℚ)
    (t : JsonText) : Prop :=
  t.Plain → loads t.render = .ok (t.value nearest)

/-- What the reading of decimal numbers keeps: their order and the integers that are small enough
for a floating point number. -/
structure Rounds (nearest : ℚ → ℚ) : Prop where
  monotone : Monotone nearest
  integers : ∀ n : Int, |n| ≤ 2 ^ 53 → nearest n = n

/-! ### Numbers with two decimal places -/

/-- The nearest integer to a number that is not negative, of two the even one. -/
def roundEven (q : ℚ) : Nat :=
  let n := ⌊q⌋₊
  if q - n < 1 / 2 ∨ q - n = 1 / 2 ∧ n % 2 = 0 then n else n + 1

/-- A number as `%.2f` prints it. -/
def ofRat (q : ℚ) : JsonText := .hundredths (q < 0) (roundEven (|q| * 100))

theorem roundEven_le {q : ℚ} {n : Nat} (h : q ≤ n) : roundEven q ≤ n := by
  have hfloor : ⌊q⌋₊ ≤ n := Nat.floor_le_of_le h
  rw [roundEven]
  split
  · exact hfloor
  · next hrest =>
    by_contra hlt
    have hsame : ⌊q⌋₊ = n := by omega
    apply hrest
    left
    rw [hsame]
    linarith

theorem abs_roundEven_sub_le {q : ℚ} (h : 0 ≤ q) : |(roundEven q : ℚ) - q| ≤ 1 / 2 := by
  have hle : (⌊q⌋₊ : ℚ) ≤ q := Nat.floor_le h
  have hlt : q < ⌊q⌋₊ + 1 := Nat.lt_floor_add_one q
  rw [roundEven, abs_le]
  split
  · next hrest =>
    constructor
    · rcases hrest with hrest | ⟨hrest, -⟩ <;> linarith
    · linarith
  · next hrest =>
    rw [not_or] at hrest
    have hhalf := hrest.1
    push_cast
    constructor <;> linarith

/-- The number that is printed for a number. -/
def printed (q : ℚ) : ℚ := hundredthsValue (q < 0) (roundEven (|q| * 100))

/-- What is printed differs by half a hundredth at most. -/
theorem abs_printed_sub_le (q : ℚ) : |printed q - q| ≤ 1 / 200 := by
  have hround := abs_roundEven_sub_le (show 0 ≤ |q| * 100 by positivity)
  rw [abs_le] at hround ⊢
  rw [printed, hundredthsValue]
  by_cases hq : q < 0
  · rw [if_pos (by simpa using hq)]
    rw [abs_of_neg hq] at hround ⊢
    constructor <;> linarith
  · rw [if_neg (by simpa using hq)]
    rw [abs_of_nonneg (not_lt.mp hq)] at hround ⊢
    constructor <;> linarith

/-- Whole bounds of a number are bounds of what is printed. -/
theorem printed_bounds {q : ℚ} {low high : Nat} (hlow : -(low : ℚ) ≤ q) (hhigh : q ≤ high) :
    -(low : ℚ) ≤ printed q ∧ printed q ≤ high := by
  rw [printed, hundredthsValue]
  by_cases hq : q < 0
  · have hround : roundEven (|q| * 100) ≤ low * 100 := by
      apply roundEven_le
      rw [abs_of_neg hq]
      push_cast
      linarith
    have hcast : (roundEven (|q| * 100) : ℚ) ≤ low * 100 := by exact_mod_cast hround
    have hpos : (0 : ℚ) ≤ roundEven (|q| * 100) := Nat.cast_nonneg _
    have hhigh' : (0 : ℚ) ≤ high := Nat.cast_nonneg _
    rw [if_pos (by simpa using hq)]
    constructor <;> linarith
  · have hround : roundEven (|q| * 100) ≤ high * 100 := by
      apply roundEven_le
      rw [abs_of_nonneg (not_lt.mp hq)]
      push_cast
      linarith
    have hcast : (roundEven (|q| * 100) : ℚ) ≤ high * 100 := by exact_mod_cast hround
    have hpos : (0 : ℚ) ≤ roundEven (|q| * 100) := Nat.cast_nonneg _
    have hlow' : (0 : ℚ) ≤ low := Nat.cast_nonneg _
    rw [if_neg (by simpa using hq)]
    constructor <;> linarith

/-- They are bounds of what a reader makes of it. -/
theorem Rounds.printed_bounds {nearest : ℚ → ℚ} (h : Rounds nearest) {q : ℚ} {low high : Nat}
    (hlow : -(low : ℚ) ≤ q) (hhigh : q ≤ high) (hlow' : low ≤ 2 ^ 53) (hhigh' : high ≤ 2 ^ 53) :
    -(low : ℚ) ≤ nearest (printed q) ∧ nearest (printed q) ≤ high := by
  obtain ⟨hprinted, hprinted'⟩ := JsonText.printed_bounds hlow hhigh
  constructor
  · have hinteger := h.integers (-low) (by rw [abs_neg, Nat.abs_cast]; exact_mod_cast hlow')
    push_cast at hinteger
    rw [← hinteger]
    exact h.monotone hprinted
  · have hinteger := h.integers high (by rw [Nat.abs_cast]; exact_mod_cast hhigh')
    push_cast at hinteger
    rw [← hinteger]
    exact h.monotone hprinted'

/-! ### Numerals -/

theorem integerBytes_natCast (n : Nat) : integerBytes n = Numeral.decimal n := by
  rw [integerBytes, if_neg (by omega), Int.natAbs_natCast]

/-- A number without leading zeros is the one of its width. -/
theorem map_decimal {width n : Nat} (hlow : 10 ^ width ≤ n) (hhigh : n < 10 ^ (width + 1)) :
    (Numeral.decimal n).map UInt8.toNat = Text.digits (width + 1) n := by
  induction width generalizing n with
  | zero =>
    have hn : n < 10 := hhigh
    rw [Numeral.decimal_of_lt hn, List.map_singleton, UInt8.toNat_ofNat', Text.digits, Text.digits,
      List.nil_append, Nat.mod_eq_of_lt hn, Nat.mod_eq_of_lt (by omega)]
  | succ width ih =>
    rw [pow_succ] at hlow hhigh
    have hpos : 0 < 10 ^ width := by positivity
    have hsplit : n = n / 10 * 10 + n % 10 := by omega
    have hdiv : 10 ^ width ≤ n / 10 ∧ n / 10 < 10 ^ (width + 1) := by omega
    have hdecimal := Numeral.decimal_concat (show 0 < n / 10 by omega) (Nat.mod_lt n (by omega))
    rw [← hsplit] at hdecimal
    rw [hdecimal, List.map_append, ih hdiv.1 hdiv.2, List.map_singleton, UInt8.toNat_ofNat',
      Nat.mod_eq_of_lt (by omega : 48 + n % 10 < 2 ^ 8)]
    rfl

theorem lt_of_length_decimal {n width : Nat} (hwidth : 0 < width)
    (h : (Numeral.decimal n).length ≤ width) : n < 10 ^ width := by
  rw [Numeral.decimal, List.length_map] at h
  exact (Nat.length_toDigits_le_iff (by decide) hwidth).mp h

/-! ### Lengths -/

theorem length_integerBytes_le {n : Int} {width : Nat} (hwidth : 0 < width)
    (h : n.natAbs < 10 ^ width) : (integerBytes n).length ≤ width + 1 := by
  have hdecimal := Numeral.length_decimal_le hwidth h
  rw [integerBytes]
  split
  · rw [List.length_cons]
    omega
  · omega

theorem length_hundredthsBytes_le {negative : Bool} {n width : Nat} (hwidth : 0 < width)
    (h : n / 100 < 10 ^ width) : (hundredthsBytes negative n).length ≤ width + 4 := by
  have hdecimal := Numeral.length_decimal_le hwidth h
  rw [hundredthsBytes, List.length_append, List.length_append]
  cases negative with
  | false =>
    simp only [Bool.false_eq_true, if_false, List.length_nil, List.length_cons]
    omega
  | true =>
    simp only [if_true, List.length_cons, List.length_nil]
    omega

/-! ### Members -/

theorem valueMembers_eq (nearest : ℚ → ℚ) (members : List (String × JsonText)) :
    valueMembers nearest members =
      members.map fun m ↦ (Text.ofString m.1, value nearest m.2) := by
  induction members with
  | nil => rfl
  | cons m members ih =>
    obtain ⟨key, t⟩ := m
    rw [valueMembers, ih, List.map_cons]

theorem ofString_injective : Function.Injective Text.ofString := by
  intro s t h
  have hinj : Function.Injective (List.map Char.toNat) :=
    List.map_injective_iff.mpr fun _ _ ↦ Char.toNat_inj.mp
  exact String.toList_inj.mp (hinj h)

/-- The keys of a text are different. -/
def Distinct (members : List (String × JsonText)) : Prop := (members.map Prod.fst).Nodup

instance (members : List (String × JsonText)) : Decidable (Distinct members) :=
  inferInstanceAs (Decidable (List.Nodup _))

theorem nodup_valueMembers {nearest : ℚ → ℚ} {members : List (String × JsonText)}
    (h : Distinct members) : ((valueMembers nearest members).map Prod.fst).Nodup := by
  rw [valueMembers_eq, List.map_map]
  have hkeys : (Prod.fst ∘ fun m : String × JsonText ↦ (Text.ofString m.1, value nearest m.2)) =
      Text.ofString ∘ Prod.fst := rfl
  rw [hkeys, ← List.map_map]
  exact h.map ofString_injective

/-- The members of a text are those of its value. -/
theorem member_valueMembers {nearest : ℚ → ℚ} {members : List (String × JsonText)}
    (h : Distinct members) {key : String} {t : JsonText} (hmem : (key, t) ∈ members) :
    Json.member (valueMembers nearest members) (Text.ofString key) = some (t.value nearest) := by
  apply Json.member_of_nodup (nodup_valueMembers h)
  rw [valueMembers_eq]
  exact List.mem_map_of_mem hmem

end JsonText
end EdgeMonitor.Base
