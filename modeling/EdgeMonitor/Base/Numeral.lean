import Mathlib

/-!
# Decimal numerals

Library `Base`. Numbers written in ASCII digits without leading zeros, and the value of any
digits. Digits that do not stand for zero are the numeral of their value behind zeros.
-/

namespace EdgeMonitor.Base
namespace Numeral

/-- One of `0` to `9`. -/
def IsDigit (c : UInt8) : Prop := 48 ≤ c ∧ c ≤ 57

instance decidableIsDigit (c : UInt8) : Decidable (IsDigit c) :=
  inferInstanceAs (Decidable (48 ≤ c ∧ c ≤ 57))

/-- The number that a digit stands for. -/
def digit (c : UInt8) : Nat := c.toNat - 48

/-- The number that digits after a number make of it. -/
def valueFrom (n : Nat) (s : List UInt8) : Nat := s.foldl (fun n c ↦ n * 10 + digit c) n

/-- The number that digits stand for. -/
def value (s : List UInt8) : Nat := valueFrom 0 s

/-- The digits of a number, without leading zeros. -/
def decimal (n : Nat) : List UInt8 := (Nat.toDigits 10 n).map fun c ↦ UInt8.ofNat c.toNat

/-! ### Digits -/

theorem isDigit_iff (c : UInt8) : IsDigit c ↔ 48 ≤ c.toNat ∧ c.toNat ≤ 57 := by
  rw [IsDigit, UInt8.le_iff_toNat_le, UInt8.le_iff_toNat_le]
  rfl

theorem digit_lt {c : UInt8} (h : IsDigit c) : digit c < 10 := by
  rw [isDigit_iff] at h
  rw [digit]
  omega

theorem isDigit_ofNat {d : Nat} (h : d < 10) : IsDigit (UInt8.ofNat (48 + d)) := by
  rw [isDigit_iff, UInt8.toNat_ofNat']
  omega

theorem digit_ofNat {d : Nat} (h : d < 10) : digit (UInt8.ofNat (48 + d)) = d := by
  rw [digit, UInt8.toNat_ofNat']
  omega

theorem ofNat_digit {c : UInt8} (h : IsDigit c) : UInt8.ofNat (48 + digit c) = c := by
  rw [isDigit_iff] at h
  apply UInt8.toNat_inj.mp
  rw [digit, UInt8.toNat_ofNat']
  omega

/-! ### Values -/

@[simp] theorem valueFrom_nil (n : Nat) : valueFrom n [] = n := by
  rw [valueFrom, List.foldl_nil]

@[simp] theorem valueFrom_cons (n : Nat) (c : UInt8) (s : List UInt8) :
    valueFrom n (c :: s) = valueFrom (n * 10 + digit c) s := by
  rw [valueFrom, List.foldl_cons, valueFrom]

theorem valueFrom_append (n : Nat) (s t : List UInt8) :
    valueFrom n (s ++ t) = valueFrom (valueFrom n s) t := List.foldl_append

/-- More digits make no smaller number. -/
theorem le_valueFrom (n : Nat) (s : List UInt8) : n ≤ valueFrom n s := by
  induction s generalizing n with
  | nil => exact le_rfl
  | cons c s ih =>
    rw [valueFrom_cons]
    have hstep : n ≤ n * 10 + digit c := by omega
    exact hstep.trans (ih _)

theorem value_concat (s : List UInt8) (c : UInt8) :
    value (s ++ [c]) = value s * 10 + digit c := by
  rw [value, valueFrom_append]
  rfl

/-- Leading zeros do not count. -/
theorem value_zeros_append (zeros : Nat) (s : List UInt8) :
    value (List.replicate zeros 48 ++ s) = value s := by
  induction zeros with
  | zero => rfl
  | succ zeros ih =>
    rw [List.replicate_succ, List.cons_append]
    exact ih

/-! ### Numerals -/

theorem decimal_of_lt {n : Nat} (h : n < 10) : decimal n = [UInt8.ofNat (48 + n)] := by
  rw [decimal, Nat.toDigits_of_lt_base h, List.map_singleton, Nat.toNat_digitChar_of_lt_ten h]

theorem decimal_concat {n d : Nat} (hn : 0 < n) (hd : d < 10) :
    decimal (n * 10 + d) = decimal n ++ [UInt8.ofNat (48 + d)] := by
  rw [← decimal_of_lt hd, decimal, decimal, decimal, ← List.map_append,
    Nat.toDigits_append_toDigits (by decide) hn hd, Nat.mul_comm]

/-- A number is a digit or ends with one. -/
theorem decimal_cases (n : Nat) :
    n < 10 ∨ ∃ m d, 0 < m ∧ m < n ∧ d < 10 ∧ n = m * 10 + d := by
  by_cases h : n < 10
  · exact .inl h
  · exact .inr ⟨n / 10, n % 10, by omega, by omega, by omega, by omega⟩

theorem decimal_ne_nil (n : Nat) : decimal n ≠ [] := by
  intro h
  exact Nat.toDigits_ne_nil (List.map_eq_nil_iff.mp h)

theorem isDigit_of_mem_decimal {n : Nat} {c : UInt8} (h : c ∈ decimal n) : IsDigit c := by
  induction n using Nat.strong_induction_on with
  | _ n ih =>
    rcases decimal_cases n with hn | ⟨m, d, hm, hlt, hd, rfl⟩
    · rw [decimal_of_lt hn, List.mem_singleton] at h
      exact h ▸ isDigit_ofNat hn
    · rw [decimal_concat hm hd, List.mem_append, List.mem_singleton] at h
      rcases h with h | h
      · exact ih m hlt h
      · exact h ▸ isDigit_ofNat hd

/-- Reading a numeral gives the number. -/
theorem value_decimal (n : Nat) : value (decimal n) = n := by
  induction n using Nat.strong_induction_on with
  | _ n ih =>
    rcases decimal_cases n with hn | ⟨m, d, hm, hlt, hd, rfl⟩
    · rw [decimal_of_lt hn, value, valueFrom_cons, valueFrom_nil, digit_ofNat hn]
      omega
    · rw [decimal_concat hm hd, value_concat, ih m hlt, digit_ofNat hd]

theorem length_decimal_le {n width : Nat} (hwidth : 0 < width) (h : n < 10 ^ width) :
    (decimal n).length ≤ width := by
  rw [decimal, List.length_map]
  exact (Nat.length_toDigits_le_iff (by decide) hwidth).mpr h

/-- Digits whose value is zero are zeros. -/
theorem eq_zeros_of_value {s : List UInt8} (hs : ∀ c ∈ s, IsDigit c) (h : value s = 0) :
    s = List.replicate s.length 48 := by
  apply List.eq_replicate_of_mem
  induction s using List.reverseRecOn with
  | nil =>
    intro c hc
    cases hc
  | append_singleton s c ih =>
    rw [value_concat] at h
    intro c' hc'
    rcases List.mem_append.mp hc' with hold | hlast
    · exact ih (fun c hc ↦ hs c (List.mem_append_left _ hc)) (by omega) c' hold
    · have hdigit : IsDigit c := hs c (List.mem_append_right _ (List.mem_singleton_self c))
      have hzero : digit c = 0 := by omega
      rw [List.mem_singleton.mp hlast, ← ofNat_digit hdigit, hzero]
      rfl

/-- Digits are the numeral of their value behind zeros, unless the value is zero. -/
theorem eq_zeros_append_decimal {s : List UInt8} (hs : ∀ c ∈ s, IsDigit c) (h : 0 < value s) :
    ∃ zeros, s = List.replicate zeros 48 ++ decimal (value s) := by
  induction s using List.reverseRecOn with
  | nil => exact absurd h (lt_irrefl 0)
  | append_singleton s c ih =>
    have hall : ∀ c ∈ s, IsDigit c := fun c hc ↦ hs c (List.mem_append_left _ hc)
    have hdigit : IsDigit c := hs c (List.mem_append_right _ (List.mem_singleton_self c))
    rw [value_concat] at h ⊢
    by_cases hzero : value s = 0
    · refine ⟨s.length, ?_⟩
      have hone : value s * 10 + digit c = digit c := by omega
      rw [hone, decimal_of_lt (digit_lt hdigit), ofNat_digit hdigit]
      exact congrArg (· ++ [c]) (eq_zeros_of_value hall hzero)
    · obtain ⟨zeros, heq⟩ := ih hall (Nat.pos_of_ne_zero hzero)
      refine ⟨zeros, ?_⟩
      rw [decimal_concat (Nat.pos_of_ne_zero hzero) (digit_lt hdigit), ofNat_digit hdigit,
        ← List.append_assoc]
      exact congrArg (· ++ [c]) heq

end Numeral
end EdgeMonitor.Base
