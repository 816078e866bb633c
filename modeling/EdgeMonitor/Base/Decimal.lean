import EdgeMonitor.Base.Text

/-!
# Decimal numbers of a fixed width

Library `Base`. Numbers written with leading zeros to a given number of digits, and the reading
of so many digits at the beginning of a text. Texts of one layout compare like the numbers in
them, the first one first.
-/

namespace EdgeMonitor.Base
namespace Text

/-- The last `width` digits of a number. -/
def digits : Nat → Nat → Text
  | 0, _ => []
  | width + 1, n => digits width (n / 10) ++ [0x30 + n % 10]

/-- `[0-9]`. -/
def isDigit (c : Nat) : Bool := 0x30 ≤ c && c ≤ 0x39

/-- The number that a text of digits stands for. -/
def digitsValue (s : Text) : Nat := s.foldl (fun n c ↦ n * 10 + (c - 0x30)) 0

/-- Read a number of the given width. -/
def readDigits (width : Nat) (s : Text) : Option (Nat × Text) :=
  if (s.take width).length = width ∧ (s.take width).all isDigit then
    some (digitsValue (s.take width), s.drop width)
  else none

/-- Read one character. -/
def expect (c : Nat) : Text → Option Text
  | [] => none
  | c' :: rest => if c' = c then some rest else none

/-- `str.replace` inside of an occurrence of which so many characters are left. -/
def replaceFrom (old new : Text) : Nat → Text → Text
  | _, [] => []
  | left + 1, _ :: s => replaceFrom old new left s
  | 0, c :: s =>
    if old.isPrefixOf (c :: s) then new ++ replaceFrom old new (old.length - 1) s
    else c :: replaceFrom old new 0 s

/-- `str.replace` of a text that is not empty. -/
def replace (s old new : Text) : Text := replaceFrom old new 0 s

/-! ### Reading what was written -/

@[simp] theorem length_digits (width n : Nat) : (digits width n).length = width := by
  induction width generalizing n with
  | zero => rfl
  | succ width ih => rw [digits, List.length_append, ih, List.length_singleton]

theorem isDigit_of_mem_digits {width n c : Nat} (h : c ∈ digits width n) : isDigit c = true := by
  induction width generalizing n with
  | zero => cases h
  | succ width ih =>
    cases List.mem_append.mp h with
    | inl h => exact ih h
    | inr h =>
      rw [List.mem_singleton.mp h, isDigit, Bool.and_eq_true, decide_eq_true_eq,
        decide_eq_true_eq]
      omega

theorem digitsValue_concat (s : Text) (c : Nat) :
    digitsValue (s ++ [c]) = digitsValue s * 10 + (c - 0x30) := by
  rw [digitsValue, List.foldl_append]
  rfl

theorem digitsValue_eq_zero {s : Text} (h : ∀ c ∈ s, c = 0x30) : digitsValue s = 0 := by
  induction s using List.reverseRecOn with
  | nil => rfl
  | append_singleton s c ih =>
    rw [digitsValue_concat, ih fun d hd ↦ h d (List.mem_append_left _ hd),
      h c (List.mem_append_right _ (List.mem_singleton_self c))]

theorem digitsValue_digits {width n : Nat} (h : n < 10 ^ width) :
    digitsValue (digits width n) = n := by
  induction width generalizing n with
  | zero =>
    rw [pow_zero] at h
    have hn : n = 0 := by omega
    rw [hn]
    rfl
  | succ width ih =>
    have hdiv : n / 10 < 10 ^ width := by
      rw [pow_succ] at h
      omega
    rw [digits, digitsValue_concat, ih hdiv]
    omega

/-- A number of the right size is read as it was written. -/
theorem readDigits_digits {width n : Nat} (h : n < 10 ^ width) (rest : Text) :
    readDigits width (digits width n ++ rest) = some (n, rest) := by
  have htake : (digits width n ++ rest).take width = digits width n :=
    List.take_left' (length_digits width n)
  have hdrop : (digits width n ++ rest).drop width = rest :=
    List.drop_left' (length_digits width n)
  have hall : (digits width n).all isDigit = true :=
    List.all_eq_true.mpr fun c hc ↦ isDigit_of_mem_digits hc
  rw [readDigits, htake, hdrop, if_pos ⟨length_digits width n, hall⟩, digitsValue_digits h]

@[simp] theorem expect_cons (c : Nat) (rest : Text) : expect c (c :: rest) = some rest :=
  if_pos rfl

/-- What is read as a number are so many digits. -/
theorem exists_of_readDigits {width n : Nat} {s rest : Text}
    (h : readDigits width s = some (n, rest)) :
    ∃ number, s = number ++ rest ∧ number.length = width ∧ ∀ c ∈ number, isDigit c = true := by
  rw [readDigits] at h
  split at h
  next hwidth =>
    cases h
    exact ⟨s.take width, (List.take_append_drop width s).symm, hwidth.1,
      List.all_eq_true.mp hwidth.2⟩
  next => cases h

theorem eq_cons_of_expect {c : Nat} {s rest : Text} (h : expect c s = some rest) :
    s = c :: rest := by
  cases s with
  | nil => cases h
  | cons c' s =>
    rw [expect] at h
    split at h
    next hc =>
      cases h
      rw [hc]
    next => cases h

/-- Nothing is replaced where no occurrence begins. -/
theorem replaceFrom_append {old new s : Text} {c : Nat} (hold : old.head? = some c)
    (h : c ∉ s) (rest : Text) :
    replaceFrom old new 0 (s ++ rest) = s ++ replaceFrom old new 0 rest := by
  induction s with
  | nil => rfl
  | cons c' s ih =>
    rw [List.mem_cons, not_or] at h
    cases old with
    | nil => cases hold
    | cons o old =>
      cases hold
      have hne : (c :: old).isPrefixOf (c' :: (s ++ rest)) = false := by
        rw [List.isPrefixOf, beq_eq_false_iff_ne.mpr h.1, Bool.false_and]
      rw [List.cons_append, replaceFrom, hne, if_neg Bool.false_ne_true, ih h.2, List.cons_append]

/-! ### Order -/

/-- Texts with beginnings of one length compare by these first. -/
theorem append_lt_append_iff {a b c d : Text} (h : a.length = c.length) :
    a ++ b < c ++ d ↔ a < c ∨ a = c ∧ b < d := by
  induction a generalizing c with
  | nil =>
    rw [List.length_nil] at h
    rw [List.eq_nil_of_length_eq_zero h.symm]
    simp
  | cons x a ih =>
    cases c with
    | nil => cases h
    | cons y c =>
      rw [List.length_cons, List.length_cons, Nat.succ_inj] at h
      rw [List.cons_append, List.cons_append, List.cons_lt_cons_iff, List.cons_lt_cons_iff, ih h,
        List.cons.injEq]
      grind

/-- Numbers of one width compare like their texts. -/
theorem digits_lt_iff {width n m : Nat} (hn : n < 10 ^ width) (hm : m < 10 ^ width) :
    digits width n < digits width m ↔ n < m := by
  induction width generalizing n m with
  | zero =>
    rw [pow_zero] at hn hm
    have hle : ¬ n < m := by omega
    simp [digits, hle]
  | succ width ih =>
    rw [pow_succ] at hn hm
    have hn' : n / 10 < 10 ^ width := by omega
    have hm' : m / 10 < 10 ^ width := by omega
    have heq : digits width (n / 10) = digits width (m / 10) ↔ n / 10 = m / 10 := by
      constructor
      · intro h
        rw [← digitsValue_digits hn', h, digitsValue_digits hm']
      · intro h
        rw [h]
    have hlast : [0x30 + n % 10] < [0x30 + m % 10] ↔ n % 10 < m % 10 := by
      rw [List.cons_lt_cons_iff]
      simp
    rw [digits, digits, append_lt_append_iff (by rw [length_digits, length_digits]), ih hn' hm',
      heq, hlast]
    omega

theorem digits_inj {width n m : Nat} (hn : n < 10 ^ width) (hm : m < 10 ^ width) :
    digits width n = digits width m ↔ n = m := by
  constructor
  · intro h
    rw [← digitsValue_digits hn, h, digitsValue_digits hm]
  · intro h
    rw [h]

end Text
end EdgeMonitor.Base
