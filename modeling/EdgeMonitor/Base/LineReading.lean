import Mathlib

/-!
# Reading lines into a bounded buffer

Library `Base`. `fgets` returns a line with its line feed when it fits the buffer, and otherwise
the line in pieces. Which positions of the input a piece begins at depends on the column alone.
-/

namespace EdgeMonitor.Base
namespace LineReading

variable {room size : Nat} {input line rest before after text : List UInt8} {p : UInt8 → Bool}

/-- `'\n'`. -/
def lineFeed : UInt8 := 0x0A

/-- The bytes up to and including a line feed, as long as there is room, and those behind. -/
def readLine : Nat → List UInt8 → List UInt8 × List UInt8
  | 0, input => ([], input)
  | _ + 1, [] => ([], [])
  | room + 1, b :: input =>
    if b = lineFeed then ([b], input)
    else
      let (line, rest) := readLine room input
      (b :: line, rest)

/-- `fgets` with a buffer of `size` bytes on what can be read; `none` is NULL, the end of it
before any byte. -/
def fgets (size : Nat) (input : List UInt8) : Option (List UInt8 × List UInt8) :=
  let (line, rest) := readLine (size - 1) input
  if line = [] then none else some (line, rest)

/-- How many bytes of the last line come after its beginning. -/
def column (before : List UInt8) : Nat :=
  before.foldl (fun n b ↦ if b = lineFeed then 0 else n + 1) 0

@[simp] theorem column_nil : column [] = 0 := rfl

theorem column_concat (before : List UInt8) (b : UInt8) :
    column (before ++ [b]) = if b = lineFeed then 0 else column before + 1 := by
  rw [column, List.foldl_append]
  rfl

/-! ### One line -/

theorem readLine_append (room : Nat) (input : List UInt8) :
    (readLine room input).1 ++ (readLine room input).2 = input := by
  induction room generalizing input with
  | zero => rfl
  | succ room ih =>
    cases input with
    | nil => rfl
    | cons b input =>
      by_cases hb : b = lineFeed
      · rw [readLine, if_pos hb]
        rfl
      · rw [readLine, if_neg hb]
        exact congrArg (b :: ·) (ih input)

theorem length_readLine_le (room : Nat) (input : List UInt8) :
    (readLine room input).1.length ≤ room := by
  induction room generalizing input with
  | zero => exact Nat.le_refl 0
  | succ room ih =>
    cases input with
    | nil => exact Nat.zero_le _
    | cons b input =>
      by_cases hb : b = lineFeed
      · rw [readLine, if_pos hb]
        exact Nat.succ_le_succ (Nat.zero_le room)
      · rw [readLine, if_neg hb]
        exact Nat.succ_le_succ (ih input)

/-- Nothing comes back only when there is nothing to read or no room. -/
theorem readLine_eq_nil_iff : (readLine room input).1 = [] ↔ room = 0 ∨ input = [] := by
  cases room with
  | zero => simp [readLine]
  | succ room =>
    cases input with
    | nil => simp [readLine]
    | cons b input =>
      by_cases hb : b = lineFeed
      · simp [readLine, if_pos hb]
      · simp [readLine, if_neg hb]

theorem fgets_eq_none_iff (h : 1 < size) : fgets size input = none ↔ input = [] := by
  have hroom : size - 1 ≠ 0 := by omega
  change (if (readLine (size - 1) input).1 = [] then none else _) = none ↔ _
  rw [ite_eq_left_iff]
  simp only [reduceCtorEq, imp_false, not_not, readLine_eq_nil_iff, hroom, false_or]

theorem fgets_eq_some (h : fgets size input = some (line, rest)) :
    readLine (size - 1) input = (line, rest) ∧ line ≠ [] := by
  change (if (readLine (size - 1) input).1 = [] then none else some (readLine (size - 1) input)) =
    some (line, rest) at h
  by_cases hline : (readLine (size - 1) input).1 = []
  · rw [if_pos hline] at h
    cases h
  · rw [if_neg hline] at h
    have hsame := Option.some.inj h
    exact ⟨hsame, by rwa [hsame] at hline⟩

theorem length_lt_of_fgets (h : fgets size input = some (line, rest)) :
    line.length + rest.length = input.length ∧ 0 < line.length := by
  obtain ⟨hread, hne⟩ := fgets_eq_some h
  have hinput := readLine_append (size - 1) input
  rw [hread] at hinput
  rw [← hinput, List.length_append]
  exact ⟨rfl, List.length_pos_of_ne_nil hne⟩

/-- A text that ends before the line does is read as it stands in the input. -/
theorem takeWhile_readLine_iff (hp : p lineFeed = false) (h : text.length < room) :
    (readLine room input).1.takeWhile p = text ↔ input.takeWhile p = text := by
  induction room generalizing input text with
  | zero => omega
  | succ room ih =>
    cases input with
    | nil => rfl
    | cons b input =>
      by_cases hb : b = lineFeed
      · subst hb
        rw [readLine, if_pos rfl, List.takeWhile_cons_of_neg (by simp [hp]),
          List.takeWhile_cons_of_neg (by simp [hp])]
      · rw [readLine, if_neg hb]
        by_cases hpb : p b = true
        · rw [List.takeWhile_cons_of_pos hpb, List.takeWhile_cons_of_pos hpb]
          cases text with
          | nil => simp
          | cons c text =>
            rw [List.cons.injEq, List.cons.injEq, ih (Nat.lt_of_succ_lt_succ h)]
        · rw [List.takeWhile_cons_of_neg hpb, List.takeWhile_cons_of_neg hpb]

/-! ### Where lines begin -/

/-- The last line of two parts begins in the second one if that has a line feed. -/
theorem column_append (before after : List UInt8) :
    column (before ++ after) =
      if lineFeed ∈ after then column after else column before + after.length := by
  induction after using List.reverseRecOn with
  | nil => simp
  | append_singleton after b ih =>
    rw [← List.append_assoc, column_concat, column_concat, ih]
    by_cases hb : b = lineFeed
    · simp [hb]
    · by_cases hafter : lineFeed ∈ after
      · simp [hb, hafter]
      · simp [hb, hafter, Ne.symm hb, Nat.add_assoc]

theorem column_eq_length (h : lineFeed ∉ before) : column before = before.length := by
  have hcolumn := column_append [] before
  rwa [List.nil_append, if_neg h, column_nil, Nat.zero_add] at hcolumn

theorem column_eq_zero (h : before = [] ∨ before.getLast? = some lineFeed) : column before = 0 := by
  cases h with
  | inl h => rw [h, column_nil]
  | inr h =>
    obtain ⟨before, rfl⟩ := List.getLast?_eq_some_iff.mp h
    rw [column_concat, if_pos rfl]

/-- A line ends behind its first line feed. -/
theorem lineFeed_notMem (h : before ++ after = (readLine room input).1) (hafter : after ≠ []) :
    lineFeed ∉ before := by
  induction room generalizing before input with
  | zero => simp_all [readLine]
  | succ room ih =>
    cases before with
    | nil => exact List.not_mem_nil
    | cons c before =>
      cases input with
      | nil => cases h
      | cons b input =>
        by_cases hb : b = lineFeed
        · rw [readLine, if_pos hb, List.cons_append, List.cons.injEq, List.append_eq_nil_iff] at h
          exact absurd h.2.2 hafter
        · rw [readLine, if_neg hb, List.cons_append, List.cons.injEq] at h
          rw [List.mem_cons, not_or, h.1]
          exact ⟨Ne.symm hb, ih h.2⟩

/-- A line that leaves something to read is complete or fills the buffer. -/
theorem column_readLine (h : (readLine room input).2 ≠ []) :
    column (readLine room input).1 = 0 ∨ column (readLine room input).1 = room := by
  have hrun (start : List UInt8) : column (start ++ (readLine room input).1) = 0 ∨
      column (start ++ (readLine room input).1) = column start + room := by
    induction room generalizing input start with
    | zero => exact Or.inr (by simp [readLine])
    | succ room ih =>
      cases input with
      | nil => exact absurd rfl h
      | cons b input =>
        by_cases hb : b = lineFeed
        · left
          rw [readLine, if_pos hb, column_concat, if_pos hb]
        · rw [readLine, if_neg hb] at h ⊢
          have hrest := ih h (start ++ [b])
          rw [column_concat, if_neg hb, List.append_assoc] at hrest
          rw [← Nat.add_assoc, Nat.add_right_comm]
          exact hrest
  have hline := hrun []
  rwa [List.nil_append, column_nil, Nat.zero_add] at hline

/-- Behind a line that is read, pieces begin at the columns at which they begin without it. -/
theorem column_readLine_append (hrest : (readLine room input).2 ≠ []) (before : List UInt8) :
    column ((readLine room input).1 ++ before) % room = column before % room := by
  rw [column_append]
  by_cases hbefore : lineFeed ∈ before
  · rw [if_pos hbefore]
  · rw [if_neg hbefore, column_eq_length hbefore]
    cases column_readLine hrest with
    | inl h => rw [h, Nat.zero_add]
    | inr h => rw [h, Nat.add_mod_left]

end LineReading
end EdgeMonitor.Base
