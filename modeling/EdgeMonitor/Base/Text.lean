import Mathlib

/-!
# Text as code points

Library `Base`. Python strings as lists of code points, which may include surrogates, with
the string methods that the backend uses.
-/

namespace EdgeMonitor.Base

/-- A Python `str`. -/
abbrev Text := List Nat

/-- The comparison behind membership in lists of texts. -/
instance instLawfulBEqText : LawfulBEq Text := inferInstance

namespace Text

/-- The code points of a literal. -/
def ofString (s : String) : Text := s.toList.map Char.toNat

/-- `str.isspace` of one character. -/
def isSpace (c : Nat) : Bool :=
  (0x09 ≤ c && c ≤ 0x0D) || (0x1C ≤ c && c ≤ 0x20) || c == 0x85 || c == 0xA0 || c == 0x1680
    || (0x2000 ≤ c && c ≤ 0x200A) || c == 0x2028 || c == 0x2029 || c == 0x202F || c == 0x205F
    || c == 0x3000

/-- Drop the characters that meet a condition from both ends. -/
def stripWith (p : Nat → Bool) (s : Text) : Text :=
  ((s.dropWhile p).reverse.dropWhile p).reverse

/-- `str.strip` without an argument. -/
def strip (s : Text) : Text := s.stripWith isSpace

/-- A character that is not dropped stays. -/
theorem mem_stripWith {p : Nat → Bool} {s : Text} {c : Nat} (hc : c ∈ s) (h : p c = false) :
    c ∈ s.stripWith p := by
  have hdrop (l : Text) (hl : c ∈ l) : c ∈ l.dropWhile p := by
    rw [← List.takeWhile_append_dropWhile (p := p) (l := l)] at hl
    rcases List.mem_append.mp hl with htake | hdrop
    · rw [List.mem_takeWhile_imp htake] at h
      cases h
    · exact hdrop
  rw [stripWith, List.mem_reverse]
  apply hdrop
  rw [List.mem_reverse]
  exact hdrop s hc

/-- What is stripped to nothing has only characters that are dropped. -/
theorem stripWith_eq_nil_iff {p : Nat → Bool} {s : Text} :
    s.stripWith p = [] ↔ ∀ c ∈ s, p c = true := by
  constructor
  · intro h c hc
    by_contra hp
    have hmem := mem_stripWith hc (Bool.eq_false_iff.mpr hp)
    rw [h] at hmem
    cases hmem
  · intro h
    rw [stripWith, List.dropWhile_eq_nil_iff.mpr h]
    rfl

theorem stripWith_sublist (p : Nat → Bool) (s : Text) : (s.stripWith p).Sublist s := by
  have hinner : ((s.dropWhile p).reverse.dropWhile p).Sublist (s.dropWhile p).reverse :=
    List.dropWhile_sublist p
  have houter := hinner.reverse
  rw [List.reverse_reverse] at houter
  exact houter.trans (List.dropWhile_sublist p)

/-- A character at which `str.splitlines` breaks. -/
def isLineBreak (c : Nat) : Bool :=
  (0x0A ≤ c && c ≤ 0x0D) || (0x1C ≤ c && c ≤ 0x1E) || c == 0x85 || c == 0x2028 || c == 0x2029

/-- `str.splitlines`, behind the given start of a line. -/
def splitlinesFrom (line : Text) : Text → List Text
  | [] => if line = [] then [] else [line]
  | 0x0D :: 0x0A :: rest => line :: splitlinesFrom [] rest
  | c :: rest =>
    if isLineBreak c then line :: splitlinesFrom [] rest else splitlinesFrom (line ++ [c]) rest

/-- `str.splitlines`. -/
def splitlines (s : Text) : List Text := splitlinesFrom [] s

/-- What reading a file in text mode makes of its line ends. -/
def universalNewlines : Text → Text
  | [] => []
  | 0x0D :: 0x0A :: rest => 0x0A :: universalNewlines rest
  | c :: rest => (if c = 0x0D then 0x0A else c) :: universalNewlines rest

/-- `str.partition` at one character, none when it does not occur. -/
def partitionAt (s : Text) (separator : Nat) : Text × Option Text :=
  (s.takeWhile (· ≠ separator),
    if separator ∈ s then some ((s.dropWhile (· ≠ separator)).drop 1) else none)

/-- `[A-Za-z0-9]`. -/
def isAlphanumeric (c : Nat) : Bool :=
  (0x41 ≤ c && c ≤ 0x5A) || (0x61 ≤ c && c ≤ 0x7A) || (0x30 ≤ c && c ≤ 0x39)

/-! ### Lines -/

theorem universalNewlines_cons {c : Nat} (h : c ≠ 0x0D) (s : Text) :
    universalNewlines (c :: s) = c :: s.universalNewlines := by
  cases s with
  | nil => simp [Text.universalNewlines, h]
  | cons c' s => rw [universalNewlines] <;> simp [h]

theorem universalNewlines_append {line : Text} (h : ∀ c ∈ line, isLineBreak c = false)
    (s : Text) : universalNewlines (line ++ s) = line ++ s.universalNewlines := by
  induction line with
  | nil => rfl
  | cons c line ih =>
    have hc : c ≠ 0x0D := by
      rintro rfl
      exact absurd (h _ (List.mem_cons_self ..)) (by decide)
    rw [List.cons_append, universalNewlines_cons hc,
      ih fun c' hc' ↦ h c' (List.mem_cons_of_mem _ hc'), List.cons_append]

theorem splitlinesFrom_append {line : Text} (h : ∀ c ∈ line, isLineBreak c = false)
    (start s : Text) : splitlinesFrom start (line ++ 0x0A :: s) =
      (start ++ line) :: splitlinesFrom [] s := by
  induction line generalizing start with
  | nil => rw [List.nil_append, List.append_nil, splitlinesFrom] <;> simp [isLineBreak]
  | cons c line ih =>
    have hc := h c (List.mem_cons_self ..)
    have hr : c ≠ 0x0D := by
      rintro rfl
      exact absurd hc (by decide)
    rw [List.cons_append, splitlinesFrom]
    · rw [hc]
      simp only [Bool.false_eq_true, if_false]
      rw [ih (fun c' hc' ↦ h c' (List.mem_cons_of_mem _ hc')), List.append_assoc]
      rfl
    · simp [hr]

/-- A line that breaks nowhere. -/
def Unbroken (line : Text) : Prop := ∀ c ∈ line, isLineBreak c = false

theorem unbroken_nil : Unbroken [] := fun _ hc ↦ by cases hc

theorem unbroken_of_mem_splitlinesFrom {start s line : Text} (hstart : Unbroken start)
    (h : line ∈ splitlinesFrom start s) : Unbroken line := by
  induction start, s using splitlinesFrom.induct with
  | case1 => simp [splitlinesFrom] at h
  | case2 start hne =>
    simp only [splitlinesFrom, if_neg hne, List.mem_singleton] at h
    exact h ▸ hstart
  | case3 start rest ih =>
    rw [splitlinesFrom] at h
    rcases List.mem_cons.mp h with rfl | h
    · exact hstart
    · exact ih unbroken_nil h
  | case4 start c rest hcrlf hbreak ih =>
    rw [splitlinesFrom, if_pos hbreak] at h
    · rcases List.mem_cons.mp h with rfl | h
      · exact hstart
      · exact ih unbroken_nil h
    · exact hcrlf
  | case5 start c rest hcrlf hbreak ih =>
    rw [splitlinesFrom, if_neg hbreak] at h
    · refine ih (fun c' hc' ↦ ?_) h
      rcases List.mem_append.mp hc' with hc' | hc'
      · exact hstart c' hc'
      · rw [List.mem_singleton.mp hc']
        exact eq_false_of_ne_true hbreak
    · exact hcrlf

/-- The lines of a text break nowhere. -/
theorem unbroken_of_mem_splitlines {s line : Text} (h : line ∈ s.splitlines) : Unbroken line :=
  unbroken_of_mem_splitlinesFrom unbroken_nil h

/-- Joined lines are split again. -/
theorem splitlines_intercalate {lines : List Text} (h : ∀ line ∈ lines, Unbroken line)
    (hne : lines ≠ []) : splitlines (List.intercalate [0x0A] lines ++ [0x0A]) = lines := by
  induction lines with
  | nil => exact absurd rfl hne
  | cons line lines ih =>
    have hline := h line List.mem_cons_self
    cases lines with
    | nil =>
      rw [List.intercalate_singleton, splitlines, splitlinesFrom_append hline]
      rfl
    | cons line' lines =>
      rw [List.intercalate_cons_cons, List.append_assoc, List.append_assoc, List.singleton_append,
        splitlines, splitlinesFrom_append hline, List.nil_append]
      exact congrArg (line :: ·) (ih (fun l hl ↦ h l (List.mem_cons_of_mem _ hl)) (by simp))

/-- A carriage return is not joined with a line feed that is not right behind it. -/
private theorem not_crlf_append {c : Nat} {s rest : Text}
    (h : ∀ rest, c = 0x0D → s = 0x0A :: rest → False) (hlast : ¬ (c = 0x0D ∧ s = [])) :
    ∀ rest', c = 0x0D → s ++ 0x0A :: rest = 0x0A :: rest' → False := by
  intro rest' hc hs
  cases s with
  | nil => exact hlast ⟨hc, rfl⟩
  | cons c' s => exact h s hc (by rw [(List.cons.inj hs).1])

/-- What follows a line feed is split into lines of its own. -/
theorem splitlinesFrom_append_newline (start s rest : Text) :
    ∃ lines, splitlinesFrom start (s ++ 0x0A :: rest) = lines ++ splitlinesFrom [] rest := by
  induction start, s using splitlinesFrom.induct with
  | case1 =>
    refine ⟨[[]], ?_⟩
    rw [List.nil_append, splitlinesFrom] <;> simp [isLineBreak]
  | case2 start =>
    refine ⟨[start], ?_⟩
    rw [List.nil_append, splitlinesFrom] <;> simp [isLineBreak]
  | case3 start s ih =>
    obtain ⟨lines, ih⟩ := ih
    refine ⟨start :: lines, ?_⟩
    rw [List.cons_append, List.cons_append, splitlinesFrom, ih, List.cons_append]
  | case4 start c s hcrlf hbreak ih =>
    by_cases hlast : c = 0x0D ∧ s = []
    · obtain ⟨rfl, rfl⟩ := hlast
      exact ⟨[start], by rw [List.singleton_append, splitlinesFrom]; rfl⟩
    · obtain ⟨lines, ih⟩ := ih
      refine ⟨start :: lines, ?_⟩
      rw [List.cons_append, splitlinesFrom, if_pos hbreak, ih, List.cons_append]
      exact not_crlf_append hcrlf hlast
  | case5 start c s hcrlf hbreak ih =>
    have hlast : ¬ (c = 0x0D ∧ s = []) := by
      rintro ⟨rfl, -⟩
      exact hbreak (by decide)
    obtain ⟨lines, ih⟩ := ih
    refine ⟨lines, ?_⟩
    rw [List.cons_append, splitlinesFrom, if_neg hbreak, ih]
    exact not_crlf_append hcrlf hlast

/-- The last line of a text. -/
theorem getLast?_splitlines (s : Text) {line : Text} (h : Unbroken line) :
    (s ++ 0x0A :: (line ++ [0x0A])).splitlines.getLast? = some line := by
  obtain ⟨lines, hlines⟩ := splitlinesFrom_append_newline [] s (line ++ [0x0A])
  rw [splitlines, hlines, splitlinesFrom_append h]
  simp [splitlinesFrom]

/-- Joined lines are read as they were written. -/
theorem universalNewlines_intercalate {lines : List Text} (h : ∀ line ∈ lines, Unbroken line) :
    universalNewlines (List.intercalate [0x0A] lines ++ [0x0A]) =
      List.intercalate [0x0A] lines ++ [0x0A] := by
  induction lines with
  | nil => rfl
  | cons line lines ih =>
    have hline := h line List.mem_cons_self
    cases lines with
    | nil => rw [List.intercalate_singleton, universalNewlines_append hline]; rfl
    | cons line' lines =>
      rw [List.intercalate_cons_cons, List.append_assoc, List.append_assoc, List.singleton_append,
        universalNewlines_append hline, universalNewlines_cons (by decide),
        ih fun l hl ↦ h l (List.mem_cons_of_mem _ hl)]

/-- The lines of a text do not depend on how its line ends are written. -/
theorem splitlinesFrom_universalNewlines (start s : Text) :
    splitlinesFrom start s.universalNewlines = splitlinesFrom start s := by
  induction start, s using splitlinesFrom.induct with
  | case1 => rfl
  | case2 start => rfl
  | case3 start rest ih =>
    rw [universalNewlines, splitlinesFrom, splitlinesFrom, if_pos (by decide), ih]
    simp
  | case4 start c rest hcrlf hbreak ih =>
    rw [universalNewlines, splitlinesFrom, splitlinesFrom, if_pos hbreak, if_pos, ih]
    · split
      · decide
      · exact hbreak
    · exact hcrlf
    · intro rest' hc
      split at hc
      · cases hc
      · contradiction
    · exact hcrlf
  | case5 start c rest hcrlf hbreak ih =>
    have hc : c ≠ 0x0D := by
      rintro rfl
      exact hbreak (by decide)
    rw [universalNewlines, if_neg hc, splitlinesFrom, splitlinesFrom, if_neg hbreak, if_neg hbreak,
      ih]
    · exact hcrlf
    · exact fun _ h ↦ absurd h hc
    · exact hcrlf

theorem splitlines_universalNewlines (s : Text) : s.universalNewlines.splitlines = s.splitlines :=
  splitlinesFrom_universalNewlines [] s

/-- Lines that are each ended are split again. -/
theorem splitlines_flatMap {α : Type} {f : α → Text} {xs : List α}
    (h : ∀ x ∈ xs, Unbroken (f x)) : splitlines (xs.flatMap fun x ↦ f x ++ [0x0A]) = xs.map f := by
  induction xs with
  | nil => rfl
  | cons x xs ih =>
    rw [List.flatMap_cons, List.append_assoc, List.singleton_append, splitlines,
      splitlinesFrom_append (h x List.mem_cons_self), List.nil_append, List.map_cons]
    exact congrArg (f x :: ·) (ih fun y hy ↦ h y (List.mem_cons_of_mem _ hy))

/-- `str.partition` at the first separator. -/
theorem partitionAt_append {s : Text} {separator : Nat} (h : separator ∉ s) (rest : Text) :
    (s ++ separator :: rest).partitionAt separator = (s, some rest) := by
  have hall : ∀ c ∈ s, (decide (c ≠ separator)) = true :=
    fun c hc ↦ decide_eq_true fun heq ↦ h (heq ▸ hc)
  rw [partitionAt, List.takeWhile_append_of_pos hall, List.dropWhile_append_of_pos hall]
  simp

end Text

end EdgeMonitor.Base
