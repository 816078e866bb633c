import EdgeMonitor.Base.Text

/-!
# Text as UTF-8

Library `Base`. The bytes of a text whose code points are scalar values once its pairs of
surrogates are joined. ASCII characters are bytes of their own and occur nowhere else, so
separators can be looked for in either form.
-/

namespace EdgeMonitor.Base
namespace Text

/-- The first half of a surrogate pair. -/
def isHighSurrogate (c : Nat) : Bool := 0xD800 ≤ c && c ≤ 0xDBFF

/-- The second half of a surrogate pair. -/
def isLowSurrogate (c : Nat) : Bool := 0xDC00 ≤ c && c ≤ 0xDFFF

/-- The code points of a text in UTF-16. -/
def joinSurrogates : Text → Text
  | [] => []
  | [c] => [c]
  | high :: low :: rest =>
    if isHighSurrogate high && isLowSurrogate low then
      (0x10000 + (high - 0xD800) * 0x400 + (low - 0xDC00)) :: joinSurrogates rest
    else high :: joinSurrogates (low :: rest)

/-- The bytes of a scalar value. -/
def utf8Character (c : Nat) : Option (List UInt8) :=
  if c < 0x80 then some [.ofNat c]
  else if c < 0x800 then some [.ofNat (0xC0 + c / 0x40), .ofNat (0x80 + c % 0x40)]
  else if isHighSurrogate c || isLowSurrogate c then none
  else if c < 0x10000 then
    some [.ofNat (0xE0 + c / 0x1000), .ofNat (0x80 + c / 0x40 % 0x40), .ofNat (0x80 + c % 0x40)]
  else if c < 0x110000 then
    some [.ofNat (0xF0 + c / 0x40000), .ofNat (0x80 + c / 0x1000 % 0x40),
      .ofNat (0x80 + c / 0x40 % 0x40), .ofNat (0x80 + c % 0x40)]
  else none

/-- The bytes of scalar values. -/
def utf8Scalars : Text → Option (List UInt8)
  | [] => some []
  | c :: rest => do return (← utf8Character c) ++ (← utf8Scalars rest)

/-- The bytes of a text, none when it has a surrogate without its other half. -/
def utf8 (s : Text) : Option (List UInt8) := utf8Scalars s.joinSurrogates

/-- The bytes of a text that is ASCII. -/
def asciiBytes (s : Text) : List UInt8 := s.map UInt8.ofNat

/-! ### Characters -/

theorem joinSurrogates_cons {c : Nat} (h : isHighSurrogate c = false) (s : Text) :
    joinSurrogates (c :: s) = c :: joinSurrogates s := by
  cases s with
  | nil => rfl
  | cons low rest => rw [joinSurrogates, h, Bool.false_and, if_neg Bool.false_ne_true]

theorem isHighSurrogate_of_lt {c : Nat} (h : c < 0x80) : isHighSurrogate c = false := by
  simp only [isHighSurrogate, Bool.and_eq_false_iff, decide_eq_false_iff_not]
  omega

theorem isLowSurrogate_of_lt {c : Nat} (h : c < 0x80) : isLowSurrogate c = false := by
  simp only [isLowSurrogate, Bool.and_eq_false_iff, decide_eq_false_iff_not]
  omega

theorem utf8Character_of_lt {c : Nat} (h : c < 0x80) : utf8Character c = some [.ofNat c] :=
  if_pos h

/-- The bytes of other characters are not ASCII. -/
theorem le_of_mem_utf8Character {c : Nat} {bytes : List UInt8} (hc : 0x80 ≤ c)
    (h : utf8Character c = some bytes) : bytes ≠ [] ∧ ∀ b ∈ bytes, 0x80 ≤ b.toNat := by
  have hbyte {n m : Nat} (hn : 0x80 ≤ n) (hm : n + m < 0x100) :
      0x80 ≤ (UInt8.ofNat (n + m)).toNat := by
    rw [UInt8.toNat_ofNat']
    omega
  rw [utf8Character, if_neg (by omega)] at h
  split at h
  next hlt =>
    obtain rfl := Option.some.inj h
    refine ⟨List.cons_ne_nil _ _, ?_⟩
    simp only [List.mem_cons, List.not_mem_nil, or_false, forall_eq_or_imp, forall_eq]
    exact ⟨hbyte (by omega) (by omega), hbyte (by omega) (by omega)⟩
  split at h
  next => cases h
  split at h
  next hlt =>
    obtain rfl := Option.some.inj h
    refine ⟨List.cons_ne_nil _ _, ?_⟩
    simp only [List.mem_cons, List.not_mem_nil, or_false, forall_eq_or_imp, forall_eq]
    exact ⟨hbyte (by omega) (by omega), hbyte (by omega) (by omega), hbyte (by omega) (by omega)⟩
  split at h
  next hlt =>
    obtain rfl := Option.some.inj h
    refine ⟨List.cons_ne_nil _ _, ?_⟩
    simp only [List.mem_cons, List.not_mem_nil, or_false, forall_eq_or_imp, forall_eq]
    exact ⟨hbyte (by omega) (by omega), hbyte (by omega) (by omega), hbyte (by omega) (by omega),
      hbyte (by omega) (by omega)⟩
  next => cases h

/-! ### Texts -/

theorem joinSurrogates_append {c : Nat} (h : c < 0x80) (s rest : Text) :
    joinSurrogates (s ++ c :: rest) = joinSurrogates s ++ c :: joinSurrogates rest := by
  induction s using joinSurrogates.induct with
  | case1 => exact joinSurrogates_cons (isHighSurrogate_of_lt h) rest
  | case2 c' =>
    change joinSurrogates (c' :: c :: rest) = c' :: c :: joinSurrogates rest
    rw [joinSurrogates, isLowSurrogate_of_lt h, Bool.and_false, if_neg Bool.false_ne_true,
      joinSurrogates_cons (isHighSurrogate_of_lt h)]
  | case3 high low s hpair ih =>
    rw [List.cons_append, List.cons_append, joinSurrogates, joinSurrogates, if_pos hpair,
      if_pos hpair, ih, List.cons_append]
  | case4 high low s hpair ih =>
    rw [List.cons_append, List.cons_append, joinSurrogates, joinSurrogates, if_neg hpair,
      if_neg hpair, ← List.cons_append, ih, List.cons_append]

/-- A character that is not ASCII is one of a text whose first character is not ASCII. -/
theorem exists_joinSurrogates_cons {c : Nat} (h : 0x80 ≤ c) (s : Text) :
    ∃ c' rest, joinSurrogates (c :: s) = c' :: rest ∧ 0x80 ≤ c' := by
  cases s with
  | nil => exact ⟨c, [], rfl, h⟩
  | cons low rest =>
    rw [joinSurrogates]
    split
    next => exact ⟨_, _, rfl, by omega⟩
    next => exact ⟨c, _, rfl, h⟩

theorem utf8Scalars_cons_eq_some {c : Nat} {s : Text} {bytes : List UInt8} :
    utf8Scalars (c :: s) = some bytes ↔ ∃ x y, utf8Character c = some x ∧
      utf8Scalars s = some y ∧ bytes = x ++ y := by
  simp only [utf8Scalars, bind, Option.bind_eq_some_iff, pure, Option.some.injEq]
  refine ⟨?_, ?_⟩
  · rintro ⟨x, hx, y, hy, rfl⟩
    exact ⟨x, y, hx, hy, rfl⟩
  · rintro ⟨x, y, hx, hy, rfl⟩
    exact ⟨x, hx, y, hy, rfl⟩

theorem utf8Scalars_append_eq_some {s t : Text} {bytes : List UInt8} :
    utf8Scalars (s ++ t) = some bytes ↔ ∃ x y, utf8Scalars s = some x ∧
      utf8Scalars t = some y ∧ bytes = x ++ y := by
  induction s generalizing bytes with
  | nil => simp [utf8Scalars]
  | cons c s ih =>
    rw [List.cons_append, utf8Scalars_cons_eq_some]
    constructor
    · rintro ⟨x, yz, hx, hyz, rfl⟩
      obtain ⟨y, z, hy, hz, rfl⟩ := ih.mp hyz
      exact ⟨x ++ y, z, utf8Scalars_cons_eq_some.mpr ⟨x, y, hx, hy, rfl⟩, hz,
        (List.append_assoc x y z).symm⟩
    · rintro ⟨xy, z, hxy, hz, rfl⟩
      obtain ⟨x, y, hx, hy, rfl⟩ := utf8Scalars_cons_eq_some.mp hxy
      exact ⟨x, y ++ z, hx, ih.mpr ⟨y, z, hy, hz, rfl⟩, List.append_assoc x y z⟩

@[simp] theorem utf8_nil : utf8 [] = some [] := rfl

/-- An ASCII character separates the bytes before it from those after it. -/
theorem utf8_append_cons_eq_some {c : Nat} (h : c < 0x80) {s rest : Text} {bytes : List UInt8} :
    utf8 (s ++ c :: rest) = some bytes ↔ ∃ x y, utf8 s = some x ∧ utf8 rest = some y ∧
      bytes = x ++ UInt8.ofNat c :: y := by
  rw [utf8, joinSurrogates_append h, utf8Scalars_append_eq_some]
  constructor
  · rintro ⟨x, cy, hx, hcy, rfl⟩
    obtain ⟨_, y, hc, hy, rfl⟩ := utf8Scalars_cons_eq_some.mp hcy
    rw [utf8Character_of_lt h, Option.some.injEq] at hc
    subst hc
    exact ⟨x, y, hx, hy, rfl⟩
  · rintro ⟨x, y, hx, hy, rfl⟩
    exact ⟨x, UInt8.ofNat c :: y, hx, utf8Scalars_cons_eq_some.mpr
      ⟨_, y, utf8Character_of_lt h, hy, rfl⟩, rfl⟩

theorem utf8_cons_eq_some {c : Nat} (h : c < 0x80) {rest : Text} {bytes : List UInt8} :
    utf8 (c :: rest) = some bytes ↔ ∃ y, utf8 rest = some y ∧ bytes = UInt8.ofNat c :: y := by
  rw [← List.nil_append (c :: rest), utf8_append_cons_eq_some h]
  simp

/-- The bytes behind ASCII text. -/
theorem utf8_append_eq_some {s rest : Text} {bytes : List UInt8} (h : ∀ c ∈ s, c < 0x80) :
    utf8 (s ++ rest) = some bytes ↔ ∃ y, utf8 rest = some y ∧ bytes = asciiBytes s ++ y := by
  induction s generalizing bytes with
  | nil => simp [asciiBytes]
  | cons c s ih =>
    have ih {bytes : List UInt8} : utf8 (s ++ rest) = some bytes ↔ _ :=
      ih fun c' hc' ↦ h c' (List.mem_cons_of_mem _ hc')
    rw [List.cons_append, utf8_cons_eq_some (h c List.mem_cons_self)]
    constructor
    · rintro ⟨sy, hsy, rfl⟩
      obtain ⟨y, hy, rfl⟩ := ih.mp hsy
      exact ⟨y, hy, rfl⟩
    · rintro ⟨y, hy, rfl⟩
      exact ⟨_, ih.mpr ⟨y, hy, rfl⟩, rfl⟩

/-- ASCII text is its own bytes. -/
theorem utf8_eq_asciiBytes {s : Text} (h : ∀ c ∈ s, c < 0x80) : utf8 s = some (asciiBytes s) := by
  have happend : utf8 (s ++ []) = some (asciiBytes s) :=
    (utf8_append_eq_some h).mpr ⟨[], rfl, (List.append_nil _).symm⟩
  rwa [List.append_nil] at happend

/-- A byte of an ASCII character starts the text with this character. -/
theorem exists_of_utf8_eq_cons {c : Nat} (h : c < 0x80) {s : Text} {bytes : List UInt8}
    (hs : utf8 s = some (UInt8.ofNat c :: bytes)) : ∃ rest, s = c :: rest ∧ utf8 rest = some bytes := by
  cases s with
  | nil => cases hs
  | cons c' s =>
    by_cases hc' : c' < 0x80
    · obtain ⟨y, hy, heq⟩ := (utf8_cons_eq_some hc').mp hs
      obtain ⟨hsame, rfl⟩ := List.cons.inj heq
      have htoNat := congrArg UInt8.toNat hsame
      rw [UInt8.toNat_ofNat', UInt8.toNat_ofNat'] at htoNat
      obtain rfl : c' = c := by omega
      exact ⟨s, rfl, hy⟩
    · obtain ⟨first, rest, hjoin, hfirst⟩ := exists_joinSurrogates_cons (by omega : 0x80 ≤ c') s
      rw [utf8, hjoin] at hs
      obtain ⟨x, y, hx, -, heq⟩ := utf8Scalars_cons_eq_some.mp hs
      obtain ⟨hne, hbytes⟩ := le_of_mem_utf8Character hfirst hx
      obtain ⟨b, x, rfl⟩ := List.exists_cons_of_ne_nil hne
      have hb := hbytes b List.mem_cons_self
      rw [← (List.cons.inj heq).1, UInt8.toNat_ofNat'] at hb
      omega

theorem mem_of_mem_joinSurrogates {c : Nat} (h : c < 0x80) {s : Text}
    (hmem : c ∈ joinSurrogates s) : c ∈ s := by
  induction s using joinSurrogates.induct with
  | case1 => exact hmem
  | case2 => exact hmem
  | case3 high low s hpair ih =>
    rw [joinSurrogates, if_pos hpair, List.mem_cons] at hmem
    rcases hmem with hmem | hmem
    · omega
    · exact List.mem_cons_of_mem _ (List.mem_cons_of_mem _ (ih hmem))
  | case4 high low s hpair ih =>
    rw [joinSurrogates, if_neg hpair, List.mem_cons] at hmem
    exact List.mem_cons.mpr (hmem.imp_right ih)

theorem mem_of_mem_utf8Scalars {c : Nat} (h : c < 0x80) {s : Text} {bytes : List UInt8}
    (hs : utf8Scalars s = some bytes) (hmem : UInt8.ofNat c ∈ bytes) : c ∈ s := by
  induction s generalizing bytes with
  | nil =>
    obtain rfl := Option.some.inj hs
    exact absurd hmem List.not_mem_nil
  | cons c' s ih =>
    obtain ⟨x, y, hx, hy, rfl⟩ := utf8Scalars_cons_eq_some.mp hs
    rcases List.mem_append.mp hmem with hmem | hmem
    · by_cases hc' : c' < 0x80
      · rw [utf8Character_of_lt hc', Option.some.injEq] at hx
        rw [← hx, List.mem_singleton] at hmem
        have htoNat := congrArg UInt8.toNat hmem
        rw [UInt8.toNat_ofNat', UInt8.toNat_ofNat'] at htoNat
        obtain rfl : c = c' := by omega
        exact List.mem_cons_self
      · have hb := (le_of_mem_utf8Character (by omega) hx).2 _ hmem
        rw [UInt8.toNat_ofNat'] at hb
        omega
    · exact List.mem_cons_of_mem _ (ih hy hmem)

/-- ASCII characters are found among the bytes. -/
theorem mem_utf8_iff {c : Nat} (h : c < 0x80) {s : Text} {bytes : List UInt8}
    (hs : utf8 s = some bytes) : UInt8.ofNat c ∈ bytes ↔ c ∈ s := by
  constructor
  · exact fun hmem ↦ mem_of_mem_joinSurrogates h (mem_of_mem_utf8Scalars h hs hmem)
  · intro hmem
    obtain ⟨before, after, rfl⟩ := List.append_of_mem hmem
    obtain ⟨x, y, -, -, rfl⟩ := (utf8_append_cons_eq_some h).mp hs
    simp

end Text
end EdgeMonitor.Base
