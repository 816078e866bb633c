import EdgeMonitor.Base.Numeral
import EdgeMonitor.Firmware.SessionTokens

/-!
# The log cursor

Library `Firmware`. `request_cursor` leaves the reading of the number to `strtoull` and looks
only at where it stopped. A text that `strtoull` reads to its end may begin with white space
and a sign, and its number may be too large.
-/

namespace EdgeMonitor.Firmware
open EdgeMonitor.Base
open EdgeMonitor.Base.Numeral
open ProvisioningService
open DeviceConfig (ascii)

/-- `isspace`. -/
def IsBlank (c : UInt8) : Prop := c = 32 ∨ (9 ≤ c ∧ c ≤ 13)

instance decidableIsBlank (c : UInt8) : Decidable (IsBlank c) :=
  inferInstanceAs (Decidable (c = 32 ∨ (9 ≤ c ∧ c ≤ 13)))

/-- The signs that `strtoull` accepts. -/
def signs : List (List UInt8) := [[], [43], [45]]

/-- A text that `strtoull` reads to its end: white space, a sign, and digits. -/
structure Reads (spaces sign digits text : List UInt8) : Prop where
  text_eq : text = spaces ++ sign ++ digits
  spaces : ∀ c ∈ spaces, IsBlank c
  sign : sign ∈ signs
  nonempty : digits ≠ []
  digits : ∀ c ∈ digits, IsDigit c

/-- What `strtoull` makes of a number with a sign. -/
def signedValue (sign : List UInt8) (number : Nat) : UInt64 :=
  if number > uint64Max.toNat then uint64Max
  else if sign = [45] then 0 - UInt64.ofNat number
  else UInt64.ofNat number

/-! ### `strtoull` -/

theorem decimalDigits_eq_some_iff (s : List UInt8) (parsed result : Nat) :
    decimalDigits s parsed = some result ↔
      (∀ c ∈ s, IsDigit c) ∧ result = valueFrom parsed s := by
  induction s generalizing parsed with
  | nil => simp [decimalDigits, eq_comm]
  | cons c s ih =>
    rw [decimalDigits, List.forall_mem_cons, valueFrom_cons]
    by_cases hdigit : IsDigit c
    · have hc : (c - 48).toNat = digit c := UInt8.toNat_sub_of_le c 48 hdigit.1
      have hrange : 48 ≤ c ∧ c ≤ 57 := hdigit
      rw [if_pos hrange, ih, hc]
      simp [hdigit]
    · have hrange : ¬(48 ≤ c ∧ c ≤ 57) := hdigit
      rw [if_neg hrange]
      simp [hdigit]

/-- No white space is left where digits or a sign begin. -/
theorem dropWhile_blank {spaces rest : List UInt8} (hspaces : ∀ c ∈ spaces, IsBlank c)
    (hrest : ∀ c ∈ rest.head?, ¬IsBlank c) :
    (spaces ++ rest).dropWhile (fun c ↦ c = 32 ∨ (9 ≤ c ∧ c ≤ 13)) = rest := by
  have hall : ∀ c ∈ spaces, decide (c = 32 ∨ (9 ≤ c ∧ c ≤ 13)) = true :=
    fun c hc ↦ decide_eq_true (hspaces c hc)
  rw [List.dropWhile_append_of_pos hall]
  cases rest with
  | nil => rfl
  | cons c rest =>
    apply List.dropWhile_cons_of_neg
    intro hblank
    exact hrest c rfl (of_decide_eq_true hblank)

theorem not_blank_of_digit {c : UInt8} (h : IsDigit c) : ¬IsBlank c := by
  intro hblank
  rcases hblank with rfl | ⟨-, hle⟩
  · exact absurd h (by decide)
  · exact absurd (UInt8.le_trans h.1 hle) (by decide)

/-- The number of `strtoull` behind white space, with the digits behind the sign. -/
def afterSign (sign digits : List UInt8) : Option UInt64 :=
  if digits = [] then none else (decimalDigits digits 0).map (signedValue sign)

theorem afterSign_eq_some_iff (sign digits : List UInt8) (number : UInt64) :
    afterSign sign digits = some number ↔
      digits ≠ [] ∧ (∀ c ∈ digits, IsDigit c) ∧ number = signedValue sign (value digits) := by
  rw [afterSign]
  by_cases hnil : digits = []
  · simp [hnil]
  · rw [if_neg hnil, Option.map_eq_some_iff]
    constructor
    · rintro ⟨parsed, hparsed, rfl⟩
      obtain ⟨hdigits, rfl⟩ := (decimalDigits_eq_some_iff digits 0 parsed).mp hparsed
      exact ⟨hnil, hdigits, rfl⟩
    · rintro ⟨-, hdigits, rfl⟩
      exact ⟨value digits, (decimalDigits_eq_some_iff digits 0 _).mpr ⟨hdigits, rfl⟩, rfl⟩

/-- What `strtoull` does with the text behind the white space. -/
theorem strtoull_eq (text : List UInt8) :
    strtoull text =
      match text.dropWhile (fun c ↦ c = 32 ∨ (9 ≤ c ∧ c ≤ 13)) with
      | [] => none
      | c :: rest =>
        if c = 45 then afterSign [45] rest
        else if c = 43 then afterSign [43] rest
        else afterSign [] (c :: rest) := by
  rw [strtoull]
  cases text.dropWhile (fun c ↦ c = 32 ∨ (9 ≤ c ∧ c ≤ 13)) with
  | nil => simp
  | cons c rest =>
    dsimp only
    by_cases hminus : c = 45
    · subst hminus
      simp [afterSign]
      rfl
    · by_cases hplus : c = 43
      · subst hplus
        simp [afterSign]
        rfl
      · simp [hminus, hplus, afterSign]
        rfl

/-- `strtoull` accepts exactly the texts that it reads to their end. -/
theorem strtoull_eq_some_iff (text : List UInt8) (number : UInt64) :
    strtoull text = some number ↔ ∃ spaces sign digits, Reads spaces sign digits text ∧
      number = signedValue sign (value digits) := by
  rw [strtoull_eq]
  constructor
  · intro h
    have hsplit := List.takeWhile_append_dropWhile (l := text)
      (p := fun c ↦ decide (c = 32 ∨ (9 ≤ c ∧ c ≤ 13)))
    have hspaces : ∀ c ∈ text.takeWhile (fun c ↦ c = 32 ∨ (9 ≤ c ∧ c ≤ 13)), IsBlank c := by
      intro c hc
      have hkept := List.mem_takeWhile_imp hc
      exact of_decide_eq_true hkept
    have hread {sign digits : List UInt8} (hsign : sign ∈ signs)
        (hrest : text.dropWhile (fun c ↦ c = 32 ∨ (9 ≤ c ∧ c ≤ 13)) = sign ++ digits)
        (hafter : afterSign sign digits = some number) :
        ∃ spaces sign digits, Reads spaces sign digits text ∧
          number = signedValue sign (value digits) := by
      obtain ⟨hne, hdigits, hnumber⟩ := (afterSign_eq_some_iff sign digits number).mp hafter
      rw [hrest, ← List.append_assoc] at hsplit
      exact ⟨_, sign, digits, ⟨hsplit.symm, hspaces, hsign, hne, hdigits⟩, hnumber⟩
    cases hrest : text.dropWhile (fun c ↦ c = 32 ∨ (9 ≤ c ∧ c ≤ 13)) with
    | nil =>
      rw [hrest] at h
      cases h
    | cons c rest =>
      rw [hrest] at h
      dsimp only at h
      split at h
      next hminus => exact hread (by decide) (by rw [hrest, hminus]; rfl) h
      next =>
        split at h
        next hplus => exact hread (by decide) (by rw [hrest, hplus]; rfl) h
        next => exact @hread [] _ (by decide) hrest h
  · rintro ⟨spaces, sign, digits, ⟨rfl, hspaces, hsign, hne, hdigits⟩, rfl⟩
    obtain ⟨c, rest, rfl⟩ := List.exists_cons_of_ne_nil hne
    have hc : IsDigit c := hdigits c List.mem_cons_self
    have hafter (sign : List UInt8) : afterSign sign (c :: rest) =
        some (signedValue sign (value (c :: rest))) :=
      (afterSign_eq_some_iff _ _ _).mpr ⟨hne, hdigits, rfl⟩
    rw [List.append_assoc, dropWhile_blank hspaces]
    · simp only [signs, List.mem_cons, List.not_mem_nil, or_false] at hsign
      rcases hsign with rfl | rfl | rfl
      · have hminus : c ≠ 45 := by
          rintro rfl
          exact absurd hc (by decide)
        have hplus : c ≠ 43 := by
          rintro rfl
          exact absurd hc (by decide)
        simp only [List.nil_append, hminus, hplus, if_false]
        exact hafter []
      · exact hafter [43]
      · exact hafter [45]
    · intro first hfirst
      simp only [signs, List.mem_cons, List.not_mem_nil, or_false] at hsign
      rcases hsign with rfl | rfl | rfl
      · cases hfirst
        exact not_blank_of_digit hc
      · cases hfirst
        decide
      · cases hfirst
        decide

/-! ### `request_cursor` -/

/-- A text that `strtoull` reads to its end without being a number below `2 ^ 64`: something
stands before the digits, or their number is too large. -/
def Misread (text : List UInt8) : Prop :=
  ∃ spaces sign digits, Reads spaces sign digits text ∧
    (spaces ++ sign ≠ [] ∨ 2 ^ 64 ≤ value digits)

/-- Digits alone are read without white space and without a sign. -/
theorem Reads.of_digits {spaces sign digits text : List UInt8} (h : Reads spaces sign digits text)
    (htext : ∀ c ∈ text, IsDigit c) : spaces = [] ∧ sign = [] ∧ digits = text := by
  obtain ⟨rfl, hspaces, hsign, -, -⟩ := h
  have hnospace : spaces = [] := by
    apply List.eq_nil_iff_forall_not_mem.mpr
    intro c hc
    have hdigit : IsDigit c := htext c (by simp [hc])
    exact not_blank_of_digit hdigit (hspaces c hc)
  have hnosign : sign = [] := by
    simp only [signs, List.mem_cons, List.not_mem_nil, or_false] at hsign
    rcases hsign with rfl | rfl | rfl
    · rfl
    · exact absurd (htext 43 (by simp)) (by decide)
    · exact absurd (htext 45 (by simp)) (by decide)
  rw [hnospace, hnosign]
  exact ⟨rfl, rfl, rfl⟩

theorem requestCursor_eq {request : HttpRequest} {text : CString}
    (hquery : 0 < request.queryLength ∧ request.queryLength < 128)
    (hafter : request.queryValue "after" = some text) (hlength : text.val.length ≤ 23) :
    requestCursor request = strtoull text.val := by
  have htext : request.queryText "after" 24 = some text.val := by
    simp only [HttpRequest.queryText, hafter]
    exact if_pos (by omega)
  rw [requestCursor, if_neg (by omega), if_neg (by omega), htext]
  dsimp only
  by_cases hnil : text.val = []
  · rw [if_pos hnil, hnil]
    rfl
  · rw [if_neg hnil]

/-- The cursor is read as an unsigned 64-bit decimal exactly when `strtoull` does not read it
otherwise. -/
theorem request_cursor_exact_iff (request : HttpRequest) (text : CString)
    (hquery : 0 < request.queryLength ∧ request.queryLength < 128)
    (hafter : request.queryValue "after" = some text) (hlength : text.val.length ≤ 23) :
    (((requestCursor request).isSome = true ↔
        text.val ≠ [] ∧ (∀ c ∈ text.val, IsDigit c) ∧ value text.val < 2 ^ 64) ∧
      ∀ cursor, requestCursor request = some cursor → cursor.toNat = value text.val) ↔
    ¬Misread text.val := by
  rw [requestCursor_eq hquery hafter hlength]
  constructor
  · rintro ⟨haccepts, -⟩ ⟨spaces, sign, digits, hreads, hwrong⟩
    have hsome : (strtoull text.val).isSome = true := by
      rw [(strtoull_eq_some_iff _ _).mpr ⟨spaces, sign, digits, hreads, rfl⟩]
      rfl
    obtain ⟨-, hdigits, hlt⟩ := haccepts.mp hsome
    obtain ⟨rfl, rfl, rfl⟩ := hreads.of_digits hdigits
    rcases hwrong with hfront | hlarge
    · exact hfront rfl
    · omega
  · intro hright
    have hread {number : UInt64} (h : strtoull text.val = some number) :
        text.val ≠ [] ∧ (∀ c ∈ text.val, IsDigit c) ∧ value text.val < 2 ^ 64 ∧
          number.toNat = value text.val := by
      obtain ⟨spaces, sign, digits, hreads, rfl⟩ := (strtoull_eq_some_iff _ _).mp h
      have hplain : spaces ++ sign = [] ∧ value digits < 2 ^ 64 := by
        by_contra hwrong
        apply hright
        refine ⟨spaces, sign, digits, hreads, ?_⟩
        rw [not_and_or, not_lt] at hwrong
        exact hwrong
      obtain ⟨hfront, hlt⟩ := hplain
      obtain ⟨rfl, rfl⟩ := List.append_eq_nil_iff.mp hfront
      have htext : text.val = digits := hreads.text_eq
      rw [htext]
      refine ⟨hreads.nonempty, hreads.digits, hlt, ?_⟩
      have hle : ¬value digits > uint64Max.toNat := by
        change ¬value digits > 18446744073709551615
        omega
      rw [signedValue, if_neg hle, if_neg (by simp)]
      exact UInt64.toNat_ofNat_of_lt hlt
    constructor
    · constructor
      · intro hsome
        obtain ⟨number, hnumber⟩ := Option.isSome_iff_exists.mp hsome
        obtain ⟨hne, hdigits, hlt, -⟩ := hread hnumber
        exact ⟨hne, hdigits, hlt⟩
      · rintro ⟨hne, hdigits, -⟩
        have hreads : Reads [] [] text.val text.val :=
          ⟨rfl, fun c hc ↦ absurd hc List.not_mem_nil, by decide, hne, hdigits⟩
        rw [(strtoull_eq_some_iff _ _).mpr ⟨_, _, _, hreads, rfl⟩]
        rfl
    · intro cursor hcursor
      exact (hread hcursor).2.2.2

/-- A request whose query is a cursor. -/
def cursorRequest (text : CString) : HttpRequest :=
  { strayRequest with
    queryLength := 6 + text.val.length
    queryValue := fun key ↦ if key = "after" then some text else none }

/-- Seventeen. -/
def sampleCursor : CString := ⟨ascii "17", by decide⟩

theorem request_cursor_exact_iff_sample : requestCursor (cursorRequest sampleCursor) = some 17 ∧
    ((((requestCursor (cursorRequest sampleCursor)).isSome = true ↔ sampleCursor.val ≠ [] ∧
        (∀ c ∈ sampleCursor.val, IsDigit c) ∧ value sampleCursor.val < 2 ^ 64) ∧
      ∀ cursor, requestCursor (cursorRequest sampleCursor) = some cursor →
        cursor.toNat = value sampleCursor.val) ↔ ¬Misread sampleCursor.val) :=
  ⟨by decide +kernel, request_cursor_exact_iff (cursorRequest sampleCursor) sampleCursor
    (by decide +kernel) rfl (by decide +kernel)⟩

/-- Minus one. -/
def minusOne : CString := ⟨ascii "-1", by decide⟩

/-- A cursor with a sign is taken for the largest number. -/
theorem request_cursor_exact_fails :
    (¬ ∀ (request : HttpRequest) (text : CString),
      0 < request.queryLength ∧ request.queryLength < 128 →
      request.queryValue "after" = some text → text.val.length ≤ 23 →
      ((requestCursor request).isSome = true ↔
        text.val ≠ [] ∧ (∀ c ∈ text.val, IsDigit c) ∧ value text.val < 2 ^ 64)) ∧
    requestCursor (cursorRequest minusOne) = some 18446744073709551615 := by
  have hcursor : requestCursor (cursorRequest minusOne) = some 18446744073709551615 := by
    decide +kernel
  refine ⟨fun h ↦ ?_, hcursor⟩
  have haccepts := h (cursorRequest minusOne) minusOne (by decide +kernel) rfl (by decide +kernel)
  rw [hcursor] at haccepts
  have hdigits : ∀ c ∈ minusOne.val, IsDigit c := (haccepts.mp rfl).2.1
  exact absurd hdigits (by decide +kernel)

end EdgeMonitor.Firmware
