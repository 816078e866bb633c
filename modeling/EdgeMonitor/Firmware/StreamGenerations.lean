import EdgeMonitor.Base.Numeral
import EdgeMonitor.Firmware.ProvisioningHttp

/-!
# Texts of stream generations

Library `Firmware`. A login returns the session generation as a decimal text, and a stream is
asked for with such a text. `provisioning_security_parse_stream_generation` reads the texts of
the numbers that an unsigned 64-bit integer other than zero can hold, and no others.
-/

namespace EdgeMonitor.Firmware
open EdgeMonitor.Base
open EdgeMonitor.Base.Numeral

/-- `provisioning_security_parse_stream_generation` with what it leaves in its output; both
arguments may be null pointers. -/
def parseStreamGenerationInto (value : Option CString) (generation : Option UInt64) :
    Bool × Option UInt64 :=
  match value, generation with
  | some value, some before =>
    match parseStreamGeneration value.val with
    | some parsed => (true, some parsed)
    | none => (false, some before)
  | _, generation => (false, generation)

/-- `generation_text`, `provisioning_service.c:436–438`: `snprintf` into 21 characters. -/
def generationText (generation : UInt64) : List UInt8 := (decimal generation.toNat).take 20

/-! ### The loop -/

/-- The guard lets exactly the digits through with which the number still fits. -/
theorem guard_iff {parsed digit : UInt64} (hdigit : digit.toNat < 10) :
    parsed > (18446744073709551615 - digit) / 10 ↔
      18446744073709551616 ≤ parsed.toNat * 10 + digit.toNat := by
  have hsub : (18446744073709551615 - digit).toNat = 18446744073709551615 - digit.toNat := by
    rw [UInt64.toNat_sub_of_le]
    · rfl
    · rw [UInt64.le_iff_toNat_le]
      exact Nat.le_of_lt_succ digit.toNat_lt
  rw [gt_iff_lt, UInt64.lt_iff_toNat_lt, UInt64.toNat_div, hsub]
  change (18446744073709551615 - digit.toNat) / 10 < parsed.toNat ↔ _
  omega

theorem toNat_step {parsed digit : UInt64}
    (h : parsed.toNat * 10 + digit.toNat < 18446744073709551616) :
    (parsed * 10 + digit).toNat = parsed.toNat * 10 + digit.toNat := by
  rw [UInt64.toNat_add, UInt64.toNat_mul]
  change (parsed.toNat * 10 % 18446744073709551616 + digit.toNat) % 18446744073709551616 = _
  omega

theorem toNat_digit {c : UInt8} (h : IsDigit c) : (c - 48).toUInt64.toNat = digit c := by
  rw [UInt8.toNat_toUInt64, UInt8.toNat_sub_of_le]
  · rfl
  · exact h.1

theorem outside_iff (c : UInt8) : (decide (c < 48) || decide (c > 57)) = true ↔ ¬IsDigit c := by
  rw [IsDigit, not_and_or, UInt8.not_le, UInt8.not_le, Bool.or_eq_true, decide_eq_true_eq,
    decide_eq_true_eq]

/-- The loop reads digits whose value fits, and no number on the way is too large. -/
theorem parseDigits_eq_some_iff (s : List UInt8) (parsed result : UInt64) :
    parseDigits s parsed = some result ↔ (∀ c ∈ s, IsDigit c) ∧
      valueFrom parsed.toNat s < 18446744073709551616 ∧
        result.toNat = valueFrom parsed.toNat s := by
  induction s generalizing parsed with
  | nil =>
    rw [parseDigits, Option.some.injEq, valueFrom_nil, ← UInt64.toNat_inj]
    have hlt := parsed.toNat_lt
    constructor
    · intro h
      exact ⟨fun c hc ↦ absurd hc List.not_mem_nil, hlt, h.symm⟩
    · intro h
      exact h.2.2.symm
  | cons c s ih =>
    rw [parseDigits, List.forall_mem_cons, valueFrom_cons]
    by_cases hdigit : IsDigit c
    · have hlt : (c - 48).toUInt64.toNat < 10 := toNat_digit hdigit ▸ digit_lt hdigit
      rw [if_neg fun houtside ↦ (outside_iff c).mp houtside hdigit]
      dsimp only
      by_cases hguard : parsed > (18446744073709551615 - (c - 48).toUInt64) / 10
      · rw [if_pos hguard]
        rw [guard_iff hlt, toNat_digit hdigit] at hguard
        have hlarge := le_valueFrom (parsed.toNat * 10 + digit c) s
        constructor
        · intro h
          cases h
        · intro h
          have hsmall := h.2.1
          omega
      · rw [if_neg hguard]
        rw [guard_iff hlt, not_le] at hguard
        rw [ih, toNat_step hguard, toNat_digit hdigit]
        constructor
        · intro h
          exact ⟨⟨hdigit, h.1⟩, h.2⟩
        · intro h
          exact ⟨h.1.2, h.2⟩
    · rw [if_pos ((outside_iff c).mpr hdigit)]
      constructor
      · intro h
        cases h
      · intro h
        exact absurd h.1.1 hdigit

/-! ### Texts -/

/-- A text of digits whose value is a generation. -/
structure IsGeneration (s : List UInt8) (generation : UInt64) : Prop where
  digits : ∀ c ∈ s, IsDigit c
  value_eq : value s = generation.toNat
  pos : 0 < generation.toNat

theorem parseStreamGeneration_eq_some_iff (s : List UInt8) (generation : UInt64) :
    parseStreamGeneration s = some generation ↔ IsGeneration s generation := by
  have hloop := parseDigits_eq_some_iff s 0
  rw [parseStreamGeneration]
  constructor
  · intro h
    split at h
    · cases h
    · split at h
      next parsed hparsed =>
        split at h
        · cases h
        next hzero =>
          cases h
          obtain ⟨hdigits, -, hvalue⟩ := (hloop generation).mp hparsed
          refine ⟨hdigits, hvalue.symm, ?_⟩
          apply Nat.pos_of_ne_zero
          intro hnat
          exact hzero (UInt64.toNat_inj.mp hnat)
      · cases h
  · rintro ⟨hdigits, hvalue, hpos⟩
    have hne : s ≠ [] := by
      rintro rfl
      rw [← hvalue] at hpos
      exact absurd hpos (lt_irrefl 0)
    have hparsed : parseDigits s 0 = some generation := by
      have hlt : value s < 18446744073709551616 := by
        rw [hvalue]
        exact generation.toNat_lt
      exact (hloop generation).mpr ⟨hdigits, hlt, hvalue.symm⟩
    have hzero : generation ≠ 0 := by
      rintro rfl
      exact absurd hpos (lt_irrefl 0)
    rw [if_neg hne, hparsed]
    exact if_neg hzero

theorem generationText_eq (generation : UInt64) :
    generationText generation = decimal generation.toNat := by
  apply List.take_of_length_le
  apply length_decimal_le (by decide)
  exact generation.toNat_lt.trans (by decide)

/-- The texts of a generation are its numeral behind zeros. -/
theorem isGeneration_iff {generation : UInt64} (h : generation ≠ 0) (s : List UInt8) :
    IsGeneration s generation ↔
      ∃ zeros, s = List.replicate zeros 48 ++ generationText generation := by
  have hpos : 0 < generation.toNat := by
    apply Nat.pos_of_ne_zero
    intro hzero
    exact h (UInt64.toNat_inj.mp hzero)
  rw [generationText_eq]
  constructor
  · rintro ⟨hdigits, hvalue, -⟩
    obtain ⟨zeros, heq⟩ := eq_zeros_append_decimal hdigits (hvalue ▸ hpos)
    exact ⟨zeros, hvalue ▸ heq⟩
  · rintro ⟨zeros, rfl⟩
    refine ⟨?_, ?_, hpos⟩
    · intro c hc
      rcases List.mem_append.mp hc with hzero | hdecimal
      · rw [List.eq_of_mem_replicate hzero]
        decide
      · exact isDigit_of_mem_decimal hdecimal
    · rw [value_zeros_append, value_decimal]

/-- A text is accepted for the generation that it stands for, and a refused one leaves the output
as it was. -/
theorem parseStreamGenerationInto_spec (text : CString) (before : UInt64) :
    let result := parseStreamGenerationInto (some text) (some before)
    (result.1 = true ↔ text.val ≠ [] ∧ (∀ c ∈ text.val, IsDigit c) ∧ 1 ≤ value text.val ∧
        value text.val ≤ 2 ^ 64 - 1) ∧
      (result.1 = true → ∃ generation, result.2 = some generation ∧
        generation.toNat = value text.val) ∧
      (result.1 = false → result.2 = some before) := by
  intro result
  have hparse := parseStreamGeneration_eq_some_iff text.val
  cases hparsed : parseStreamGeneration text.val with
  | some generation =>
    have hresult : result = (true, some generation) := by
      simp only [result, parseStreamGenerationInto, hparsed]
    obtain ⟨hdigits, hvalue, hpos⟩ := (hparse generation).mp hparsed
    rw [hresult]
    refine ⟨iff_of_true rfl ⟨?_, hdigits, ?_, ?_⟩, fun _ ↦ ⟨generation, rfl, hvalue.symm⟩, ?_⟩
    · intro hnil
      rw [← hvalue, hnil] at hpos
      exact absurd hpos (lt_irrefl 0)
    · rw [hvalue]
      exact hpos
    · rw [hvalue]
      exact Nat.le_of_lt_succ generation.toNat_lt
    · intro h
      cases h
  | none =>
    have hresult : result = (false, some before) := by
      simp only [result, parseStreamGenerationInto, hparsed]
    rw [hresult]
    refine ⟨iff_of_false (by simp) ?_, ?_, fun _ ↦ rfl⟩
    · rintro ⟨-, hdigits, hpos, hle⟩
      have hnat : (UInt64.ofNat (value text.val)).toNat = value text.val :=
        UInt64.toNat_ofNat_of_lt (Nat.lt_of_le_pred (by decide) hle)
      have hsome := (hparse (UInt64.ofNat (value text.val))).mpr
        ⟨hdigits, hnat.symm, hnat.symm ▸ hpos⟩
      rw [hparsed] at hsome
      cases hsome
    · intro h
      cases h

/-- What a login prints is read back. -/
theorem parse_generationText {generation : UInt64} (h : generation ≠ 0) :
    parseStreamGeneration (generationText generation) = some generation := by
  rw [parseStreamGeneration_eq_some_iff, isGeneration_iff h]
  exact ⟨0, rfl⟩

theorem nextGeneration_ne_zero (service : ProvisioningService) : service.nextGeneration ≠ 0 := by
  rw [ProvisioningService.nextGeneration]
  split
  · decide
  next h => exact h

/-- A stream is authorized by the text of the generation that is logged in. -/
theorem streamRequestAuthorized_iff (requested : List UInt8) (authenticated : UInt64)
    (expiresMs nowMs : Int) :
    streamRequestAuthorized requested authenticated expiresMs nowMs = true ↔
      authenticated ≠ 0 ∧ nowMs < expiresMs ∧
        ∃ zeros, requested = List.replicate zeros 48 ++ generationText authenticated := by
  rw [streamRequestAuthorized, Bool.and_eq_true, Bool.and_eq_true, bne_iff_ne, decide_eq_true_eq,
    beq_iff_eq, parseStreamGeneration_eq_some_iff, and_assoc]
  constructor
  · rintro ⟨hzero, htime, htext⟩
    exact ⟨hzero, htime, (isGeneration_iff hzero requested).mp htext⟩
  · rintro ⟨hzero, htime, htext⟩
    exact ⟨hzero, htime, (isGeneration_iff hzero requested).mpr htext⟩

/-- Generations are printed and read without loss: the accepted texts are the decimal numbers
from 1 to the largest, the loop over any text never holds another number than that of the digits
it has read, and the text of the generation that is logged in authorizes a stream. -/
theorem stream_generations_round_trip :
    (∀ (text : CString) (before : UInt64),
      let result := parseStreamGenerationInto (some text) (some before)
      (result.1 = true ↔ text.val ≠ [] ∧ (∀ c ∈ text.val, IsDigit c) ∧ 1 ≤ value text.val ∧
          value text.val ≤ 2 ^ 64 - 1) ∧
        (result.1 = true → ∃ generation, result.2 = some generation ∧
          generation.toNat = value text.val) ∧
        (result.1 = false → result.2 = some before)) ∧
    (∀ (front : List UInt8) (parsed : UInt64), parseDigits front 0 = some parsed →
      parsed.toNat = value front) ∧
    (∀ generation : UInt64, generation ≠ 0 →
      parseStreamGeneration (generationText generation) = some generation) ∧
    (∀ service : ProvisioningService, parseStreamGeneration
      (generationText service.nextGeneration) = some service.nextGeneration) ∧
    ∀ (requested : CString) (authenticated : UInt64) (expiresMs nowMs : Int),
      streamRequestAuthorized requested.val authenticated expiresMs nowMs = true ↔
        authenticated ≠ 0 ∧ nowMs < expiresMs ∧
          ∃ zeros, requested.val = List.replicate zeros 48 ++ generationText authenticated := by
  refine ⟨parseStreamGenerationInto_spec, ?_, fun _ ↦ parse_generationText, ?_, ?_⟩
  · intro front parsed h
    exact ((parseDigits_eq_some_iff front 0 parsed).mp h).2.2
  · intro service
    exact parse_generationText (nextGeneration_ne_zero service)
  · intro requested authenticated expiresMs nowMs
    exact streamRequestAuthorized_iff requested.val authenticated expiresMs nowMs

end EdgeMonitor.Firmware
