import EdgeMonitor.Firmware.DeviceConfig
import EdgeMonitor.Firmware.CandidateRequest

/-!
# The setup secret

Library `Firmware`. `device_config_get_or_create_setup_secret` of
`firmware/components/device_config/device_config.c` with its two pointers not null. The mutex,
NVS and the entropy source answer what they will: a read fails or finds what is stored, and a
write that fails may leave anything under the key.
-/

namespace EdgeMonitor.Firmware
open EdgeMonitor.Base

/-! ### Storage -/

/-- What NVS holds under `KEY_SETUP`. -/
inductive SetupSecretKey where
  | absent
  | text (value : CString)
  /-- A value that is no string. -/
  | other

/-- `nvs_get_str` with the error that it fails with, if it does. -/
def nvsGetStr (key : SetupSecretKey) (fault : Option EspErr) : Except EspErr CString :=
  match fault with
  | some e => .error e
  | none =>
    match key with
    | .absent => .error .nvsNotFound
    | .text value => .ok value
    | .other => .error .nvsTypeMismatch

/-- What the calls of the function answer. The first read fails as not found where there is no
key and nowhere else. -/
structure SetupSecretCalls where
  lock : EspErr
  openNamespace : EspErr
  sizeFault : Option { e : EspErr // e ≠ .ok ∧ e ≠ .nvsNotFound }
  valueFault : Option { e : EspErr // e ≠ .ok }
  random : Vector UInt8 16
  set : EspErr
  commit : EspErr
  /-- What is under the key after a set or a commit that failed. -/
  leftover : SetupSecretKey

/-- A set and, if it succeeds, a commit. -/
def SetupSecretCalls.store (calls : SetupSecretCalls) : EspErr :=
  if calls.set = .ok then calls.commit else calls.set

/-! ### Characters -/

/-- The hexadecimal digits, `device_config.c:716–719`. -/
def hexadecimal (c : UInt8) : Bool :=
  (0x30 ≤ c && c ≤ 0x39) || (0x41 ≤ c && c ≤ 0x46) || (0x61 ≤ c && c ≤ 0x66)

/-- A digit of `%02x`. -/
def hexDigit (n : Nat) : UInt8 := .ofNat (if n < 10 then 0x30 + n else 0x57 + n)

/-- The text that `%02x` makes of bytes. -/
def hexText (bytes : List UInt8) : List UInt8 :=
  bytes.flatMap fun b ↦ [hexDigit (b.toNat / 16), hexDigit (b.toNat % 16)]

/-- A string in a buffer of zeros. -/
def secretBuffer (s : List UInt8) : CharArray 33 := Vector.ofFn fun i ↦ s.getD i 0

theorem hexadecimal_hexDigit {n : Nat} (h : n < 16) : hexadecimal (hexDigit n) = true := by
  have hall : ∀ n : Fin 16, hexadecimal (hexDigit n) = true := by decide
  exact hall ⟨n, h⟩

theorem hexadecimal_of_mem_hexText {bytes : List UInt8} {c : UInt8} (h : c ∈ hexText bytes) :
    hexadecimal c = true := by
  obtain ⟨b, -, hc⟩ := List.mem_flatMap.mp h
  have hlt := b.toNat_lt
  rcases List.mem_cons.mp hc with rfl | hc
  · apply hexadecimal_hexDigit
    omega
  · rw [List.mem_singleton.mp hc]
    apply hexadecimal_hexDigit
    omega

theorem length_hexText (bytes : List UInt8) : (hexText bytes).length = 2 * bytes.length := by
  induction bytes with
  | nil => rfl
  | cons b bytes ih =>
    rw [hexText, List.flatMap_cons, List.length_append]
    change 2 + (hexText bytes).length = _
    rw [ih, List.length_cons]
    omega

theorem zero_not_mem_hexText (bytes : List UInt8) : 0 ∉ hexText bytes := by
  intro h
  exact absurd (hexadecimal_of_mem_hexText h) (by decide)

theorem getElem_secretBuffer (s : List UInt8) (i : Nat) (h : i < 33) :
    (secretBuffer s)[i] = s.getD i 0 := by
  simp [secretBuffer]

/-- The buffer of no string is zero throughout. -/
theorem secretBuffer_nil {c : UInt8} (h : c ∈ (secretBuffer []).toList) : c = 0 := by
  obtain ⟨i, hi, rfl⟩ := List.getElem_of_mem h
  have hlt : i < 33 := by simpa using hi
  rw [Vector.getElem_toList, getElem_secretBuffer [] i hlt, List.getD_nil]

/-- A string that leaves one byte of the buffer is followed by its NUL. -/
theorem toList_secretBuffer {s : List UInt8} (h : s.length = 32) :
    (secretBuffer s).toList = s ++ [0] := by
  apply List.ext_getElem
  · simp [h]
  · intro i hi hi'
    have hlt : i < 33 := by simpa using hi
    rw [Vector.getElem_toList, getElem_secretBuffer s i hlt, List.getElem_append]
    by_cases hin : i < s.length
    · rw [dif_pos hin, List.getD_eq_getElem _ _ hin]
    · rw [dif_neg hin, List.getD_eq_default _ _ (by omega), List.getElem_singleton]

/-! ### The function -/

/-- What the function returns and writes, whether it drew entropy, and what is under the key
afterwards. -/
structure SetupSecretResult where
  result : EspErr
  secret : CharArray 33
  generated : Bool
  entropyDrawn : Bool
  key : SetupSecretKey

/-- The secret that is drawn for an absent key. -/
def drawnSecret (calls : SetupSecretCalls) : CString :=
  ⟨hexText calls.random.toList, zero_not_mem_hexText _⟩

/-- `device_config_get_or_create_setup_secret`, `device_config.c:670–738`. -/
def getOrCreateSetupSecret (calls : SetupSecretCalls) (key : SetupSecretKey) :
    SetupSecretResult :=
  let refused (result : EspErr) : SetupSecretResult := ⟨result, secretBuffer [], false, false, key⟩
  if calls.lock ≠ .ok then refused calls.lock
  else if calls.openNamespace ≠ .ok then refused calls.openNamespace
  else
    match nvsGetStr key (calls.sizeFault.map Subtype.val) with
    | .error .nvsNotFound =>
      if calls.store = .ok then
        ⟨.ok, secretBuffer (drawnSecret calls).val, true, true, .text (drawnSecret calls)⟩
      else ⟨calls.store, secretBuffer [], false, true, calls.leftover⟩
    | .error result => refused result
    | .ok sized =>
      if sized.val.length + 1 ≠ 33 then refused .invalidSize
      else
        match nvsGetStr key (calls.valueFault.map Subtype.val) with
        | .error result => refused result
        | .ok stored =>
          let storedSecret := secretBuffer stored.val
          if (storedSecret.toList.take 32).any (!hexadecimal ·) then refused .invalidArg
          else if storedSecret[32] = 0 then ⟨.ok, storedSecret, false, false, key⟩
          else refused .invalidSize

/-! ### Its exits -/

/-- How a call ends. -/
inductive SetupSecretExit (calls : SetupSecretCalls) (key : SetupSecretKey) :
    SetupSecretResult → Prop
  /-- Nothing is drawn. -/
  | refused (result : EspErr) (h : result ≠ .ok) :
      SetupSecretExit calls key ⟨result, secretBuffer [], false, false, key⟩
  /-- The drawn secret is not stored. -/
  | notStored (result : EspErr) (h : result ≠ .ok) (habsent : key = .absent) :
      SetupSecretExit calls key ⟨result, secretBuffer [], false, true, calls.leftover⟩
  /-- The drawn secret is stored. -/
  | drawn (habsent : key = .absent) :
      SetupSecretExit calls key
        ⟨.ok, secretBuffer (drawnSecret calls).val, true, true, .text (drawnSecret calls)⟩
  /-- The stored secret is read. -/
  | stored (value : CString) (hkey : key = .text value) (hlength : value.val.length = 32)
      (hdigits : ∀ c ∈ value.val, hexadecimal c = true) :
      SetupSecretExit calls key ⟨.ok, secretBuffer value.val, false, false, key⟩

/-- Only an absent key is read as not found by the first read. -/
theorem nvsGetStr_notFound {key : SetupSecretKey}
    {fault : Option { e : EspErr // e ≠ .ok ∧ e ≠ .nvsNotFound }}
    (h : nvsGetStr key (fault.map Subtype.val) = .error .nvsNotFound) : key = .absent := by
  cases fault with
  | some e =>
    have heq : e.val = .nvsNotFound := Except.error.inj h
    exact absurd heq e.property.2
  | none =>
    cases key with
    | absent => rfl
    | text value => cases h
    | other => cases h

/-- A read that succeeds finds what is stored. -/
theorem nvsGetStr_eq_ok {key : SetupSecretKey} {fault : Option EspErr} {value : CString}
    (h : nvsGetStr key fault = .ok value) : key = .text value := by
  cases fault with
  | some e => cases h
  | none =>
    cases key with
    | absent => cases h
    | text stored =>
      cases h
      rfl
    | other => cases h

/-- A read never fails with success. -/
theorem nvsGetStr_ne_ok {key : SetupSecretKey} {p : EspErr → Prop}
    {fault : Option { e : EspErr // p e }} {result : EspErr} (hp : ∀ e, p e → e ≠ .ok)
    (h : nvsGetStr key (fault.map Subtype.val) = .error result) : result ≠ .ok := by
  cases fault with
  | some e =>
    have heq : e.val = result := Except.error.inj h
    rw [← heq]
    exact hp e.val e.property
  | none =>
    cases key with
    | absent =>
      cases h
      decide
    | text value => cases h
    | other =>
      cases h
      decide

/-- The digits are looked for in the buffer, where those of the stored text stand. -/
theorem digits_secretBuffer {value : List UInt8} (hlength : value.length = 32)
    (h : ¬((secretBuffer value).toList.take 32).any (!hexadecimal ·) = true) :
    ∀ c ∈ value, hexadecimal c = true := by
  intro c hc
  rw [toList_secretBuffer hlength, List.take_left' hlength, List.any_eq_true] at h
  by_cases hdigit : hexadecimal c = true
  · exact hdigit
  · exact absurd ⟨c, hc, by simpa using hdigit⟩ h

theorem getOrCreateSetupSecret_exit (calls : SetupSecretCalls) (key : SetupSecretKey) :
    SetupSecretExit calls key (getOrCreateSetupSecret calls key) := by
  unfold getOrCreateSetupSecret
  by_cases hlock : calls.lock = .ok
  · by_cases hopen : calls.openNamespace = .ok
    · simp only [ne_eq, hlock, hopen, not_true_eq_false, ↓reduceIte]
      split
      next hread =>
        have habsent := nvsGetStr_notFound hread
        split
        next => exact .drawn habsent
        next hresult => exact .notStored _ hresult habsent
      next result hfound hread =>
        exact .refused result (nvsGetStr_ne_ok (fun _ h ↦ h.1) hread)
      next sized hread =>
        by_cases hsize : sized.val.length + 1 = 33
        · simp only [hsize, not_true_eq_false, ↓reduceIte]
          split
          next result hvalue => exact .refused result (nvsGetStr_ne_ok (fun _ h ↦ h) hvalue)
          next stored hvalue =>
            have hkey := nvsGetStr_eq_ok hvalue
            have hsame : sized = stored := by
              have hsized := nvsGetStr_eq_ok hread
              rw [hkey] at hsized
              cases hsized
              rfl
            have hlength : stored.val.length = 32 := by
              rw [← hsame]
              omega
            split
            next => exact .refused .invalidArg (by decide)
            next hdigits =>
              split
              next => exact .stored stored hkey hlength (digits_secretBuffer hlength hdigits)
              next => exact .refused .invalidSize (by decide)
        · simp only [hsize, not_false_eq_true, ↓reduceIte]
          exact .refused .invalidSize (by decide)
    · simp only [ne_eq, hlock, hopen, not_true_eq_false, not_false_eq_true, ↓reduceIte]
      exact .refused calls.openNamespace hopen
  · simp only [ne_eq, hlock, not_false_eq_true, ↓reduceIte]
    exact .refused calls.lock hlock

/-- Success hands out the 32 hexadecimal digits that are stored afterwards. The secret counts as
generated exactly when there was none and the call succeeded; nothing is drawn over a key that is
there; and a call that fails hands out zeros and leaves such a key as it was. -/
theorem setup_secret_fails_closed (calls : SetupSecretCalls) (key : SetupSecretKey) :
    let r := getOrCreateSetupSecret calls key
    (r.result = .ok →
      ∃ value, r.key = .text value ∧ value.val.length = 32 ∧
        (∀ c ∈ value.val, hexadecimal c = true) ∧ r.secret.toList = value.val ++ [0]) ∧
    (r.generated = true ↔ key = .absent ∧ r.result = .ok) ∧
    (r.entropyDrawn = true → key = .absent) ∧
    (r.result ≠ .ok →
      (∀ c ∈ r.secret.toList, c = 0) ∧ r.generated = false ∧ (key ≠ .absent → r.key = key)) := by
  intro r
  have hexit : SetupSecretExit calls key r := getOrCreateSetupSecret_exit calls key
  have hzero : ∀ c ∈ (secretBuffer []).toList, c = 0 := fun _ hc ↦ secretBuffer_nil hc
  generalize r = r at hexit
  cases hexit with
  | refused result h =>
    refine ⟨fun hok ↦ absurd hok h, ?_, ?_, fun _ ↦ ⟨hzero, rfl, fun _ ↦ rfl⟩⟩
    · simp [h]
    · simp
  | notStored result h habsent =>
    refine ⟨fun hok ↦ absurd hok h, ?_, fun _ ↦ habsent, fun _ ↦ ⟨hzero, rfl, ?_⟩⟩
    · simp [h]
    · exact fun hkey ↦ absurd habsent hkey
  | drawn habsent =>
    have hlength : (drawnSecret calls).val.length = 32 := by
      rw [drawnSecret, length_hexText, Vector.length_toList]
    refine ⟨fun _ ↦ ⟨drawnSecret calls, rfl, hlength, ?_, toList_secretBuffer hlength⟩, ?_, ?_, ?_⟩
    · intro c hc
      exact hexadecimal_of_mem_hexText hc
    · simp [habsent]
    · simp [habsent]
    · simp
  | stored value hkey hlength hdigits =>
    refine ⟨fun _ ↦ ⟨value, hkey, hlength, hdigits, toList_secretBuffer hlength⟩, ?_, ?_, ?_⟩
    · simp [hkey]
    · simp
    · simp

end EdgeMonitor.Firmware
