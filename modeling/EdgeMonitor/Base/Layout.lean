import Mathlib
/-!
# Fixed-width byte layouts

Library `Base`. A layout identifies the values of a type with the byte strings of
one length, so that reading back what was written and writing back what was read
are both identities. Layouts of bytes, little-endian words and byte arrays are
combined in sequence; a record format is one such sequence.
-/

namespace EdgeMonitor.Base

universe u v

/-- A bijection between `α` and the byte strings of length `size`.
`decode` is total; only its values on strings of that length are meaningful. -/
structure Layout (α : Type u) where
  size : Nat
  encode : α → List UInt8
  decode : List UInt8 → α
  length_encode : ∀ a, (encode a).length = size
  decode_encode : ∀ a, decode (encode a) = a
  encode_decode : ∀ bs, bs.length = size → encode (decode bs) = bs

namespace Layout

attribute [simp] length_encode decode_encode

/-- A layout determines a value by its bytes. -/
theorem encode_injective {α : Type u} (l : Layout α) {a b : α}
    (h : l.encode a = l.encode b) : a = b := by
  rw [← l.decode_encode a, h, l.decode_encode]

/-! ### Bytes and byte arrays -/

/-- A single byte. -/
def byte : Layout UInt8 where
  size := 1
  encode b := [b]
  decode bs := bs.headD 0
  length_encode _ := rfl
  decode_encode _ := rfl
  encode_decode bs h := by
    obtain ⟨b, rfl⟩ := List.length_eq_one_iff.mp h
    rfl

/-- A byte array of fixed length, every byte of it. -/
def array (n : Nat) : Layout (Vector UInt8 n) where
  size := n
  encode v := v.toList
  decode bs := if h : bs.length = n then ⟨bs.toArray, by simpa using h⟩ else .replicate n 0
  length_encode v := by simp
  decode_encode v := by
    simp only [Vector.length_toList, ↓reduceDIte]
    apply Vector.toList_inj.mp
    simp [Vector.toList]
  encode_decode bs h := by simp [h, Vector.toList]

/-! ### Little-endian words -/

/-- The low-to-high bytes of a 16-bit word. -/
def bytes16 (w : UInt16) : List UInt8 := [w.toUInt8, (w >>> 8).toUInt8]

/-- A 16-bit word from its low-to-high bytes. -/
def word16 (b₀ b₁ : UInt8) : UInt16 := b₀.toUInt16 ||| (b₁.toUInt16 <<< 8)

/-- The low-to-high bytes of a 32-bit word. -/
def bytes32 (w : UInt32) : List UInt8 :=
  [w.toUInt8, (w >>> 8).toUInt8, (w >>> 16).toUInt8, (w >>> 24).toUInt8]

/-- A 32-bit word from its low-to-high bytes. -/
def word32 (b₀ b₁ b₂ b₃ : UInt8) : UInt32 :=
  b₀.toUInt32 ||| (b₁.toUInt32 <<< 8) ||| (b₂.toUInt32 <<< 16) ||| (b₃.toUInt32 <<< 24)

/-- The radix-256 value of a 16-bit word. -/
theorem toNat_word16 (b₀ b₁ : UInt8) :
    (word16 b₀ b₁).toNat = b₀.toNat + 256 * b₁.toNat := by
  have h₀ := b₀.toNat_lt
  have h₁ := b₁.toNat_lt
  have hs : b₁.toNat <<< 8 % 2 ^ 16 = b₁.toNat <<< 8 := by
    rw [Nat.shiftLeft_eq]; omega
  simp only [word16, UInt16.toNat_or, UInt16.toNat_shiftLeft, UInt8.toNat_toUInt16]
  change b₀.toNat ||| b₁.toNat <<< 8 % 2 ^ 16 = _
  rw [hs, Nat.or_comm, ← Nat.shiftLeft_add_eq_or_of_lt (by omega : b₀.toNat < 2 ^ 8),
    Nat.shiftLeft_eq]
  omega

/-- The radix-256 value of a 32-bit word. -/
theorem toNat_word32 (b₀ b₁ b₂ b₃ : UInt8) :
    (word32 b₀ b₁ b₂ b₃).toNat =
      b₀.toNat + 256 * b₁.toNat + 65536 * b₂.toNat + 16777216 * b₃.toNat := by
  have h₀ := b₀.toNat_lt
  have h₁ := b₁.toNat_lt
  have h₂ := b₂.toNat_lt
  have h₃ := b₃.toNat_lt
  have hs₁ : b₁.toNat <<< 8 % 2 ^ 32 = b₁.toNat <<< 8 := by
    rw [Nat.shiftLeft_eq]; omega
  have hs₂ : b₂.toNat <<< 16 % 2 ^ 32 = b₂.toNat <<< 16 := by
    rw [Nat.shiftLeft_eq]; omega
  have hs₃ : b₃.toNat <<< 24 % 2 ^ 32 = b₃.toNat <<< 24 := by
    rw [Nat.shiftLeft_eq]; omega
  simp only [word32, UInt32.toNat_or, UInt32.toNat_shiftLeft, UInt8.toNat_toUInt32]
  change ((b₀.toNat ||| b₁.toNat <<< 8 % 2 ^ 32) ||| b₂.toNat <<< 16 % 2 ^ 32) |||
    b₃.toNat <<< 24 % 2 ^ 32 = _
  rw [hs₁, hs₂, hs₃]
  -- Each byte is shifted clear of all the bytes below it, so disjunction adds.
  have e₁ : b₀.toNat ||| b₁.toNat <<< 8 = b₀.toNat + 256 * b₁.toNat := by
    rw [Nat.or_comm, ← Nat.shiftLeft_add_eq_or_of_lt (by omega : b₀.toNat < 2 ^ 8),
      Nat.shiftLeft_eq]
    omega
  rw [e₁, Nat.or_comm (_ + _),
    ← Nat.shiftLeft_add_eq_or_of_lt (by omega : b₀.toNat + 256 * b₁.toNat < 2 ^ 16),
    Nat.or_comm, ← Nat.shiftLeft_add_eq_or_of_lt (by rw [Nat.shiftLeft_eq]; omega),
    Nat.shiftLeft_eq, Nat.shiftLeft_eq]
  omega

private theorem word16_bytes16 (w : UInt16) :
    word16 w.toUInt8 (w >>> 8).toUInt8 = w := by
  have h := w.toNat_lt
  apply UInt16.toNat_inj.mp
  rw [toNat_word16]
  simp only [UInt16.toNat_toUInt8, UInt16.toNat_shiftRight]
  change w.toNat % 2 ^ 8 + 256 * ((w.toNat >>> 8) % 2 ^ 8) = w.toNat
  rw [Nat.shiftRight_eq_div_pow]
  omega

private theorem bytes16_word16 (b₀ b₁ : UInt8) : bytes16 (word16 b₀ b₁) = [b₀, b₁] := by
  have h₀ := b₀.toNat_lt
  have h₁ := b₁.toNat_lt
  have hw := toNat_word16 b₀ b₁
  have low : (word16 b₀ b₁).toUInt8 = b₀ := by
    apply UInt8.toNat_inj.mp
    rw [UInt16.toNat_toUInt8, hw]
    omega
  have high : ((word16 b₀ b₁) >>> 8).toUInt8 = b₁ := by
    apply UInt8.toNat_inj.mp
    rw [UInt16.toNat_toUInt8, UInt16.toNat_shiftRight, hw]
    change (b₀.toNat + 256 * b₁.toNat) >>> 8 % 2 ^ 8 = b₁.toNat
    rw [Nat.shiftRight_eq_div_pow]
    omega
  rw [bytes16, low, high]

private theorem word32_bytes32 (w : UInt32) :
    word32 w.toUInt8 (w >>> 8).toUInt8 (w >>> 16).toUInt8 (w >>> 24).toUInt8 = w := by
  have h := w.toNat_lt
  apply UInt32.toNat_inj.mp
  rw [toNat_word32]
  simp only [UInt32.toNat_toUInt8, UInt32.toNat_shiftRight]
  change w.toNat % 2 ^ 8 + 256 * (w.toNat >>> 8 % 2 ^ 8) + 65536 * (w.toNat >>> 16 % 2 ^ 8) +
    16777216 * (w.toNat >>> 24 % 2 ^ 8) = w.toNat
  simp only [Nat.shiftRight_eq_div_pow]
  omega

private theorem bytes32_word32 (b₀ b₁ b₂ b₃ : UInt8) :
    bytes32 (word32 b₀ b₁ b₂ b₃) = [b₀, b₁, b₂, b₃] := by
  have h₀ := b₀.toNat_lt
  have h₁ := b₁.toNat_lt
  have h₂ := b₂.toNat_lt
  have h₃ := b₃.toNat_lt
  have hw := toNat_word32 b₀ b₁ b₂ b₃
  -- The byte at bit position `k` is one radix-256 digit of the word.
  have digit (k : UInt32) (b : UInt8)
      (hb : (word32 b₀ b₁ b₂ b₃).toNat >>> (k.toNat % 32) % 2 ^ 8 = b.toNat) :
      ((word32 b₀ b₁ b₂ b₃) >>> k).toUInt8 = b := by
    apply UInt8.toNat_inj.mp
    rw [UInt32.toNat_toUInt8, UInt32.toNat_shiftRight]
    exact hb
  have e₀ : (word32 b₀ b₁ b₂ b₃).toUInt8 = b₀ := by
    apply UInt8.toNat_inj.mp
    rw [UInt32.toNat_toUInt8, hw]
    omega
  have e₁ := digit 8 b₁ (by
    rw [hw, Nat.shiftRight_eq_div_pow]
    change _ / 2 ^ 8 % 2 ^ 8 = _
    omega)
  have e₂ := digit 16 b₂ (by
    rw [hw, Nat.shiftRight_eq_div_pow]
    change _ / 2 ^ 16 % 2 ^ 8 = _
    omega)
  have e₃ := digit 24 b₃ (by
    rw [hw, Nat.shiftRight_eq_div_pow]
    change _ / 2 ^ 24 % 2 ^ 8 = _
    omega)
  rw [bytes32, e₀, e₁, e₂, e₃]

/-- A 16-bit word, low byte first. -/
def u16 : Layout UInt16 where
  size := 2
  encode := bytes16
  decode
    | [b₀, b₁] => word16 b₀ b₁
    | _ => 0
  length_encode _ := rfl
  decode_encode w := word16_bytes16 w
  encode_decode
    | [b₀, b₁], _ => bytes16_word16 b₀ b₁

/-- A 32-bit word, low byte first. -/
def u32 : Layout UInt32 where
  size := 4
  encode := bytes32
  decode
    | [b₀, b₁, b₂, b₃] => word32 b₀ b₁ b₂ b₃
    | _ => 0
  length_encode _ := rfl
  decode_encode w := word32_bytes32 w
  encode_decode
    | [b₀, b₁, b₂, b₃], _ => bytes32_word32 b₀ b₁ b₂ b₃

/-! ### Sequences -/

/-- Two layouts one after the other. -/
def seq {α : Type u} {β : Type v} (l : Layout α) (m : Layout β) : Layout (α × β) where
  size := l.size + m.size
  encode p := l.encode p.1 ++ m.encode p.2
  decode bs := (l.decode (bs.take l.size), m.decode (bs.drop l.size))
  length_encode p := by simp
  decode_encode p := by
    rw [List.take_left' (l.length_encode _), List.drop_left' (l.length_encode _),
      l.decode_encode, m.decode_encode]
  encode_decode bs h := by
    rw [l.encode_decode _ (by rw [List.length_take]; omega),
      m.encode_decode _ (by rw [List.length_drop]; omega), List.take_append_drop]

@[simp] theorem size_byte : byte.size = 1 := rfl
@[simp] theorem size_u16 : u16.size = 2 := rfl
@[simp] theorem size_u32 : u32.size = 4 := rfl
@[simp] theorem size_array (n : Nat) : (array n).size = n := rfl
@[simp] theorem size_seq {α : Type u} {β : Type v} (l : Layout α) (m : Layout β) :
    (l.seq m).size = l.size + m.size := rfl

end Layout
end EdgeMonitor.Base
