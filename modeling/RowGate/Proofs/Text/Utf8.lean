import RowGate.Text.Utf8

/-! # UTF-8 read back

The bytes of a text are decoded to the text. A decoder that stands between characters reads the
bytes of one character and stands between characters again, so a text is read character by
character, with one case for each of the four lengths of a character.
-/

namespace RowGate.Text

/-! ## Leading bytes -/

variable {b : UInt8}

/-- The leading bytes of characters of two bytes. -/
theorem lead?_of_two (hmin : 0xC2 ≤ b.toNat) (hmax : b.toNat < 0xE0) :
    lead? b = some ⟨1, 0x80, 0xBF⟩ := by
  grind [lead?]

/-- The bounds of the second byte leave out what fewer bytes can hold, and the surrogates. -/
theorem lead?_of_three (hmin : 0xE0 ≤ b.toNat) (hmax : b.toNat < 0xF0) :
    lead? b = some ⟨2, if b.toNat = 0xE0 then 0xA0 else 0x80,
      if b.toNat = 0xED then 0x9F else 0xBF⟩ := by
  grind [lead?]

/-- The bounds of the second byte leave out what fewer bytes can hold, and what is no code point. -/
theorem lead?_of_four (hmin : 0xF0 ≤ b.toNat) (hmax : b.toNat < 0xF5) :
    lead? b = some ⟨3, if b.toNat = 0xF0 then 0x90 else 0x80,
      if b.toNat = 0xF4 then 0x8F else 0xBF⟩ := by
  grind [lead?]

/-! ## Steps of the decoder -/

variable {value more least greatest : Nat} {bs : List UInt8}

/-- A byte below 128 is a character by itself. -/
theorem decodeFrom_single (h : b.toNat < 0x80) :
    decodeFrom .start (b :: bs) = Char.ofNat b.toNat :: decodeFrom .start bs := by
  have hlead : lead? b = some ⟨0, 0, 0⟩ := by rw [lead?, if_pos h]
  simp [decodeFrom, utf8Step, startByte, hlead]

/-- A leading byte opens a character of as many bytes as it says. -/
theorem decodeFrom_lead (h : lead? b = some ⟨more + 1, least, greatest⟩) :
    decodeFrom .start (b :: bs) =
      decodeFrom (.inside (leadBits b (more + 1)) (more + 1) least greatest) bs := by
  simp [decodeFrom, utf8Step, startByte, h]

/-- A byte that continues a character adds six bits, and more bytes are to follow. -/
theorem decodeFrom_middle (hmin : least ≤ b.toNat) (hmax : b.toNat ≤ greatest) :
    decodeFrom (.inside value (more + 2) least greatest) (b :: bs) =
      decodeFrom (.inside (value * 0x40 + b.toNat % 0x40) (more + 1) 0x80 0xBF) bs := by
  simp [decodeFrom, utf8Step, hmin, hmax]

/-- The last byte of a character adds six bits and ends it. -/
theorem decodeFrom_last (hmin : least ≤ b.toNat) (hmax : b.toNat ≤ greatest) :
    decodeFrom (.inside value 1 least greatest) (b :: bs) =
      Char.ofNat (value * 0x40 + b.toNat % 0x40) :: decodeFrom .start bs := by
  simp [decodeFrom, utf8Step, hmin, hmax]

/-! ## Characters -/

theorem toNat_byte {n : Nat} (h : n < 0x100) : (UInt8.ofNat n).toNat = n := by
  simpa using Nat.mod_eq_of_lt h

variable {v : Nat}

/-- The two bytes of a character are read as it. -/
theorem decodeFrom_two (hmin : 0x7F < v) (hmax : v ≤ 0x7FF) :
    decodeFrom .start (UInt8.ofNat (v / 64 % 32 + 192) :: UInt8.ofNat (v % 64 + 128) :: bs) =
      Char.ofNat v :: decodeFrom .start bs := by
  have h₁ : (UInt8.ofNat (v / 64 % 32 + 192)).toNat = v / 64 % 32 + 192 := toNat_byte (by omega)
  have h₂ : (UInt8.ofNat (v % 64 + 128)).toNat = v % 64 + 128 := toNat_byte (by omega)
  rw [decodeFrom_lead (lead?_of_two (by omega) (by omega)),
    decodeFrom_last (by omega) (by omega), leadBits, h₁, h₂]
  have hvalue : (v / 64 % 32 + 192) % 0x20 * 0x40 + (v % 64 + 128) % 0x40 = v := by omega
  rw [hvalue]

/-- The three bytes of a character are read as it, as it is no surrogate. -/
theorem decodeFrom_three (hmin : 0x7FF < v) (hmax : v ≤ 0xFFFF) (hv : v < 0xD800 ∨ 0xDFFF < v) :
    decodeFrom .start (UInt8.ofNat (v / 4096 % 16 + 224) :: UInt8.ofNat (v / 64 % 64 + 128) ::
        UInt8.ofNat (v % 64 + 128) :: bs) =
      Char.ofNat v :: decodeFrom .start bs := by
  have h₁ : (UInt8.ofNat (v / 4096 % 16 + 224)).toNat = v / 4096 % 16 + 224 :=
    toNat_byte (by omega)
  have h₂ : (UInt8.ofNat (v / 64 % 64 + 128)).toNat = v / 64 % 64 + 128 := toNat_byte (by omega)
  have h₃ : (UInt8.ofNat (v % 64 + 128)).toNat = v % 64 + 128 := toNat_byte (by omega)
  rw [decodeFrom_lead (lead?_of_three (by omega) (by omega)),
    decodeFrom_middle (by split <;> omega) (by split <;> omega),
    decodeFrom_last (by omega) (by omega), leadBits, h₁, h₂, h₃]
  have hvalue : ((v / 4096 % 16 + 224) % 0x10 * 0x40 + (v / 64 % 64 + 128) % 0x40) * 0x40 +
      (v % 64 + 128) % 0x40 = v := by omega
  rw [hvalue]

/-- The four bytes of a character are read as it. -/
theorem decodeFrom_four (hmin : 0xFFFF < v) (hmax : v < 0x110000) :
    decodeFrom .start (UInt8.ofNat (v / 262144 % 8 + 240) :: UInt8.ofNat (v / 4096 % 64 + 128) ::
        UInt8.ofNat (v / 64 % 64 + 128) :: UInt8.ofNat (v % 64 + 128) :: bs) =
      Char.ofNat v :: decodeFrom .start bs := by
  have h₁ : (UInt8.ofNat (v / 262144 % 8 + 240)).toNat = v / 262144 % 8 + 240 :=
    toNat_byte (by omega)
  have h₂ : (UInt8.ofNat (v / 4096 % 64 + 128)).toNat = v / 4096 % 64 + 128 :=
    toNat_byte (by omega)
  have h₃ : (UInt8.ofNat (v / 64 % 64 + 128)).toNat = v / 64 % 64 + 128 := toNat_byte (by omega)
  have h₄ : (UInt8.ofNat (v % 64 + 128)).toNat = v % 64 + 128 := toNat_byte (by omega)
  rw [decodeFrom_lead (lead?_of_four (by omega) (by omega)),
    decodeFrom_middle (by split <;> omega) (by split <;> omega),
    decodeFrom_middle (by omega) (by omega), decodeFrom_last (by omega) (by omega),
    leadBits, h₁, h₂, h₃, h₄]
  · have hvalue : (((v / 262144 % 8 + 240) % 0x08 * 0x40 + (v / 4096 % 64 + 128) % 0x40) * 0x40 +
        (v / 64 % 64 + 128) % 0x40) * 0x40 + (v % 64 + 128) % 0x40 = v := by omega
    rw [hvalue]
  all_goals decide

/-- The bytes of any character are read as it. -/
theorem decodeFrom_char (c : Char) (bs : List UInt8) :
    decodeFrom .start (String.utf8EncodeChar c ++ bs) = c :: decodeFrom .start bs := by
  have hvalid : c.val.toNat < 0xD800 ∨ 0xDFFF < c.val.toNat ∧ c.val.toNat < 0x110000 := c.valid
  have hc : Char.ofNat c.val.toNat = c := Char.ofNat_toNat c
  simp only [String.utf8EncodeChar]
  generalize c.val.toNat = v at hvalid hc ⊢
  subst hc
  split
  next hone =>
    have hbyte : (UInt8.ofNat v).toNat = v := toNat_byte (by omega)
    rw [List.singleton_append, decodeFrom_single (by omega), hbyte]
  split
  next htwo => exact decodeFrom_two (by omega) htwo
  split
  next hthree => exact decodeFrom_three (by omega) hthree (by omega)
  next hfour => exact decodeFrom_four (by omega) (by omega)

/-- The bytes of a text are decoded to it. -/
theorem decodeUtf8_utf8 (s : List Char) : decodeUtf8 (utf8 s) = s := by
  induction s with
  | nil => rfl
  | cons c s ih =>
    rw [decodeUtf8, utf8, List.flatMap_cons, decodeFrom_char]
    exact congrArg _ ih

end RowGate.Text
