import DeployBoard.Text.Utf8

/-!
# `Proofs.Text.Utf8` — the bytes of a text give the text again

Reading begins a character at its first byte and ends it at its last (`decodeFrom_utf8Bytes`), so the bytes of a text
are read as its characters, one by one, and two texts never have the same bytes (`encodeUtf8_injective`).
-/

namespace DeployBoard.Text

/-- The code points of characters: surrogates are none. -/
theorem char_bounds (c : Char) : c.toNat < 0xD800 ∨ 0xDFFF < c.toNat ∧ c.toNat < 0x110000 := c.valid

/-- What is checked of the characters below a code point holds of them. -/
theorem forall_char_below {P : Char → Prop} {bound : Nat} (h : ∀ n < bound, P (Char.ofNat n)) {c : Char}
    (hc : c.toNat < bound) : P c := by
  have hchar := h c.toNat hc
  rwa [Char.ofNat_toNat] at hchar

variable {b low high value : Nat} {rest : List Nat}

/-- The last byte of a character. -/
theorem decodeFrom_last (h : low ≤ b ∧ b ≤ high) :
    decodeFrom (some ⟨value, 1, low, high⟩) (b :: rest) =
      some (Char.ofNat (value * 0x40 + (b - 0x80))) :: decodeFrom none rest := by
  rw [decodeFrom]
  exact if_pos h

/-- A byte of a character that is not the last. -/
theorem decodeFrom_middle {needed : Nat} (h : low ≤ b ∧ b ≤ high) :
    decodeFrom (some ⟨value, needed + 2, low, high⟩) (b :: rest) =
      decodeFrom (some ⟨value * 0x40 + (b - 0x80), needed + 1, 0x80, 0xBF⟩) rest := by
  rw [decodeFrom]
  exact if_pos h

/-- A first byte that is not the last. -/
theorem decodeFrom_first {p : Pending} (h : firstByte b = some (.inr p)) :
    decodeFrom none (b :: rest) = decodeFrom (some p) rest := by
  rw [decodeFrom]
  simp only [h]
  rfl

/-! ## First bytes -/

theorem firstByte_two : ∀ q < 0x20, 2 ≤ q → firstByte (0xC0 + q) = some (.inr ⟨q, 1, 0x80, 0xBF⟩) := by decide

/-- After the first byte of three, the range of the second keeps out what has a shorter form, and the surrogates. -/
theorem firstByte_three : ∀ q < 0x10, firstByte (0xE0 + q) =
    some (.inr ⟨q, 2, if q = 0 then 0xA0 else 0x80, if q = 0xD then 0x9F else 0xBF⟩) := by decide

/-- After the first byte of four, the range of the second keeps out what has a shorter form, and what is no character. -/
theorem firstByte_four : ∀ q < 5, firstByte (0xF0 + q) =
    some (.inr ⟨q, 3, if q = 0 then 0x90 else 0x80, if q = 4 then 0x8F else 0xBF⟩) := by decide

/-! ## Characters and texts -/

/-- **The bytes of a character are read as that character**, whatever follows. -/
theorem decodeFrom_utf8Bytes (c : Char) (rest : List Nat) :
    decodeFrom none (utf8Bytes c ++ rest) = some c :: decodeFrom none rest := by
  have hc : Char.ofNat c.toNat = c := Char.ofNat_toNat c
  have hbounds := char_bounds c
  unfold utf8Bytes
  simp only
  generalize c.toNat = n at hc hbounds
  split
  · rename_i hn
    have hfirst : firstByte n = some (.inl (Char.ofNat n)) := if_pos hn
    show decodeFrom none (n :: rest) = _
    rw [decodeFrom]
    simp only [hfirst, hc]
    rfl
  split
  · rename_i hn
    show decodeFrom none ((0xC0 + n / 0x40) :: (0x80 + n % 0x40) :: rest) = _
    rw [decodeFrom_first (firstByte_two _ (by omega) (by omega)), decodeFrom_last (by omega)]
    have hvalue : n / 0x40 * 0x40 + (0x80 + n % 0x40 - 0x80) = n := by omega
    rw [hvalue, hc]
  split
  · rename_i hn
    show decodeFrom none ((0xE0 + n / 0x1000) :: (0x80 + n / 0x40 % 0x40) :: (0x80 + n % 0x40) :: rest) = _
    have hsecond : (if n / 0x1000 = 0 then 0xA0 else 0x80) ≤ 0x80 + n / 0x40 % 0x40 ∧
        0x80 + n / 0x40 % 0x40 ≤ (if n / 0x1000 = 0xD then 0x9F else 0xBF) := by
      constructor <;> split <;> omega
    rw [decodeFrom_first (firstByte_three _ (by omega)), decodeFrom_middle hsecond, decodeFrom_last (by omega)]
    have hvalue : (n / 0x1000 * 0x40 + (0x80 + n / 0x40 % 0x40 - 0x80)) * 0x40 + (0x80 + n % 0x40 - 0x80) = n := by
      omega
    rw [hvalue, hc]
  · rename_i hn
    show decodeFrom none ((0xF0 + n / 0x40000) :: (0x80 + n / 0x1000 % 0x40) :: (0x80 + n / 0x40 % 0x40) ::
      (0x80 + n % 0x40) :: rest) = _
    have hsecond : (if n / 0x40000 = 0 then 0x90 else 0x80) ≤ 0x80 + n / 0x1000 % 0x40 ∧
        0x80 + n / 0x1000 % 0x40 ≤ (if n / 0x40000 = 4 then 0x8F else 0xBF) := by
      constructor <;> split <;> omega
    rw [decodeFrom_first (firstByte_four _ (by omega)), decodeFrom_middle hsecond, decodeFrom_middle (by omega),
      decodeFrom_last (by omega)]
    have hvalue : ((n / 0x40000 * 0x40 + (0x80 + n / 0x1000 % 0x40 - 0x80)) * 0x40 +
        (0x80 + n / 0x40 % 0x40 - 0x80)) * 0x40 + (0x80 + n % 0x40 - 0x80) = n := by
      omega
    rw [hvalue, hc]

/-- **The bytes of a text are read as its characters.** -/
theorem decodeFrom_encodeUtf8 (cs : List Char) : decodeFrom none (encodeUtf8 cs) = cs.map some := by
  induction cs with
  | nil => rfl
  | cons c cs ih =>
      show decodeFrom none (utf8Bytes c ++ encodeUtf8 cs) = some c :: cs.map some
      rw [decodeFrom_utf8Bytes, ih]

/-- **Two texts never have the same bytes.** -/
theorem encodeUtf8_injective {cs ds : List Char} (h : encodeUtf8 cs = encodeUtf8 ds) : cs = ds := by
  have hread : cs.map some = ds.map some := by rw [← decodeFrom_encodeUtf8, h, decodeFrom_encodeUtf8]
  exact (List.map_inj_right fun _ _ => Option.some.inj).mp hread

/-- Every byte of a character is one. -/
theorem utf8Bytes_lt {c : Char} {b : Nat} (h : b ∈ utf8Bytes c) : b < 0x100 := by
  have hbounds := char_bounds c
  unfold utf8Bytes at h
  simp only at h
  split at h
  · simp at h; omega
  split at h
  · simp at h; omega
  split at h
  · simp at h; omega
  · simp at h; omega

end DeployBoard.Text
