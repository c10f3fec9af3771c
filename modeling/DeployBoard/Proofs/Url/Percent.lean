import DeployBoard.Proofs.Text.Utf8
import DeployBoard.Url.Percent

/-!
# `Proofs.Url.Percent` — what is encoded in an address can be decoded

A part of an address is written so that decoding it gives the bytes of the text (`percentDecode_percentEncode`).
That holds only for texts without a percent sign: one that is there already is not encoded, and is taken for the
beginning of a byte.
-/

namespace DeployBoard.Url

open Text

theorem hexValue_hexDigit : ∀ n < 16, hexValue? (hexDigit n) = some n := by decide

theorem hexDigit_isAlphanum : ∀ n < 16, (hexDigit n).isAlphanum = true := by decide

/-- **A written byte is read as that byte.** -/
theorem percentDecode_percentByte {b : Nat} (hb : b < 0x100) (rest : List Char) :
    percentDecode (percentByte b ++ rest) = b :: percentDecode rest := by
  show percentDecode ('%' :: hexDigit (b / 16) :: hexDigit (b % 16) :: rest) = _
  rw [percentDecode, hexValue_hexDigit _ (by omega), hexValue_hexDigit _ (by omega)]
  have hvalue : b / 16 * 16 + b % 16 = b := by omega
  show (b / 16 * 16 + b % 16) :: percentDecode rest = _
  rw [hvalue]

theorem percentDecode_percentBytes {bytes : List Nat} (h : ∀ b ∈ bytes, b < 0x100) (rest : List Char) :
    percentDecode (bytes.flatMap percentByte ++ rest) = bytes ++ percentDecode rest := by
  induction bytes with
  | nil => rfl
  | cons b bytes ih =>
      obtain ⟨hb, hbytes⟩ := List.forall_mem_cons.mp h
      rw [List.flatMap_cons, List.append_assoc, percentDecode_percentByte hb, ih hbytes]
      rfl

/-- A character that is not a percent sign stands for itself. -/
theorem percentDecode_cons {c : Char} (hc : c ≠ '%') (rest : List Char) :
    percentDecode (c :: rest) = utf8Bytes c ++ percentDecode rest := by
  rw [percentDecode.eq_def]
  split
  · rename_i heq
    exact absurd (List.cons.inj heq).1 hc
  · rename_i heq
    obtain ⟨rfl, rfl⟩ := List.cons.inj heq
    rfl
  · rename_i heq
    cases heq

variable {encoded : Char → Bool} {cs ds : List Char}

/-- **What is encoded is decoded to the bytes of the text**, if there is no percent sign in it. -/
theorem percentDecode_percentEncode (encoded : Char → Bool) (h : '%' ∉ cs) :
    percentDecode (percentEncode encoded cs) = encodeUtf8 cs := by
  induction cs with
  | nil => rfl
  | cons c cs ih =>
      obtain ⟨hc, hcs⟩ := List.ne_and_not_mem_of_not_mem_cons h
      show percentDecode ((if encoded c then (utf8Bytes c).flatMap percentByte else [c]) ++
        percentEncode encoded cs) = utf8Bytes c ++ encodeUtf8 cs
      split
      · rw [percentDecode_percentBytes fun b hb => utf8Bytes_lt hb, ih hcs]
      · rw [List.singleton_append, percentDecode_cons hc.symm, ih hcs]

theorem percentEncode_append (cs ds : List Char) :
    percentEncode encoded (cs ++ ds) = percentEncode encoded cs ++ percentEncode encoded ds := List.flatMap_append

/-- A text of characters that are not encoded is written as it is. -/
theorem percentEncode_of_plain (h : ∀ c ∈ cs, encoded c = false) : percentEncode encoded cs = cs := by
  induction cs with
  | nil => rfl
  | cons c cs ih =>
      obtain ⟨hc, hcs⟩ := List.forall_mem_cons.mp h
      show (if encoded c then (utf8Bytes c).flatMap percentByte else [c]) ++ percentEncode encoded cs = _
      rw [if_neg (Bool.eq_false_iff.mp hc), ih hcs, List.singleton_append]

/-- Every character is written. -/
theorem percentEncode_eq_nil_iff : percentEncode encoded cs = [] ↔ cs = [] := by
  refine ⟨fun h => ?_, fun h => by rw [h]; rfl⟩
  have hbytes : ∀ c : Char, ∃ b bytes, utf8Bytes c = b :: bytes := by
    intro c
    unfold utf8Bytes
    simp only
    split
    · exact ⟨_, _, rfl⟩
    split
    · exact ⟨_, _, rfl⟩
    split
    · exact ⟨_, _, rfl⟩
    · exact ⟨_, _, rfl⟩
  refine List.eq_nil_iff_forall_not_mem.mpr fun c hc => ?_
  have hnone := List.flatMap_eq_nil_iff.mp h c hc
  obtain ⟨b, bytes, hcons⟩ := hbytes c
  split at hnone
  · rw [hcons] at hnone
    cases hnone
  · cases hnone

/-- **What stands in an encoded text**: percent signs, letters and digits, and characters that are not encoded. -/
theorem mem_percentEncode {c : Char} (h : c ∈ percentEncode encoded cs) :
    c = '%' ∨ c.isAlphanum = true ∨ (c ∈ cs ∧ encoded c = false) := by
  obtain ⟨d, hd, hc⟩ := List.mem_flatMap.mp h
  split at hc
  · obtain ⟨b, hb, hc⟩ := List.mem_flatMap.mp hc
    have hlt := utf8Bytes_lt hb
    simp only [percentByte, List.mem_cons, List.not_mem_nil, or_false] at hc
    rcases hc with rfl | rfl | rfl
    · exact .inl rfl
    · exact .inr (.inl (hexDigit_isAlphanum _ (by omega)))
    · exact .inr (.inl (hexDigit_isAlphanum _ (by omega)))
  · rename_i hplain
    obtain rfl := List.mem_singleton.mp hc
    exact .inr (.inr ⟨hd, by simpa using hplain⟩)

end DeployBoard.Url
