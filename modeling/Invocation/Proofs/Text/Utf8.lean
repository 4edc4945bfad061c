import Mathlib.Tactic
import Invocation.Text.Utf8

/-!
# Decoding what was encoded

The decoder repairs what is not UTF-8.  Here it is shown to have nothing to
repair in the encoding of a text: fed with the bytes of one character it reads
exactly that character and is between two characters again, so it reads back
the whole text.  A byte below `0x80` stands only for the character of that
number.
-/

namespace Invocation.Text.Utf8

theorem toNat_byte {n : Nat} (h : n < 256) : (UInt8.ofNat n).toNat = n :=
  UInt8.toNat_ofNat_of_lt h

/-! ## One byte -/

/-- A byte below `0x80` is a character. -/
theorem feed_ascii (read : List Char) {n : Nat} (h : n < 0x80) :
    Decoder.feed ⟨read, none⟩ (UInt8.ofNat n) = ⟨Char.ofNat n :: read, none⟩ := by
  unfold Decoder.feed Decoder.begin start
  rw [toNat_byte (by omega)]
  simp [h]

/-- A byte that opens a character leaves it open. -/
theorem feed_lead (read : List Char) {b : UInt8} {p : Pending}
    (h : start b = .lead p) :
    Decoder.feed ⟨read, none⟩ b = ⟨read, some p⟩ := by
  unfold Decoder.feed Decoder.begin
  rw [h]

/-- A continuation byte in range adds six bits to the open character. -/
theorem feed_next (read : List Char) (p : Pending) {n : Nat} (hn : n < 0x40)
    (hleast : p.least.toNat ≤ n + 0x80) (hgreatest : n + 0x80 ≤ p.greatest.toNat) :
    Decoder.feed ⟨read, some p⟩ (UInt8.ofNat (n + 0x80)) =
      match p.further with
      | 0 => ⟨Char.ofNat (p.bits * 64 + n) :: read, none⟩
      | further + 1 => ⟨read, some ⟨p.bits * 64 + n, further, 0x80, 0xBF⟩⟩ := by
  have hbyte : (UInt8.ofNat (n + 0x80)).toNat = n + 0x80 := toNat_byte (by omega)
  have hrange : p.least ≤ UInt8.ofNat (n + 0x80) ∧
      UInt8.ofNat (n + 0x80) ≤ p.greatest := by
    rw [UInt8.le_iff_toNat_le, UInt8.le_iff_toNat_le, hbyte]
    exact ⟨hleast, hgreatest⟩
  obtain ⟨bits, further, least, greatest⟩ := p
  unfold Decoder.feed
  cases further with
  | zero => simp only [if_pos hrange, hbyte, Nat.add_sub_cancel]
  | succ further => simp only [if_pos hrange, hbyte, Nat.add_sub_cancel]

/-- The last continuation byte closes the character. -/
theorem feed_last (read : List Char) (bits : Nat) (least greatest : UInt8)
    {n : Nat} (hn : n < 0x40) (hleast : least.toNat ≤ n + 0x80)
    (hgreatest : n + 0x80 ≤ greatest.toNat) :
    Decoder.feed ⟨read, some ⟨bits, 0, least, greatest⟩⟩
        (UInt8.ofNat (n + 0x80)) =
      ⟨Char.ofNat (bits * 64 + n) :: read, none⟩ :=
  feed_next read ⟨bits, 0, least, greatest⟩ hn hleast hgreatest

/-- A continuation byte before the last leaves the character open. -/
theorem feed_inner (read : List Char) (bits further : Nat)
    (least greatest : UInt8) {n : Nat} (hn : n < 0x40)
    (hleast : least.toNat ≤ n + 0x80) (hgreatest : n + 0x80 ≤ greatest.toNat) :
    Decoder.feed ⟨read, some ⟨bits, further + 1, least, greatest⟩⟩
        (UInt8.ofNat (n + 0x80)) =
      ⟨read, some ⟨bits * 64 + n, further, 0x80, 0xBF⟩⟩ :=
  feed_next read ⟨bits, further + 1, least, greatest⟩ hn hleast hgreatest

/-! ## The first byte of a character

The range of the second byte depends on the first, so that overlong forms and
surrogates are excluded.  The second byte of a character is always in it. -/

theorem start_two {v : Nat} (hlow : 0x7F < v) (hhigh : v ≤ 0x7FF) :
    start (UInt8.ofNat (v / 64 % 32 + 0xC0)) =
      .lead ⟨v / 64, 0, 0x80, 0xBF⟩ := by
  have hmod : v / 64 % 32 = v / 64 := Nat.mod_eq_of_lt (by omega)
  unfold start
  rw [toNat_byte (by omega), hmod]
  rw [if_neg (by omega), if_neg (by omega), if_pos (by omega),
    Nat.add_sub_cancel]

theorem start_three {v : Nat} (hlow : 0x7FF < v) (hhigh : v ≤ 0xFFFF)
    (hvalid : v < 0xD800 ∨ 0xDFFF < v) :
    ∃ least greatest : UInt8,
      start (UInt8.ofNat (v / 4096 % 16 + 0xE0)) =
          .lead ⟨v / 4096, 1, least, greatest⟩ ∧
        least.toNat ≤ v / 64 % 64 + 0x80 ∧
        v / 64 % 64 + 0x80 ≤ greatest.toNat := by
  have hmod : v / 4096 % 16 = v / 4096 := Nat.mod_eq_of_lt (by omega)
  unfold start
  rw [toNat_byte (by omega), hmod]
  rw [if_neg (by omega), if_neg (by omega), if_neg (by omega)]
  by_cases hzero : v / 4096 = 0
  · refine ⟨0xA0, 0xBF, ?_, ?_, ?_⟩
    · simp [hzero]
    · simp
      omega
    · simp
      omega
  rw [if_neg (by omega)]
  by_cases hsurrogate : v / 4096 = 0xD
  · refine ⟨0x80, 0x9F, ?_, ?_, ?_⟩
    · simp [hsurrogate]
    · simp
    · simp
      omega
  refine ⟨0x80, 0xBF, ?_, ?_, ?_⟩
  · rw [if_neg (by omega), if_pos (by omega), Nat.add_sub_cancel]
  · simp
  · simp
    omega

theorem start_four {v : Nat} (hlow : 0xFFFF < v) (hhigh : v < 0x110000) :
    ∃ least greatest : UInt8,
      start (UInt8.ofNat (v / 262144 % 8 + 0xF0)) =
          .lead ⟨v / 262144, 2, least, greatest⟩ ∧
        least.toNat ≤ v / 4096 % 64 + 0x80 ∧
        v / 4096 % 64 + 0x80 ≤ greatest.toNat := by
  have hmod : v / 262144 % 8 = v / 262144 := Nat.mod_eq_of_lt (by omega)
  unfold start
  rw [toNat_byte (by omega), hmod]
  rw [if_neg (by omega), if_neg (by omega), if_neg (by omega),
    if_neg (by omega), if_neg (by omega), if_neg (by omega)]
  by_cases hzero : v / 262144 = 0
  · refine ⟨0x90, 0xBF, ?_, ?_, ?_⟩
    · simp [hzero]
    · simp
      omega
    · simp
      omega
  rw [if_neg (by omega)]
  by_cases hlast : v / 262144 = 4
  · refine ⟨0x80, 0x8F, ?_, ?_, ?_⟩
    · simp [hlast]
    · simp
    · simp
      omega
  refine ⟨0x80, 0xBF, ?_, ?_, ?_⟩
  · rw [if_pos (by omega), Nat.add_sub_cancel]
  · simp
  · simp
    omega

/-! ## One character -/

theorem valid_toNat (c : Char) :
    c.toNat < 0xD800 ∨ 0xDFFF < c.toNat ∧ c.toNat < 0x110000 := by
  have h : c.toNat.isValidChar := c.valid
  unfold Nat.isValidChar at h
  omega

/-- Fed with the bytes of a character, the decoder reads that character. -/
theorem foldl_feed_utf8EncodeChar (read : List Char) (c : Char) :
    (String.utf8EncodeChar c).foldl Decoder.feed ⟨read, none⟩ =
      ⟨c :: read, none⟩ := by
  have hvalid := valid_toNat c
  have hc : Char.ofNat c.toNat = c := Char.ofNat_toNat c
  have hval : c.val.toNat = c.toNat := rfl
  unfold String.utf8EncodeChar
  simp only [hval]
  generalize c.toNat = v at hvalid hc
  by_cases hone : v ≤ 0x7F
  · rw [if_pos hone, List.foldl_cons, feed_ascii read (by omega), hc]
    rfl
  rw [if_neg hone]
  by_cases htwo : v ≤ 0x7FF
  · have hstart := start_two (by omega) htwo
    rw [if_pos htwo, List.foldl_cons, feed_lead read hstart, List.foldl_cons,
      feed_last read _ _ _ (by omega) (by simp) (by simp; omega),
      show v / 64 * 64 + v % 64 = v by omega, hc]
    rfl
  rw [if_neg htwo]
  by_cases hthree : v ≤ 0xFFFF
  · obtain ⟨least, greatest, hstart, hleast, hgreatest⟩ :=
      start_three (by omega) hthree (by omega)
    rw [if_pos hthree, List.foldl_cons, feed_lead read hstart, List.foldl_cons,
      feed_inner read _ _ _ _ (by omega) hleast hgreatest, List.foldl_cons,
      feed_last read _ _ _ (by omega) (by simp) (by simp; omega),
      show (v / 4096 * 64 + v / 64 % 64) * 64 + v % 64 = v by omega, hc]
    rfl
  · obtain ⟨least, greatest, hstart, hleast, hgreatest⟩ :=
      start_four (v := v) (by omega) (by omega)
    rw [if_neg hthree, List.foldl_cons, feed_lead read hstart, List.foldl_cons,
      feed_inner read _ _ _ _ (by omega) hleast hgreatest, List.foldl_cons,
      feed_inner read _ _ _ _ (by omega) (by simp) (by simp; omega),
      List.foldl_cons,
      feed_last read _ _ _ (by omega) (by simp) (by simp; omega),
      show ((v / 262144 * 64 + v / 4096 % 64) * 64 + v / 64 % 64) * 64 +
        v % 64 = v by omega, hc]
    rfl

/-- A byte of a character is the character itself or not below `0x80`. -/
theorem mem_utf8EncodeChar {c : Char} {b : UInt8}
    (h : b ∈ String.utf8EncodeChar c) :
    b.toNat = c.toNat ∨ 0x80 ≤ b.toNat := by
  have hval : c.val.toNat = c.toNat := rfl
  unfold String.utf8EncodeChar at h
  simp only [hval] at h
  generalize c.toNat = v at h
  by_cases hone : v ≤ 0x7F
  · rw [if_pos hone, List.mem_singleton] at h
    rw [h, toNat_byte (by omega)]
    exact Or.inl rfl
  right
  have htail : ∀ n k : Nat, n < 0x80 → 0x80 ≤ k → k + n < 256 →
      0x80 ≤ (UInt8.ofNat (n + k)).toNat := by
    intro n k _ _ _
    rw [toNat_byte (by omega)]
    omega
  rw [if_neg hone] at h
  by_cases htwo : v ≤ 0x7FF
  · rw [if_pos htwo] at h
    simp only [List.mem_cons, List.not_mem_nil, or_false] at h
    rcases h with rfl | rfl <;> exact htail _ _ (by omega) (by omega) (by omega)
  rw [if_neg htwo] at h
  by_cases hthree : v ≤ 0xFFFF
  · rw [if_pos hthree] at h
    simp only [List.mem_cons, List.not_mem_nil, or_false] at h
    rcases h with rfl | rfl | rfl <;>
      exact htail _ _ (by omega) (by omega) (by omega)
  · rw [if_neg hthree] at h
    simp only [List.mem_cons, List.not_mem_nil, or_false] at h
    rcases h with rfl | rfl | rfl | rfl <;>
      exact htail _ _ (by omega) (by omega) (by omega)

/-- A text without characters below `0x20` has no bytes below `0x20`. -/
theorem le_of_mem_encode {s : String} (hs : ∀ c ∈ s.toList, 0x20 ≤ c.toNat)
    {b : UInt8} (hb : b ∈ encode s) : 0x20 ≤ b.toNat := by
  obtain ⟨c, hc, hbc⟩ := List.mem_flatMap.1 hb
  rcases mem_utf8EncodeChar hbc with h | h
  · rw [h]
    exact hs c hc
  · omega

/-! ## Whole texts -/

theorem foldl_feed_encodeChars (read cs : List Char) :
    (encodeChars cs).foldl Decoder.feed ⟨read, none⟩ =
      ⟨cs.reverse ++ read, none⟩ := by
  induction cs generalizing read with
  | nil => rfl
  | cons c cs ih =>
      rw [encodeChars, List.flatMap_cons, List.foldl_append,
        foldl_feed_utf8EncodeChar]
      change (encodeChars cs).foldl Decoder.feed ⟨c :: read, none⟩ = _
      rw [ih]
      simp

/-- Decoding the bytes of a text gives the text back. -/
@[simp] theorem decode_encode (s : String) : decode (encode s) = s := by
  unfold decode encode
  rw [foldl_feed_encodeChars]
  simp [Decoder.finish]

/-- The bytes of a text need no repair. -/
@[simp] theorem decode?_encode (s : String) : decode? (encode s) = some s := by
  simp [decode?]

/-- The bytes of a text are UTF-8 as the type of texts has it. -/
theorem isValidUTF8_encode (s : String) :
    (encode s).toByteArray.IsValidUTF8 :=
  ByteArray.isValidUTF8_utf8Encode

end Invocation.Text.Utf8
