import Invocation.Proofs.Text.Utf8

/-!
# Decoding a text that was cut

The bytes of a text may stop anywhere, also inside a character.  What is
decoded then is a first part of the text, followed by one replacement character
when a character was cut.

The argument counts the characters that have begun, an open one included.  No
byte lowers that number, and a byte that arrives between two characters raises
it, so between the first byte of a character and its last one the decoder cannot
come to rest.
-/

namespace Invocation.Text.Utf8

namespace Decoder

/-- How many characters have begun. -/
def begun (d : Decoder) : Nat :=
  d.read.length + if d.pending.isSome then 1 else 0

/-- Between two characters, a byte begins one. -/
theorem begun_begin (read : List Char) (b : UInt8) :
    (begin read b).begun = read.length + 1 := by
  unfold begin
  cases start b <;> rfl

theorem read_begin (read : List Char) (b : UInt8) :
    read <:+ (begin read b).read := by
  unfold begin
  cases start b with
  | whole c => exact List.suffix_cons c read
  | lead p => exact List.suffix_rfl
  | invalid => exact List.suffix_cons replacement read

/-- No byte takes back what has begun, and what is read stays. -/
theorem feed_keeps (d : Decoder) (b : UInt8) :
    d.begun ≤ (d.feed b).begun ∧ d.read <:+ (d.feed b).read := by
  obtain ⟨read, pending⟩ := d
  cases pending with
  | none =>
      refine ⟨?_, read_begin read b⟩
      have hbegun : (feed ⟨read, none⟩ b).begun = read.length + 1 :=
        begun_begin read b
      rw [hbegun]
      simp [begun]
  | some p =>
      obtain ⟨bits, further, least, greatest⟩ := p
      unfold feed
      simp only
      by_cases hrange : least ≤ b ∧ b ≤ greatest
      · rw [if_pos hrange]
        cases further with
        | zero => exact ⟨by simp [begun], List.suffix_cons _ read⟩
        | succ further => exact ⟨by simp [begun], List.suffix_rfl⟩
      · rw [if_neg hrange]
        have hbegun := begun_begin (replacement :: read) b
        refine ⟨?_, (List.suffix_cons replacement read).trans (read_begin _ b)⟩
        rw [hbegun]
        simp [begun]

theorem foldl_feed_keeps (d : Decoder) (bytes : List UInt8) :
    d.begun ≤ (bytes.foldl feed d).begun ∧
      d.read <:+ (bytes.foldl feed d).read := by
  induction bytes generalizing d with
  | nil => exact ⟨le_rfl, List.suffix_rfl⟩
  | cons b bytes ih =>
      obtain ⟨hbegun, hread⟩ := d.feed_keeps b
      obtain ⟨hbegun', hread'⟩ := ih (d.feed b)
      exact ⟨hbegun.trans hbegun', hread.trans hread'⟩

/-- Bytes that arrive between two characters begin one at least. -/
theorem lt_begun (read : List Char) {bytes : List UInt8} (h : bytes ≠ []) :
    read.length < (bytes.foldl feed ⟨read, none⟩).begun := by
  cases bytes with
  | nil => exact absurd rfl h
  | cons b bytes =>
      have hfirst : (feed ⟨read, none⟩ b).begun = read.length + 1 :=
        begun_begin read b
      have hrest := ((feed ⟨read, none⟩ b).foldl_feed_keeps bytes).1
      rw [List.foldl_cons]
      omega

end Decoder

/-- A character of which some bytes have come, but not all, is open. -/
theorem foldl_feed_part_utf8EncodeChar (read : List Char) {c : Char}
    {part more : List UInt8} (hwhole : String.utf8EncodeChar c = part ++ more)
    (hpart : part ≠ []) (hmore : more ≠ []) :
    ∃ p, part.foldl Decoder.feed ⟨read, none⟩ = ⟨read, some p⟩ := by
  have hbegun := Decoder.lt_begun read hpart
  have hread := (Decoder.foldl_feed_keeps ⟨read, none⟩ part).2
  have hfed := foldl_feed_utf8EncodeChar read c
  rw [hwhole, foldl_feed_append] at hfed
  generalize part.foldl Decoder.feed ⟨read, none⟩ = d at hbegun hread hfed
  -- After all of its bytes no more than this one character has begun.
  have hkept := (d.foldl_feed_keeps more).1
  have hend : (Decoder.mk (c :: read) none).begun = read.length + 1 := rfl
  rw [hfed, hend] at hkept
  obtain ⟨found, pending⟩ := d
  cases pending with
  | none =>
      -- At rest, the bytes that are missing would begin another one.
      have hnext := Decoder.lt_begun found hmore
      rw [hfed, hend] at hnext
      simp only [Decoder.begun, Option.isSome_none, Bool.false_eq_true,
        if_false] at hbegun
      omega
  | some p =>
      change read <:+ found at hread
      change found.length + 1 ≤ read.length + 1 at hkept
      have hsame : read = found := hread.eq_of_length_le (by omega)
      exact ⟨p, by rw [hsame]⟩

/-- A first part of the bytes of some characters is made of the bytes of the
first ones, and perhaps of some bytes of the next one. -/
theorem foldl_feed_part (read cs : List Char) {part : List UInt8}
    (h : part <+: encodeChars cs) :
    ∃ first left, cs = first ++ left ∧
      ((part = encodeChars first ∧
          part.foldl Decoder.feed ⟨read, none⟩ =
            ⟨first.reverse ++ read, none⟩) ∨
        (left ≠ [] ∧ ∃ p, part.foldl Decoder.feed ⟨read, none⟩ =
          ⟨first.reverse ++ read, some p⟩)) := by
  induction cs generalizing read part with
  | nil =>
      rw [List.prefix_nil.1 h]
      exact ⟨[], [], rfl, Or.inl ⟨rfl, rfl⟩⟩
  | cons c cs ih =>
      obtain ⟨more, h⟩ := h
      rw [encodeChars, List.flatMap_cons] at h
      change part ++ more = String.utf8EncodeChar c ++ encodeChars cs at h
      rcases List.append_eq_append_iff.1 h with
        ⟨missing, hchar, -⟩ | ⟨after, rfl, hafter⟩
      · by_cases hpart : part = []
        · rw [hpart]
          exact ⟨[], c :: cs, rfl, Or.inl ⟨rfl, rfl⟩⟩
        by_cases hmissing : missing = []
        · rw [hmissing, List.append_nil] at hchar
          refine ⟨[c], cs, rfl, Or.inl ⟨?_, ?_⟩⟩
          · rw [← hchar, encodeChars, List.flatMap_singleton]
          · rw [← hchar, foldl_feed_utf8EncodeChar]
            rfl
        · obtain ⟨p, hopen⟩ :=
            foldl_feed_part_utf8EncodeChar read hchar hpart hmissing
          exact ⟨[], c :: cs, rfl, Or.inr ⟨List.cons_ne_nil c cs, p, hopen⟩⟩
      · -- The character is whole, and what follows is cut.
        obtain ⟨first, left, rfl, hcases⟩ := ih (c :: read) ⟨more, hafter.symm⟩
        refine ⟨c :: first, left, rfl, ?_⟩
        rw [foldl_feed_append, foldl_feed_utf8EncodeChar, List.reverse_cons,
          List.append_assoc, List.singleton_append]
        rcases hcases with ⟨hall, hrest⟩ | hcut
        · refine Or.inl ⟨?_, hrest⟩
          rw [hall, encodeChars, encodeChars, List.flatMap_cons]
        · exact Or.inr hcut

/-- Decoding a first part of the bytes of a text gives a first part of the
text, with a replacement character after it if a character was cut. -/
theorem decode_part {s : String} {part : List UInt8} (h : part <+: encode s) :
    ∃ first left, s.toList = first ++ left ∧
      ((part = encodeChars first ∧ (decode part).toList = first) ∨
        (left ≠ [] ∧ (decode part).toList = first ++ [replacement])) := by
  obtain ⟨first, left, hs, hcases⟩ := foldl_feed_part [] s.toList h
  refine ⟨first, left, hs, ?_⟩
  rcases hcases with ⟨hall, hread⟩ | ⟨hleft, p, hread⟩
  · left
    refine ⟨hall, ?_⟩
    rw [decode, String.toList_ofList, hread]
    simp [Decoder.finish]
  · right
    refine ⟨hleft, ?_⟩
    rw [decode, String.toList_ofList, hread]
    simp [Decoder.finish]

end Invocation.Text.Utf8
