import Invocation.Proofs.Channel.Exchange
import Invocation.Proofs.Json.Cut
import Invocation.Proofs.Response.Wire

/-!
# Responses that were not written to the end

A sink may break in the middle of a response.  What it has taken then is no
JSON document, whatever the headers and the body of the response are: the
object that a response is on the wire ends with the last brace, and a reader
that has come to the end of an object never asks for what follows.  For the same
reason no response begins another one, and bytes that are responses written one
after the other are so in one way only.
-/

namespace Invocation

namespace Json

/-- The bytes are one JSON document. -/
def IsDocument (bytes : List UInt8) : Prop :=
  ∃ text v, Text.Utf8.decode? bytes = some text ∧ parse text = .ok v

theorem IsDocument.parse_decode {bytes : List UInt8} (h : IsDocument bytes) :
    ∃ v, parse (Text.Utf8.decode bytes) = .ok v := by
  obtain ⟨text, v, htext, hparse⟩ := h
  simp only [Text.Utf8.decode?] at htext
  split at htext
  case isTrue =>
    cases htext
    exact ⟨v, hparse⟩
  case isFalse => cases htext

end Json

namespace Response

/-- The text of a response ends with the brace of its object. -/
theorem getLast?_wire (r : Response) :
    r.wire.toList.getLast? = some '\x7d' := by
  rw [wire, Json.text, String.toList_ofList, toJson, Json.chars, Json.bracket,
    ← List.cons_append, List.getLast?_append]
  rfl

/-- A first part of a response that reads as a document, be it after repair, is
the whole response. -/
theorem eq_of_parse_part (r : Response) {part : List UInt8} {v : Json}
    (hpart : part <+: r.bytes)
    (hparse : Json.parse (Text.Utf8.decode part) = .ok v) : part = r.bytes :=
  Json.eq_of_read_part (Json.read_of_parse r.json_parse_wire) r.getLast?_wire
    hpart (Json.read_of_parse hparse)

theorem isDocument_bytes (r : Response) : Json.IsDocument r.bytes :=
  ⟨r.wire, r.toJson, Text.Utf8.decode?_encode r.wire, r.json_parse_wire⟩

/-- No response begins another one on the wire. -/
theorem eq_of_begins {r r' : Response} (h : r.bytes <+: r'.bytes) :
    r = r' := by
  have hdecode : ∀ r : Response, Text.Utf8.decode r.bytes = r.wire :=
    fun r => Text.Utf8.decode_encode r.wire
  have hparse : Json.parse (Text.Utf8.decode r.bytes) = .ok r.toJson := by
    rw [hdecode, r.json_parse_wire]
  have hwire : r.wire = r'.wire := by
    rw [← hdecode, ← hdecode, r'.eq_of_parse_part h hparse]
  have hread := r.parse_wire
  rw [hwire, r'.parse_wire] at hread
  exact (Except.ok.inj hread).symm

theorem bytes_ne_nil (r : Response) : r.bytes ≠ [] := by
  intro h
  have hwire : r.wire = Text.Utf8.decode r.bytes :=
    (Text.Utf8.decode_encode r.wire).symm
  have hlast := r.getLast?_wire
  rw [hwire, h] at hlast
  cases hlast

/-- Responses that were written one after the other can be told apart. -/
theorem flatMap_bytes_injective :
    Function.Injective fun rs : List Response => rs.flatMap bytes := by
  intro rs
  induction rs with
  | nil =>
      intro rs' h
      cases rs' with
      | nil => rfl
      | cons r' rs' =>
          exact absurd (List.append_eq_nil_iff.1 h.symm).1 r'.bytes_ne_nil
  | cons r rs ih =>
      intro rs' h
      cases rs' with
      | nil => exact absurd (List.append_eq_nil_iff.1 h).1 r.bytes_ne_nil
      | cons r' rs' =>
          have h : r.bytes ++ rs.flatMap bytes =
              r'.bytes ++ rs'.flatMap bytes := h
          -- Both begin the same bytes, so one of them begins the other.
          have hsame : r = r' := by
            rcases List.prefix_or_prefix_of_prefix
              (h ▸ List.prefix_append r.bytes _)
              (List.prefix_append r'.bytes _) with hprefix | hprefix
            · exact eq_of_begins hprefix
            · exact (eq_of_begins hprefix).symm
          subst hsame
          rw [ih (List.append_cancel_left h)]

/-- Of a response, whatever the sink it is written to, a document is accepted
exactly if it is accepted whole, and that is when the writing ends without a
fault.  No shorter first part of its bytes is a document, not even one that is
repaired before it is read. -/
theorem document_iff_whole (r : Response) :
    (∀ s : Channel.Sink, ∃ taken, taken <+: r.bytes ∧
      (r.write s).2.accepted = s.accepted ++ taken ∧
      (Json.IsDocument taken ↔ taken = r.bytes) ∧
      (Json.IsDocument taken ↔ (s.writeAll r.bytes).1 = none)) ∧
    ∀ part, part <+: r.bytes → part ≠ r.bytes →
      ¬ Json.IsDocument part ∧
      ∀ v, Json.parse (Text.Utf8.decode part) ≠ .ok v := by
  have hdocument : ∀ part, part <+: r.bytes →
      (Json.IsDocument part ↔ part = r.bytes) := by
    intro part hpart
    constructor
    · intro h
      obtain ⟨v, hparse⟩ := h.parse_decode
      exact r.eq_of_parse_part hpart hparse
    · rintro rfl
      exact r.isDocument_bytes
  constructor
  · intro s
    have htaken := Channel.Sink.taken_deliver_prefix s.answers r.bytes
    have haccepted := (r.write_sink s).1.trans (s.accepted_writeAll r.bytes)
    have hfault := Channel.Sink.fault_deliver_iff s.answers r.bytes
    rw [← s.fault_writeAll] at hfault
    exact ⟨_, htaken, haccepted, hdocument _ htaken,
      (hdocument _ htaken).trans hfault.symm⟩
  · intro part hpart hshort
    refine ⟨fun h => hshort ((hdocument part hpart).1 h), fun v hparse => ?_⟩
    exact hshort (r.eq_of_parse_part hpart hparse)

end Response
end Invocation
