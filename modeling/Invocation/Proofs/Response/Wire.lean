import Invocation.Proofs.Channel.Sink
import Invocation.Proofs.Json.Decoders
import Invocation.Proofs.Text.Utf8

/-!
# Responses on the wire

A response is read back from its bytes as it was, headers in their order and
spelling included.  That the headers come back is due to their names being
distinct also when case is ignored: setting them one after the other, as the
reader does, then never replaces one that has been read.
-/

namespace Invocation

namespace ResponseHeaders

theorem put_of_new {h : Header} {entries : List Header}
    (hnew : ∀ e ∈ entries, ¬ Header.SameName e.name h.name) :
    put h entries = entries ++ [h] := by
  induction entries with
  | nil => rfl
  | cons e entries ih =>
      have he : e.hasName h.name = false := by
        simpa [Header.hasName] using hnew e (by simp)
      rw [put, he, ih fun x hx => hnew x (List.mem_cons_of_mem e hx)]
      rfl

/-- Headers of new names are set after the others, in their order. -/
theorem foldl_insert_entries (h : ResponseHeaders) (headers : List Header)
    (hnew : (h.entries ++ headers).Pairwise
      fun a b => ¬ Header.SameName a.name b.name) :
    (headers.foldl (fun h e => h.insert e.name e.value) h).entries =
      h.entries ++ headers := by
  induction headers generalizing h with
  | nil => simp
  | cons e headers ih =>
      have hput : (h.insert e.name e.value).entries = h.entries ++ [e] := by
        refine put_of_new fun x hx => ?_
        exact (List.pairwise_append.1 hnew).2.2 x hx e List.mem_cons_self
      rw [List.foldl_cons, ih _ (by rw [hput]; simpa using hnew), hput]
      simp

theorem ofFields_entries (h : ResponseHeaders) :
    ofFields (h.entries.map fun e => (e.name, .string e.value)) = h := by
  have hlist : ofFields (h.entries.map fun e => (e.name, .string e.value)) =
      ofList (h.entries.map fun e => (e.name, e.value)) := by
    unfold ofFields
    rw [List.filterMap_map, ← List.filterMap_eq_map]
    rfl
  have hentries : (ofFields (h.entries.map
      fun e => (e.name, Json.string e.value))).entries = h.entries := by
    rw [hlist, ofList, List.foldl_map]
    exact foldl_insert_entries empty h.entries h.unique
  -- Headers are determined by their entries.
  cases h
  cases hfields : ofFields _
  rw [hfields] at hentries
  cases hentries
  rfl

/-- Names that differ when case is ignored differ. -/
theorem nodup_names (h : ResponseHeaders) :
    (h.entries.map Header.name).Nodup := by
  refine List.pairwise_map.2 (h.unique.imp fun hab heq => hab ?_)
  rw [Header.SameName, heq]

theorem exact_toJson (h : ResponseHeaders) (depth : Nat) :
    h.toJson.Exact (depth + 1) := by
  constructor
  · rw [List.map_map]
    exact h.nodup_names
  · intro field hfield
    obtain ⟨e, -, rfl⟩ := List.mem_map.1 hfield
    cases depth <;> trivial

/-- Headers are read from the text of their document form. -/
theorem reads_toJson (h : ResponseHeaders) (depth : Nat) :
    Json.Reads (decoder.ofText (depth + 1)) h.toJson.chars h := by
  have hparts : ∀ p ∈ h.entries.map fun e =>
      (e.name, (Json.string e.value).chars, Json.string e.value),
      Json.Reads (Json.Decoder.any.ofText depth) p.2.1 p.2.2 := by
    intro p hp
    obtain ⟨e, -, rfl⟩ := List.mem_map.1 hp
    exact Json.Decoder.reads_any (by cases depth <;> trivial)
  have hentries := Json.Decoder.reads_entries
    "a map of header names to values" _ hparts
  have hread := Json.Decoder.reads_map ofFields hentries
  have hchars : h.toJson.chars = Json.bracket '\x7b' '\x7d'
      (Json.fieldParts (h.entries.map fun e =>
        (e.name, (Json.string e.value).chars, Json.string e.value))) := by
    rw [toJson, Json.chars, Json.fieldTexts_eq_fieldParts, List.map_map]
    rfl
  rw [List.map_map] at hread
  have hvalue : h.entries.map ((fun p => (p.1, p.2.2)) ∘ fun e =>
      (e.name, (Json.string e.value).chars, Json.string e.value)) =
        h.entries.map fun e => (e.name, Json.string e.value) := rfl
  rw [hvalue, ofFields_entries] at hread
  rw [hchars]
  exact hread

end ResponseHeaders

namespace Response

theorem exact_toJson (r : Response) (depth : Nat) :
    r.toJson.Exact (depth + 2) := by
  constructor
  · change ["status", "headers", "body"].Nodup
    decide
  · intro field hfield
    simp only [List.mem_cons, List.not_mem_nil, or_false] at hfield
    rcases hfield with rfl | rfl | rfl
    · trivial
    · exact r.headers.exact_toJson depth
    · trivial

/-- A response is read from the text of its document form. -/
theorem reads_toJson (r : Response) (depth : Nat) :
    Json.Reads (decoder.ofText (depth + 2)) r.toJson.chars r := by
  have hstatus : Json.Reads
      ((Json.Decoder.integer "u16"
        (Json.Decoder.unsigned? UInt16.size UInt16.ofNat)).ofText (depth + 1))
      (Json.intChars r.status.toNat) r.status := by
    have h := Json.Decoder.reads_unsigned "u16" UInt16.ofNat (depth + 1)
      (by decide) r.status.toNat_lt_size
    rwa [UInt16.ofNat_toNat] at h
  have hheaders := r.headers.reads_toJson depth
  have hbody := Json.Decoder.reads_string (depth + 1) r.body
  refine record.reads_decoder [
    ("status", Json.intChars r.status.toNat,
      fun s => { s with status := r.status }),
    ("headers", r.headers.toJson.chars,
      fun s => { s with headers := r.headers }),
    ("body", Json.quoteChars r.body, fun s => { s with body := r.body })]
    ?_ (by simp) rfl
  intro p hp
  simp only [List.mem_cons, List.not_mem_nil, or_false] at hp
  rcases hp with rfl | rfl | rfl
  · exact ⟨_, rfl, Json.Decoder.reads_map _ hstatus⟩
  · exact ⟨_, rfl, Json.Decoder.reads_map _ hheaders⟩
  · exact ⟨_, rfl, Json.Decoder.reads_map _ hbody⟩

theorem parse_wire (r : Response) : decoder.parse r.wire = .ok r :=
  Json.Decoder.parse_of_reads (r.reads_toJson _)

/-- The text of a response is its document form. -/
theorem json_parse_wire (r : Response) : Json.parse r.wire = .ok r.toJson :=
  Json.parse_text (r.exact_toJson _)

theorem le_of_mem_bytes (r : Response) {b : UInt8} (hb : b ∈ r.bytes) :
    0x20 ≤ b.toNat := by
  refine Text.Utf8.le_of_mem_encode (s := r.wire) (fun c hc => ?_) hb
  rw [wire, Json.text, String.toList_ofList] at hc
  exact Json.le_of_mem_chars (r.exact_toJson 0) c hc

/-- What is written of a response is text without control characters, one
object of the three fields in their order, and it is read back as the response,
so that writing it again gives the same bytes. -/
theorem wire_round_trip (r : Response) :
    (r.write {}).2.accepted = r.bytes ∧
    r.bytes.toByteArray.IsValidUTF8 ∧
    (∀ b ∈ r.bytes, 0x20 ≤ b.toNat) ∧
    ∃ text fields, Text.Utf8.decode? r.bytes = some text ∧
      Json.parse text = .ok (.object fields) ∧
      fields.map Prod.fst = ["status", "headers", "body"] ∧
      decoder.parse text = .ok r ∧
      (decoder.parse text).map bytes = .ok r.bytes := by
  have hwritten := (r.write_of_takesAll Channel.Sink.takesAll_empty).1
  refine ⟨hwritten.trans (List.nil_append _), Text.Utf8.isValidUTF8_encode r.wire,
    fun b => r.le_of_mem_bytes, r.wire, _,
    Text.Utf8.decode?_encode r.wire, Json.parse_text (r.exact_toJson _), rfl,
    r.parse_wire, ?_⟩
  rw [parse_wire]
  rfl

end Response

end Invocation
