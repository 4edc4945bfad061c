import Invocation.Handler.Guest
import Invocation.Proofs.Json.Records
import Invocation.Proofs.Request.Decoding

/-!
# Bodies that name a key

Which bodies name a key to visit: objects with a text under `visit`, whatever
else they have, and arrays of one text.  A body of text names the key that the
value it is the compact text of names.
-/

namespace Invocation.Guest

open Json (Decoder)

/-- The value names a key to visit. -/
def NamesKey (key : String) (v : Json) : Prop :=
  v = .array [.string key] ∨
    ∃ fields, v = .object fields ∧
      Json.Fields.get? fields "visit" = some (.string key)

theorem ofJson_visit_iff {v : Json}
    (hnames : ∀ fields, v = .object fields → (fields.map Prod.fst).Nodup)
    {key : String} :
    visitRecord.decoder.ofJson v = .ok ⟨key⟩ ↔ NamesKey key v := by
  have hstring : ∀ w, (Decoder.string.ofJson w).map Visit.mk = .ok ⟨key⟩ ↔
      w = .string key := by
    intro w
    cases w <;> simp [Decoder.string, Except.map]
  have hrecord := Decoder.Record.ofJson_single_iff (r := visitRecord)
    (x := ⟨key⟩) rfl hnames
  rw [hrecord]
  change (∃ w, _ ∧ (Decoder.string.ofJson w).map Visit.mk = .ok ⟨key⟩) ↔ _
  simp only [hstring, exists_eq_right, NamesKey]

theorem agrees_visit : visitRecord.decoder.Agrees :=
  Decoder.Record.agrees_single rfl Decoder.agrees_string

/-- A body that is a value is read as the key that it names. -/
theorem decode_visit_iff {config : Config} {raw : List UInt8}
    (hvalue : ∀ s, (Request.normalize config raw).body ≠ .string s)
    {key : String} :
    (Request.normalize config raw).decode visitRecord.decoder = .ok ⟨key⟩ ↔
      NamesKey key (Request.normalize config raw).body := by
  rw [Request.decode_value_iff hvalue]
  refine ofJson_visit_iff fun fields hbody => ?_
  exact (Request.settled_normalize config raw).body fields (hbody ▸ .self)

/-- A body of text is read as the key that is named by the value of which it is
the compact text. -/
theorem decode_visit_text_iff {r : Request} {v : Json}
    (hbody : r.body = .string v.text) (hexact : v.Exact Json.maxDepth)
    {key : String} :
    r.decode visitRecord.decoder = .ok ⟨key⟩ ↔ NamesKey key v := by
  have hnames : ∀ fields, v = .object fields → (fields.map Prod.fst).Nodup := by
    rintro fields rfl
    exact hexact.1
  rw [Request.decode_text_iff hbody, ← ofJson_visit_iff hnames,
    ← Decoder.convert_eq_ok_iff]
  rcases agrees_visit.convert_or hexact with
    ⟨x, hconvert, hparse⟩ | ⟨m, e, hconvert, hparse⟩
  · rw [hparse, hconvert]
  · simp [hparse, hconvert]

end Invocation.Guest
