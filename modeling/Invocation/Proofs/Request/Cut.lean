import Invocation.Proofs.Adapter.Independence
import Invocation.Proofs.Json.Cut

/-!
# Requests of inputs that broke off

An input that breaks off inside an envelope gives no part of the envelope to the
handler.  What has arrived is no document, wherever it was cut, and so it is the
text of the body and nothing else: no header, no method and no address of the
envelope is in the request.
-/

namespace Invocation.Request

/-- A text that is taken for a document was read as one. -/
theorem read_of_ofText {text : String} {v : Json}
    (h : Parsed.ofText text = .document v) : Json.read text.toList = .ok v := by
  unfold Parsed.ofText at h
  split at h
  case h_1 hread =>
    cases h
    exact hread
  case h_2 => cases h

/-- What is decoded of a strict first part of an object is left as it is. -/
theorem ofText_decode_part {envelope : String} {fields : Json.Fields}
    (hread : Parsed.ofText envelope = .document (.object fields))
    (hend : envelope.toList.getLast? = some '\x7d') {part : List UInt8}
    (hpart : part <+: Text.Utf8.encode envelope)
    (hcut : part ≠ Text.Utf8.encode envelope) :
    Parsed.ofText (Text.Utf8.decode part) =
      .unparsed (Text.Utf8.decode part) := by
  cases hpiece : Json.read (Text.Utf8.decode part).toList with
  | ok v =>
      have hwhole := read_of_ofText hread
      exact absurd (Json.eq_of_read_part hwhole hend hpart hpiece) hcut
  | error e => rw [Parsed.ofText, hpiece]

/-- An envelope ends with the brace of its object.  When only a strict first
part of its bytes arrives, cut at any of them, the handler is called once, with
what was decoded of that part as its text and with the default method and
address, however the part arrives and whatever ends it. -/
theorem normalize_of_cut {envelope : String} {fields : Json.Fields}
    (hread : Parsed.ofText envelope = .document (.object fields))
    (hend : envelope.toList.getLast? = some '\x7d') {part : List UInt8}
    (hpart : part <+: Text.Utf8.encode envelope)
    (hcut : part ≠ Text.Utf8.encode envelope) (config : Config)
    {source : Channel.Source} (harrived : source.arrived = part) :
    let request : Request :=
      { body := .string (Text.Utf8.decode part)
        headers := {}
        method := config.defaultMethod
        uri := config.defaultUri }
    normalize config (inputOf config source) = request ∧
    ∀ scene handler sink w,
      (run scene config handler source sink w).world.calls =
        w.calls ++ [request] := by
  intro request
  have hrequest : normalize config (inputOf config source) = request := by
    rw [inputOf_eq_arrived, harrived, normalize, form,
      ofText_decode_part hread hend hpart hcut]
    rfl
  refine ⟨hrequest, fun scene handler sink w => ?_⟩
  rw [calls_run, hrequest]

/-- An envelope that breaks off inside its last character. -/
theorem normalize_of_cut_in_character :
    let source : Channel.Source :=
      [.data [0x20, 0x7B, 0x22, 0x62, 0x6F, 0x64, 0x79] (some 2),
       .data [0x22, 0x3A, 0x22, 0xC3] none, .fault ⟨.other, "gone"⟩]
    (normalize {} (inputOf {} source)).body =
      .string " \x7b\"body\":\"\uFFFD" := by
  intro source
  have hread : Parsed.ofText " \x7b\"body\":\"é\"\x7d" =
      .document (.object [("body", .string "é")]) := by
    cbv
  have hpart : source.arrived <+:
      Text.Utf8.encode " \x7b\"body\":\"é\"\x7d" := by
    decide +kernel
  have hcut : source.arrived ≠ Text.Utf8.encode " \x7b\"body\":\"é\"\x7d" := by
    decide +kernel
  have hrequest :=
    (normalize_of_cut hread (by decide +kernel) hpart hcut {} rfl).1
  have htext : Text.Utf8.decode source.arrived = " \x7b\"body\":\"\uFFFD" := by
    decide +kernel
  rw [hrequest]
  exact congrArg Json.string htext

end Invocation.Request
