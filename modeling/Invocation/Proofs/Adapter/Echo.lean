import Invocation.Proofs.Request.Decoding
import Invocation.Proofs.Response.Shape

/-!
# What is echoed

The echo handler hands back the body of the request, and the adapter writes it
out as text.  A body of text stands for itself there, and any other value for
its compact text, which is the text that the request has of it.  So nothing is
lost: an input that is no document comes back as the text it was decoded to, and
a body that is a value is read from what comes back, as long as its numbers are
integers.  There is no condition on how deep it nests, since a body stands
inside a document that has been read, and what can be read can be read again.

Only a body in the shape of a response is not echoed but taken for the response
that it tells.
-/

namespace Invocation

namespace Request

/-- The body stands for the same text in a request and in a response. -/
theorem bodyText_eq (r : Request) : r.bodyText = Response.bodyText r.body := by
  unfold bodyText Response.bodyText
  cases r.body <;> rfl

theorem bodyText_of_not_string {r : Request} (h : ∀ s, r.body ≠ .string s) :
    r.bodyText = r.body.text := by
  rw [bodyText_eq]
  unfold Response.bodyText
  cases hbody : r.body with
  | string s => exact absurd hbody (h s)
  | null | bool b | number n | array items | object fields => rfl

/-- The text of a body that is a value is a document, and the document is that
value. -/
theorem parse_bodyText {config : Config} {raw : List UInt8}
    (hvalue : ∀ s, (normalize config raw).body ≠ .string s)
    (hintegral : (normalize config raw).body.Integral) :
    Json.parse (normalize config raw).bodyText =
      .ok (normalize config raw).body := by
  rw [bodyText_of_not_string hvalue]
  exact Json.parse_text (exact_normalize hintegral)

/-- An input that is no document is a body of text. -/
theorem normalize_of_unparsed {raw : List UInt8}
    (h : ∀ v, Json.parse (Text.Utf8.decode raw) ≠ .ok v) (config : Config) :
    normalize config raw = ofBody config (.string (Text.Utf8.decode raw)) := by
  unfold normalize form Parsed.ofText
  unfold Json.parse at h
  cases hread : Json.read (Text.Utf8.decode raw).toList with
  | ok v => exact absurd (by rw [hread]) (h v)
  | error e => rfl

end Request

/-- The echo handler has its body taken for an outcome. -/
theorem respond_echo_eq (scene : Scene) (config : Config) (raw : List UInt8)
    (w : World) :
    (respond scene config Builtin.echo.handler raw w).1 =
      .ok (.ofOutcome config
        (.ofValue (Request.normalize config raw).body)) :=
  respond_eq scene config Builtin.echo.handler raw w

/-- Echoing an input gives the text of its body, with status 200, unless the
body is in the shape of a response.  An input that is no document comes back as
the text it was decoded to, and a body that is a value with integers for numbers
is read from what comes back, whatever its nesting and the order of its
fields. -/
theorem respond_echo (scene : Scene) (config : Config) (raw : List UInt8)
    (w : World) :
    ∃ response, (respond scene config Builtin.echo.handler raw w).1 =
        .ok response ∧
      let request := Request.normalize config raw
      ((∀ fields n, request.body = .object fields →
          ¬ Response.Shaped fields n) →
        response.status = 200 ∧ response.body = request.bodyText ∧
        ((∀ s, request.body ≠ .string s) → request.body.Integral →
          Json.parse response.body = .ok request.body)) ∧
      ((∀ v, Json.parse (Text.Utf8.decode raw) ≠ .ok v) →
        response.status = 200 ∧ response.body = Text.Utf8.decode raw) := by
  refine ⟨_, respond_echo_eq scene config raw w, ?_, fun hunparsed => ?_⟩
  · intro hplain
    rw [Outcome.ofValue_of_not_shaped hplain]
    have hbody : (Response.ofOutcome config
        (.value (Request.normalize config raw).body)).body =
          (Request.normalize config raw).bodyText :=
      (Request.bodyText_eq _).symm
    refine ⟨rfl, hbody, fun hvalue hintegral => ?_⟩
    rw [hbody, Request.parse_bodyText hvalue hintegral]
  · rw [Request.normalize_of_unparsed hunparsed]
    exact ⟨rfl, rfl⟩

end Invocation
