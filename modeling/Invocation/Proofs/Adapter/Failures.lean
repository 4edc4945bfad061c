import Invocation.Proofs.Adapter.Run
import Invocation.Proofs.Response.Defaults
import Invocation.Proofs.Response.Shape

/-!
# Failing handlers

A handler fails by an error, by a panic, or by a value that has the shape of a
response and is none.  An adapter that catches panics answers all of these
alike: with status 500, with the headers that finishing adds and no others, and
with a body that tells message and trace.  Both are texts inside a text inside
a text, and come out of the two documents as they went in.
-/

namespace Invocation

/-! ## How a handler fails -/

/-- A handler that ends so has failed, with this message and this trace. -/
inductive Fails : Ending → Failure → Prop
  | error (e : ErrorChain) : Fails (.fail e) ⟨e.message, e.trace⟩
  | panic (p : Payload) :
      Fails (.panic p) ⟨p.message, "panic in handler: " ++ p.message⟩
  /-- A value in the shape of a response whose status or headers are
  unusable. -/
  | unusable {fields : Json.Fields} {status : Integer}
      (hshape : Response.Shaped fields status)
      (hbad : ¬ Response.ValidStatus status.val ∨ Response.BadHeaders fields) :
      Fails (.reply (.value (.object fields)))
        ⟨"handler returned an unusable response shape",
          (Json.object fields).text⟩

/-- The endings by which a handler fails are those that come to a failure where
panics are caught. -/
theorem ofEnding_eq_failure_iff {ending : Ending} {f : Failure} :
    Outcome.ofEnding true ending = .ok (.failure f) ↔ Fails ending f := by
  constructor
  · intro h
    cases ending with
    | fail e =>
        cases h
        exact .error e
    | panic p =>
        cases h
        exact .panic p
    | reply reply =>
        cases reply with
        | response r => cases h
        | value v =>
            obtain ⟨fields, n, rfl, hshape, hbad, rfl⟩ :=
              Outcome.ofValue_eq_failure_iff.1 (Except.ok.inj h)
            exact .unusable hshape hbad
  · intro h
    cases h with
    | error e => rfl
    | panic p => rfl
    | unusable hshape hbad =>
        exact congrArg Except.ok (Outcome.ofValue_eq_failure_iff.2
          ⟨_, _, rfl, hshape, hbad, rfl⟩)

/-! ## What a failure is answered with -/

namespace Response

/-- A failure has no other headers than those that finishing adds. -/
theorem entries_failure (config : Config) (f : Failure) :
    (ofOutcome config (.failure f)).headers.entries =
      ⟨"Content-Type", config.defaultContentType⟩ ::
        (config.runtimeHeader.map fun tag => ⟨"X-Runtime", tag⟩).toList := by
  rw [ofOutcome, entries_finish]
  change [] ++ ResponseHeaders.empty.missing contentType _ ++
    ResponseHeaders.empty.missing runtimeTag _ = _
  rw [ResponseHeaders.missing_empty, ResponseHeaders.missing_empty]
  rfl

end Response

/-- The call of a handler that has failed is answered, by an adapter that
catches panics, with status 500, the content type of the settings, the runtime
tag if there is one, and a body that is an object of the message, which is never
empty, and the trace.  Whoever reads the response on the wire as a document and
then its body as another has both texts back. -/
theorem respond_of_fails (scene : Scene) {config : Config}
    (hcatch : config.catchPanics = true) (handler : Handler)
    (input : List UInt8) (w : World) {f : Failure}
    (hfails : Fails
      (callHandler scene handler (.normalize config input) w).1 f) :
    let error := if f.message = "" then "handler failed" else f.message
    error ≠ "" ∧
    ∃ r : Response,
      (respond scene config handler input w).1 = .ok r ∧
      r.status = 500 ∧
      r.headers.entries =
        ⟨"Content-Type", config.defaultContentType⟩ ::
          (config.runtimeHeader.map fun tag => ⟨"X-Runtime", tag⟩).toList ∧
      Json.parse r.body = .ok (.object [
        ("error", .string error), ("stack", .string f.trace)]) ∧
      ∃ text fields, Text.Utf8.decode? r.bytes = some text ∧
        Json.parse text = .ok (.object fields) ∧
        Json.Fields.get? fields "body" = some (.string r.body) := by
  intro error
  have herror : error ≠ "" := by
    by_cases hempty : f.message = "" <;> simp [error, hempty]
  -- The ending of the call is the answer that the adapter concludes from.
  have hanswer := (performs_callHandler scene handler
    (.normalize config input) w).1
  rw [hanswer] at hfails
  have houtcome := ofEnding_eq_failure_iff.2 hfails
  have hresponse : (respond scene config handler input w).1 =
      .ok (.ofOutcome config (.failure f)) := by
    rw [respond_eq, conclude, hcatch, houtcome]
    rfl
  let r := Response.ofOutcome config (.failure f)
  exact ⟨herror, r, hresponse, rfl, Response.entries_failure config f,
    Response.parse_body_failure config f, r.wire, r.documentFields,
    Text.Utf8.decode?_encode r.wire, r.json_parse_wire, rfl⟩

/-- An error without a message of its own, for a cause that has one. -/
theorem respond_of_fails_nameless :
    ∃ r : Response, (respond {} { runtimeHeader := some "lean" }
      (fun _ => .fail ⟨"", ["the cause"]⟩) [] {}).1 = .ok r ∧
      r.status = 500 ∧
      Json.parse r.body = .ok (.object [("error", .string "handler failed"),
        ("stack", .string "\n\nCaused by:\n    the cause")]) := by
  have hcatch :
      ({ runtimeHeader := some "lean" } : Config).catchPanics = true := rfl
  obtain ⟨-, r, hresponse, hstatus, -, hbody, -⟩ := respond_of_fails {} hcatch
    (fun _ => .fail ⟨"", ["the cause"]⟩) [] {} (.error ⟨"", ["the cause"]⟩)
  exact ⟨r, hresponse, hstatus, hbody⟩

end Invocation
