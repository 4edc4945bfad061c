import Invocation.Proofs.Adapter.Run
import Invocation.Proofs.Response.Shape

/-!
# Relayed responses

A handler may call another adapter and hand back, as a JSON value, the document
that it was answered with.  If both adapters have the same settings, the outer
one gives the very response of the inner one: the document is read as the
response that it tells, and finishing that has nothing left to add, because it
has been finished in the same way.  So it goes on from adapter to adapter,
whatever else the handlers do.
-/

namespace Invocation

/-- The response is one that an adapter with these settings gives. -/
def Given (config : Config) (r : Response) : Prop :=
  ∃ scene handler input w, (respond scene config handler input w).1 = .ok r

/-- The call of the handler ends by handing back, as a JSON value, the document
that `inner` is on the wire. -/
def HandsBack (scene : Scene) (config : Config) (handler : Handler)
    (input : List UInt8) (w : World) (inner : Response) : Prop :=
  ∃ v, Json.parse inner.wire = .ok v ∧
    (callHandler scene handler (.normalize config input) w).1 =
      .reply (.value v)

/-- The response comes from the response `r` of an adapter by having been handed
back, any number of times, through adapters with the same settings. -/
inductive Relayed (config : Config) (r : Response) : Response → Prop
  | given (h : Given config r) : Relayed config r r
  | relay {inner outer : Response} {scene : Scene} {handler : Handler}
      {input : List UInt8} {w : World} (hinner : Relayed config r inner)
      (hback : HandsBack scene config handler input w inner)
      (houter : (respond scene config handler input w).1 = .ok outer) :
      Relayed config r outer

namespace Response

/-- What an adapter gives is finished. -/
theorem finish_of_given {config : Config} {r : Response}
    (h : Given config r) : r.finish config = r := by
  obtain ⟨scene, handler, input, w, hr⟩ := h
  rw [respond_eq, conclude] at hr
  cases houtcome : Outcome.ofEnding config.catchPanics
      ((handler (.normalize config input)).answer scene.context w.store).1 with
  | error p =>
      rw [houtcome] at hr
      cases hr
  | ok o =>
      rw [houtcome] at hr
      cases hr
      exact finish_finish config (draft o)

end Response

section Relay

variable {scene : Scene} {config : Config} {handler : Handler}
  {input : List UInt8} {w : World} {r inner outer : Response}

/-- The answer of a handler that hands a document back. -/
theorem HandsBack.answer (h : HandsBack scene config handler input w r) :
    ((handler (.normalize config input)).answer scene.context w.store).1 =
      .reply (.value r.toJson) := by
  obtain ⟨v, hparse, hcall⟩ := h
  rw [r.json_parse_wire] at hparse
  cases hparse
  rw [← hcall]
  exact (performs_callHandler scene handler _ w).1.symm

/-- An adapter whose handler hands back a response that has been finished with
the same settings concludes with that response. -/
theorem conclude_relayed (hfinished : r.finish config = r)
    (hvalid : Response.ValidStatus (r.status.toNat : Int)) :
    conclude config (.reply (.value r.toJson)) = .ok r := by
  have hreply : Outcome.ofReply (.value r.toJson) = .response r :=
    r.ofValue_toJson hvalid
  rw [conclude, Outcome.ofEnding, hreply]
  exact congrArg Except.ok hfinished

theorem respond_of_handsBack (h : HandsBack scene config handler input w r)
    (hfinished : r.finish config = r)
    (hvalid : Response.ValidStatus (r.status.toNat : Int)) :
    (respond scene config handler input w).1 = .ok r := by
  rw [respond_eq, h.answer, conclude_relayed hfinished hvalid]

/-- A response that has been relayed is the response from which it comes. -/
theorem Relayed.eq (h : Relayed config r outer)
    (hvalid : Response.ValidStatus (r.status.toNat : Int)) :
    outer = r ∧ r.finish config = r := by
  -- Every adapter on the way finishes the response again, so the induction
  -- carries that it is finished.
  induction h with
  | given hgiven => exact ⟨rfl, Response.finish_of_given hgiven⟩
  | relay hinner hback houter ih =>
      obtain ⟨rfl, hfinished⟩ := ih
      rw [respond_of_handsBack hback hfinished hvalid] at houter
      cases houter
      exact ⟨rfl, hfinished⟩

end Relay

/-- The document of a response is taken for that response, if its status is one
that a handler may give, and for a failed call otherwise, never for a plain
value.  So an adapter whose handler hands back the document of a response that
an adapter with the same settings has given, and that may have been relayed any
number of times since, gives that response and writes the very bytes. -/
theorem relay_transparent (r : Response) :
    (∃ v, Json.parse r.wire = .ok v ∧
      (Response.ValidStatus (r.status.toNat : Int) →
        Outcome.ofReply (.value v) = .response r) ∧
      (¬ Response.ValidStatus (r.status.toNat : Int) →
        Outcome.ofReply (.value v) = .failure (Outcome.unusable v))) ∧
    (Response.ValidStatus (r.status.toNat : Int) →
      ∀ config inner, Relayed config r inner →
      ∀ (scene : Scene) handler source sink w,
        HandsBack scene config handler (inputOf config source) w inner →
        let out := run scene config handler source sink w
        out.result = .ok r ∧ out.sink = (r.write sink).2 ∧
          (sink.TakesAll → out.sink.accepted = sink.accepted ++ r.bytes)) := by
  constructor
  · exact ⟨r.toJson, r.json_parse_wire, r.ofValue_toJson,
      r.ofValue_toJson_of_not_valid⟩
  · intro hvalid config inner hrelayed scene handler source sink w hback out
    obtain ⟨rfl, hfinished⟩ := hrelayed.eq hvalid
    have hresult : out.result = .ok inner := by
      rw [result_run, hback.answer, conclude_relayed hfinished hvalid]
    have hsink : out.sink = (inner.write sink).2 := by
      rw [sink_run, hresult]
      rfl
    refine ⟨hresult, hsink, fun htakes => ?_⟩
    rw [hsink]
    exact (inner.write_of_takesAll htakes).1

/-! ## Adapters inside adapters -/

/-- Hands back the document that a response is on the wire. -/
def Action.handBack (r : Response) : Action :=
  (Json.parse r.wire).toOption.elim (.fail ⟨"no document", []⟩)
    fun v => .reply (.value v)

/-- Has an adapter answer an input and hands back what it answers. -/
def relaying (config : Config) (inner : Handler) (input : List UInt8) :
    Handler :=
  fun _ => .respond config inner input Action.handBack

theorem handsBack_relaying {scene : Scene} {config : Config} {inner : Handler}
    {input : List UInt8} {w : World} {r : Response}
    (h : (respond scene config inner input w).1 = .ok r)
    (outer : List UInt8) :
    HandsBack scene config (relaying config inner input) outer w r := by
  have hback : Action.handBack r = .reply (.value r.toJson) := by
    rw [Action.handBack, r.json_parse_wire]
    rfl
  rw [respond_eq] at h
  refine ⟨r.toJson, r.json_parse_wire, ?_⟩
  rw [(performs_callHandler scene _ _ w).1, relaying, Action.answer]
  simp only [h]
  rw [hback, Action.answer]

/-- A response without a content type of its own, through two adapters. -/
theorem relay_transparent_twice :
    let inner : Handler := fun _ =>
      .reply (.response { status := 404, body := "gone" })
    ∃ r : Response, r.status = 404 ∧
      let out := run {} {} (relaying {} (relaying {} inner []) [0x31]) [] {} {}
      out.result = .ok r ∧ out.sink = (r.write {}).2 := by
  intro inner
  have hinner : ∃ r : Response, r.status = 404 ∧
      (respond {} {} inner [] {}).1 = .ok r := by
    refine ⟨_, ?_, respond_eq {} {} inner [] {}⟩
    rfl
  obtain ⟨r, hstatus, hinner⟩ := hinner
  have hgiven : Given {} r := ⟨{}, inner, [], {}, hinner⟩
  have hvalid : Response.ValidStatus (r.status.toNat : Int) := by
    rw [hstatus]
    exact ⟨by decide, by decide⟩
  have houter : (respond {} {} (relaying {} inner []) [0x31] {}).1 = .ok r :=
    respond_of_handsBack (handsBack_relaying hinner [0x31])
      (Response.finish_of_given hgiven) hvalid
  have hrelayed : Relayed {} r r :=
    .relay (.given hgiven) (handsBack_relaying hinner [0x31]) houter
  obtain ⟨hresult, hsink, -⟩ := (relay_transparent r).2 hvalid {} r hrelayed {}
    (relaying {} (relaying {} inner []) [0x31]) [] {} {}
    (handsBack_relaying houter _)
  exact ⟨r, hstatus, hresult, hsink⟩

end Invocation
