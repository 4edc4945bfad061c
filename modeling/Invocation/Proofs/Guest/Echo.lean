import Invocation.Proofs.Adapter.Independence
import Invocation.Proofs.Guest.Visit
import Invocation.Proofs.Header.Partition
import Invocation.Proofs.Program.Start
import Invocation.Proofs.Response.Defaults
import Invocation.Proofs.Store.Refusals

/-!
# The echo function

A complete program that tells what it saw.  Whether its request names a key to
visit decides what it does with the store and what it reports, but not what it
answers: the stand-in for the store gives nothing back, so the answer of a visit
is that of no visit.  What it answers is a response whose headers are fixed and
whose body is the text of a value, and no input can make it anything else.
-/

namespace Invocation

namespace Guest

/-- What the echo function answers, before it is finished. -/
def reply (r : Request) : Response :=
  (Response.json 200 (echoed r none)).withHeader "X-Handler" "echo-function"

/-! ## The handler -/

section Handler

variable (context : Context) (r : Request)

/-- The answer does not depend on whether there is a key to visit. -/
theorem answer_echo :
    (echo r).answer context .absent = (.reply (.response (reply r)), .absent) := by
  unfold echo
  cases r.decode visitRecord.decoder <;> rfl

theorem accesses_echo :
    (echo r).accesses context .absent =
      match r.decode visitRecord.decoder with
      | .ok visit => [.set visit.visit "1", .got visit.visit none]
      | .error _ => [] := by
  unfold echo
  cases r.decode visitRecord.decoder <;> rfl

/-- The store is asked about the key that the request names. -/
theorem accesses_echo_eq_iff {key : String} :
    (echo r).accesses context .absent = [.set key "1", .got key none] ↔
      r.decode visitRecord.decoder = .ok ⟨key⟩ := by
  rw [accesses_echo]
  cases r.decode visitRecord.decoder with
  | error e => simp
  | ok visit =>
      obtain ⟨other⟩ := visit
      simp

/-- The store is left alone if the request names no key. -/
theorem accesses_echo_eq_nil_iff :
    (echo r).accesses context .absent = [] ↔
      ∀ visit, r.decode visitRecord.decoder ≠ .ok visit := by
  rw [accesses_echo]
  cases r.decode visitRecord.decoder <;> simp

end Handler

/-! ## The response -/

section Response

variable (r : Request)

theorem entries_reply :
    (reply r).headers.entries =
      [⟨"Content-Type", "application/json"⟩, ⟨"X-Handler", "echo-function"⟩] := by
  change (((ResponseHeaders.empty.insert "Content-Type" "application/json").insert
    "X-Handler" "echo-function").entries) = _
  decide +kernel

/-- Of the two headers that a response has to have only the runtime tag is
missing. -/
theorem entries_finish_reply :
    ((reply r).finish echoConfig).headers.entries =
      [⟨"Content-Type", "application/json"⟩, ⟨"X-Handler", "echo-function"⟩,
        ⟨"X-Runtime", "fnshim-rust"⟩] := by
  rw [Response.entries_finish, ResponseHeaders.missing, ResponseHeaders.missing,
    entries_reply]
  decide +kernel

theorem first_user_agent :
    r.header "User-Agent" =
      (r.headers.getAll "User-Agent").head?.getD "Unknown" := by
  rw [Request.header, RequestHeaders.first, RequestHeaders.get?_eq_head?,
    RequestHeaders.missing]

/-- The body that the echo function answers is read back as what it tells, as
long as the numbers in the request are integers.  It needs one more container
than the request, which only a document without a body may have used up. -/
theorem parse_echoed {config : Config} {raw : List UInt8}
    (hintegral : (Request.normalize config raw).body.Integral)
    (hnesting : (Request.normalize config raw).body.nesting < Json.maxDepth) :
    Json.parse (echoed (Request.normalize config raw) none).text =
      .ok (echoed (Request.normalize config raw) none) := by
  have hbody : (Request.normalize config raw).body.Exact 126 :=
    Json.exact_of_nesting hintegral (Request.settled_normalize config raw).body
      (Nat.le_of_lt_succ hnesting)
  refine Json.parse_text ⟨?_, fun field hfield => ?_⟩
  · change ["method", "uri", "user_agent", "body", "visits"].Nodup
    decide
  · simp only [List.mem_cons, List.not_mem_nil, or_false] at hfield
    rcases hfield with rfl | rfl | rfl | rfl | rfl
    · trivial
    · trivial
    · trivial
    · exact hbody
    · trivial

end Response

end Guest

/-! ## The program -/

namespace Program

/-- A program that is one function, with whatever its standard input has in
store. -/
def fed (config : Config) (handler : Handler) (s : Surroundings)
    (source : Channel.Source) : Result :=
  withSubscriber s config fun subscriber =>
    resultOfRun subscriber
      (guardedRun (sceneOf config) config handler source {} {}) fun _ => []

/-- The input of the surroundings is a source of its bytes. -/
theorem ofFunction_eq_fed (config : Config) (handler : Handler)
    (s : Surroundings) :
    ofFunction config handler s = fed config handler s [.data s.input none] :=
  rfl

/-- A program whose function is answered writes the response and succeeds. -/
theorem fed_of_ok {config : Config} {handler : Handler} {s : Surroundings}
    {source : Channel.Source} {subscriber : Subscriber} {r : Response}
    (hsubscriber : Subscriber.ofConfig s.filter config = some subscriber)
    (hresult : (guardedRun (sceneOf config) config handler source {} {}).result =
      .ok r) :
    fed config handler s source =
      { status := succeeded
        output := r.bytes
        reports := subscriber.reports (guardedRun (sceneOf config) config
          handler source {} {}).world.trace } := by
  obtain ⟨hsink, hhook⟩ := (accepted_guardedRun (sceneOf config) config handler
    source {} {} rfl Channel.Sink.takesAll_empty
    Channel.Sink.takesAll_empty).1 r hresult
  simp only [fed, withSubscriber, hsubscriber, resultOfRun, hresult, hhook,
    hsink, List.map_nil, List.append_nil, List.nil_append]

/-- The echo function is answered by its own reply, finished. -/
theorem result_guardedRun_echo (source : Channel.Source) :
    (guardedRun (sceneOf Guest.echoConfig) Guest.echoConfig Guest.echo source {}
        {}).result =
      .ok ((Guest.reply (.normalize Guest.echoConfig source.arrived)).finish
        Guest.echoConfig) := by
  rw [result_guardedRun, inputOf_eq_arrived]
  change conclude _ ((Guest.echo _).answer _ .absent).1 = _
  rw [Guest.answer_echo]
  rfl

/-- What a run of the echo function reports of its store. -/
theorem refusals_guardedRun_echo (source : Channel.Source) :
    (guardedRun (sceneOf Guest.echoConfig) Guest.echoConfig Guest.echo source {}
        {}).world.trace.filter (·.event.ofStore) =
      ((Guest.echo (.normalize Guest.echoConfig source.arrived)).accesses
        (sceneOf Guest.echoConfig).context .absent).refusals "echo-function" := by
  rw [← inputOf_eq_arrived Guest.echoConfig]
  exact filter_ofStore_run
    { sceneOf Guest.echoConfig with watch := .answering Guest.echoConfig } rfl
    Guest.echo source {} rfl

/-- The program of the echo function, for any standard input and as long as its
diagnostics can be set up, which they can without a filter in the environment.
It succeeds and writes one response, whose status and headers are always the same
and whose body tells what the request was.  The store is set and then asked about
one key if the body of the request is read as a visit of that key, which is to
say that it names the key, as a value or as the text of one; otherwise the store
is left alone.  Every access is warned of, and nothing else is said of the
store. -/
theorem echo_answers_every_input (s : Surroundings) (source : Channel.Source) :
    let config := Guest.echoConfig
    let request := Request.normalize config source.arrived
    let decoded := request.decode Guest.visitRecord.decoder
    let told : Json := .object [
      ("method", .string request.method),
      ("uri", .string request.uri),
      ("user_agent", .string
        ((request.headers.getAll "User-Agent").head?.getD "Unknown")),
      ("body", request.body),
      ("visits", .null)]
    (ofFunction config Guest.echo s =
        fed config Guest.echo s [.data s.input none] ∧
      Channel.Source.arrived [.data s.input none] = s.input) ∧
    (s.filter = none → (Subscriber.ofConfig s.filter config).isSome) ∧
    ∀ subscriber, Subscriber.ofConfig s.filter config = some subscriber →
      ∃ (r : Response) (trace : List Entry) (history : History),
        fed config Guest.echo s source =
          { status := succeeded
            output := r.bytes
            reports := subscriber.reports trace } ∧
        (∃ text, Text.Utf8.decode? r.bytes = some text ∧
          Response.decoder.parse text = .ok r) ∧
        r.status = 200 ∧
        r.headers.entries = [⟨"Content-Type", "application/json"⟩,
          ⟨"X-Handler", "echo-function"⟩, ⟨"X-Runtime", "fnshim-rust"⟩] ∧
        r.body = told.text ∧
        (request.body.Integral → request.body.nesting < Json.maxDepth →
          Json.parse r.body = .ok told) ∧
        Tells (sceneOf config).context (Guest.echo request) .absent history ∧
        (∀ key, history = [.set key "1", .got key none] ↔
          decoded = .ok ⟨key⟩) ∧
        (history = [] ↔ ∀ visit, decoded ≠ .ok visit) ∧
        (∀ key, (∀ t, request.body ≠ .string t) →
          (decoded = .ok ⟨key⟩ ↔ Guest.NamesKey key request.body)) ∧
        (∀ key v, request.body = .string v.text → v.Exact Json.maxDepth →
          (decoded = .ok ⟨key⟩ ↔ Guest.NamesKey key v)) ∧
        trace.filter (·.event.ofStore) = history.refusals "echo-function" ∧
        (∀ e ∈ history.refusals "echo-function", e.event.level = .warn) ∧
        (s.filter = none → (subscriber.shown trace).filter (·.event.ofStore) =
          history.refusals "echo-function") := by
  intro config request decoded told
  have hdefault : s.filter = none →
      Subscriber.ofConfig s.filter config = some ⟨.upTo .info, .text⟩ := by
    intro hnone
    rw [hnone]
    exact Subscriber.ofConfig_of_info rfl
  refine ⟨⟨ofFunction_eq_fed _ _ s, arrived_input s.input⟩, fun hnone => ?_,
    fun subscriber hsubscriber => ?_⟩
  · rw [hdefault hnone]
    rfl
  have htold : told = Guest.echoed request none := by
    rw [Guest.echoed, Guest.first_user_agent]
    rfl
  have hrefusals := refusals_guardedRun_echo source
  refine ⟨_, _, _, fed_of_ok hsubscriber (result_guardedRun_echo source),
    decode_bytes _, rfl, Guest.entries_finish_reply request,
    congrArg Json.text htold.symm, ?parsed, tells_accesses _ _ _,
    fun key => Guest.accesses_echo_eq_iff _ request,
    Guest.accesses_echo_eq_nil_iff _ request,
    fun key hvalue => Guest.decode_visit_iff hvalue,
    fun key v hbody hexact => Guest.decode_visit_text_iff hbody hexact,
    hrefusals, fun e he => History.level_of_mem_refusals he, ?shown⟩
  case parsed =>
    intro hintegral hnesting
    rw [htold]
    exact Guest.parse_echoed hintegral hnesting
  case shown =>
    intro hnone
    obtain rfl := Option.some.inj ((hdefault hnone).symm.trans hsubscriber)
    rw [← Subscriber.shown_filter, hrefusals, History.shown_refusals]

/-- An envelope that arrives in pieces and breaks off behind its end, whose body
is the text of a visit and whose header is spelled in another case and has two
values. -/
theorem echo_answers_every_input_of_visit :
    let visit : Json := .object [("visit", .string "k")]
    let raw := Text.Utf8.encode (Json.text (.object [
      ("headers", .object [
        ("user-agent", .array [.string "é", .string "b"])]),
      ("body", .string visit.text)]))
    let s : Surroundings :=
      { file := fun _ => .unreadable noSuchFile, filter := none, input := raw }
    let source : Channel.Source := [.data (raw.take 30) (some 7),
      .data (raw.drop 30) none, .fault ⟨.connectionReset, "gone"⟩]
    ∃ (r : Response) (subscriber : Subscriber) (trace : List Entry),
      fed Guest.echoConfig Guest.echo s source =
        { status := succeeded
          output := r.bytes
          reports := subscriber.reports trace } ∧
      r.status = 200 ∧
      Json.parse r.body = .ok (.object [
        ("method", .string "POST"),
        ("uri", .string "/"),
        ("user_agent", .string "é"),
        ("body", .string visit.text),
        ("visits", .null)]) ∧
      (subscriber.shown trace).filter (·.event.ofStore) =
        [⟨some "echo-function", .storeWriteRefused "k"⟩,
          ⟨some "echo-function", .storeReadRefused "k"⟩] := by
  intro visit raw s source
  have harrived : source.arrived = raw := by
    rw [Channel.Source.arrived_data (by simp),
      Channel.Source.arrived_data (by simp), ← List.append_assoc,
      List.take_append_drop]
    exact List.append_nil raw
  have hrequest : Request.normalize Guest.echoConfig raw =
      { body := .string visit.text
        headers := ⟨[⟨"user-agent", "é"⟩, ⟨"user-agent", "b"⟩]⟩
        method := "POST"
        uri := "/" } := by
    rw [Request.normalize, Request.form_encode]
    · rfl
    · simp [Json.Exact, Json.maxDepth]
  have hsame : Header.SameName "user-agent" "User-Agent" := by
    rw [Header.sameName_iff]
    simp [Header.SameLetter]
  have hagents : RequestHeaders.getAll
      ⟨[⟨"user-agent", "é"⟩, ⟨"user-agent", "b"⟩]⟩ "User-Agent" = ["é", "b"] := by
    simp [RequestHeaders.getAll, Header.hasName, hsame]
  have hintegral : ∀ t, Json.Integral (.string t) := by
    rintro t n ⟨⟩
  have hnesting : ∀ t, Json.nesting (.string t) < Json.maxDepth :=
    fun _ => Nat.succ_pos _
  have hnames : Guest.NamesKey "k" visit := .inr ⟨_, rfl, rfl⟩
  have hexact : visit.Exact Json.maxDepth := by
    simp [visit, Json.Exact, Json.maxDepth]
  obtain ⟨-, hdefault, hanswer⟩ := echo_answers_every_input s source
  obtain ⟨subscriber, hsubscriber⟩ := Option.isSome_iff_exists.1 (hdefault rfl)
  obtain ⟨r, trace, history, hout, -, hstatus, -, -, hparse, -, hhistory, -, -,
    htext, -, -, hshown⟩ := hanswer subscriber hsubscriber
  rw [harrived, hrequest] at hparse hhistory htext
  simp only [hagents, List.head?_cons, Option.getD_some] at hparse
  rw [(hhistory "k").2 ((htext "k" visit rfl hexact).2 hnames)] at hshown
  exact ⟨r, subscriber, trace, hout, hstatus,
    hparse (hintegral _) (hnesting _), hshown rfl⟩

end Program
end Invocation
