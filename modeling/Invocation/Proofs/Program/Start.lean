import Mathlib
import Invocation.Program.Commands
import Invocation.Proofs.Adapter.Delivery
import Invocation.Proofs.Adapter.Failures
import Invocation.Proofs.Adapter.Independence
import Invocation.Proofs.Diagnostics.Filter
import Invocation.Proofs.Program.Arguments
import Invocation.Proofs.Response.Wire

/-!
# What an invocation of the program writes

A program that runs an invocation writes one response and nothing else, or
nothing at all.  It writes nothing if its configuration cannot be loaded, and if
its diagnostics cannot be set up, which is before the guard against panics is in
place.  The response is that of the adapter under the configuration loaded, with
the runtime tag of the arguments put over it; of a panic that the adapter does
not catch it is the guard's, made under the same configuration.
-/

namespace Invocation

/-! ## Built-in handlers -/

namespace Builtin

/-- A handler that does not panic, or whose panics are caught, is answered alike
in every context. -/
theorem exists_conclude (h : Builtin) {config : Config}
    (hcaught : h ≠ .panic ∨ config.catchPanics = true) (request : Request) :
    ∃ r, ∀ context store,
      conclude config ((h.handler request).answer context store).1 = .ok r := by
  cases h with
  | echo => exact ⟨_, fun _ _ => rfl⟩
  | inspect => exact ⟨_, fun _ _ => rfl⟩
  | fail => exact ⟨_, fun _ _ => rfl⟩
  | panic =>
      have hcatch := hcaught.resolve_left fun hne => hne rfl
      obtain ⟨o, -, ho⟩ := conclude_of_catching hcatch
        (.panic (.text "simulated panic"))
      exact ⟨_, fun _ _ => ho⟩

theorem conclude_panic {config : Config} (hcatch : config.catchPanics = false)
    (request : Request) (context : Context) (store : Store) :
    conclude config ((panic.handler request).answer context store).1 =
      .error (.text "simulated panic") := by
  rw [conclude, hcatch]
  rfl

end Builtin

namespace Program

/-! ## Invocations -/

section Run

variable (s : Surroundings) (config : Config)

/-- The scene of an invocation of the program. -/
def sceneOf : Scene := { context := { functionName := config.functionName } }

theorem runInvocation_eq (handler : Handler) :
    runInvocation s config handler =
      guardedRun (sceneOf config) config handler [.data s.input none] {} {} := rfl

theorem arrived_input (input : List UInt8) :
    Channel.Source.arrived [.data input none] = input := by
  rw [Channel.Source.arrived_data (by simp)]
  exact List.append_nil input

theorem result_runInvocation (handler : Handler) :
    (runInvocation s config handler).result =
      conclude config ((handler (.normalize config s.input)).answer
        (sceneOf config).context .absent).1 := by
  rw [runInvocation_eq, result_guardedRun, inputOf_eq_arrived, arrived_input]

theorem resultOfRun_of_ok (subscriber : Subscriber) {run : Run}
    {response : Response} (hresult : run.result = .ok response)
    (after : Response → List Event) :
    let out := resultOfRun subscriber run after
    out.status = succeeded ∧
      out.output = run.world.hook.accepted ++ run.sink.accepted := by
  intro out
  simp only [out, resultOfRun, hresult]
  exact ⟨trivial, trivial⟩

theorem resultOfRun_of_error (subscriber : Subscriber) {run : Run}
    {p : Payload} (hresult : run.result = .error p)
    (after : Response → List Event) :
    let out := resultOfRun subscriber run after
    out.status = panicked ∧
      out.output = run.world.hook.accepted ++ run.sink.accepted := by
  intro out
  simp only [out, resultOfRun, hresult]
  exact ⟨trivial, trivial⟩

/-- What a run gives its two outputs is one response: its own, or the guard's
answer to the panic that leaves it. -/
theorem resultOfRun_guardedRun (subscriber : Subscriber) (handler : Handler)
    (source : Channel.Source) (after : Response → List Event) :
    let run := guardedRun (sceneOf config) config handler source {} {}
    let out := resultOfRun subscriber run after
    (∀ r, run.result = .ok r →
      out.status = succeeded ∧ out.output = r.bytes) ∧
    ∀ p, run.result = .error p →
      out.status = panicked ∧ out.output = (Response.ofOutcome config
        (.failure (.ofRaised "<location>" p))).bytes := by
  intro run out
  obtain ⟨hok, herror⟩ := accepted_guardedRun (sceneOf config) config handler
    source {} {} rfl Channel.Sink.takesAll_empty Channel.Sink.takesAll_empty
  constructor
  · intro r hresult
    obtain ⟨hsink, hhook⟩ := hok r hresult
    obtain ⟨hstatus, houtput⟩ := resultOfRun_of_ok subscriber hresult after
    rw [hhook, hsink, List.nil_append, List.nil_append] at houtput
    exact ⟨hstatus, houtput⟩
  · intro p hresult
    obtain ⟨hsink, hhook⟩ := herror p hresult
    obtain ⟨hstatus, houtput⟩ := resultOfRun_of_error subscriber hresult after
    rw [hhook, hsink, List.nil_append, List.append_nil] at houtput
    exact ⟨hstatus, houtput⟩

theorem decode_bytes (r : Response) :
    ∃ text, Text.Utf8.decode? r.bytes = some text ∧
      Response.decoder.parse text = .ok r :=
  ⟨r.wire, Text.Utf8.decode?_encode r.wire, r.parse_wire⟩

/-- An answered invocation is one whose panics are caught, or that has none. -/
theorem output_caught (subscriber : Subscriber) {handler : Builtin}
    (hcaught : handler ≠ .panic ∨ config.catchPanics = true)
    (after : Response → List Event) :
    let out := resultOfRun subscriber
      (runInvocation s config handler.handler) after
    ∃ r : Response, out.output = r.bytes ∧ out.status = succeeded ∧
      ∀ scene w, (respond scene config handler.handler s.input w).1 = .ok r := by
  intro out
  obtain ⟨r, hr⟩ :=
    handler.exists_conclude hcaught (.normalize config s.input)
  have hresult : (runInvocation s config handler.handler).result = .ok r :=
    (result_runInvocation s config handler.handler).trans (hr _ _)
  obtain ⟨hstatus, houtput⟩ :=
    (resultOfRun_guardedRun config subscriber handler.handler
      [.data s.input none] after).1 r hresult
  refine ⟨r, houtput, hstatus, fun scene w => ?_⟩
  rw [respond_eq]
  exact hr _ _

theorem output_uncaught (subscriber : Subscriber)
    (hcatch : config.catchPanics = false) (after : Response → List Event) :
    let out := resultOfRun subscriber
      (runInvocation s config Builtin.panic.handler) after
    ∃ r : Response, out.output = r.bytes ∧ out.status = panicked ∧
      r.status = 500 ∧
      r.headers.entries = ⟨"Content-Type", config.defaultContentType⟩ ::
        (config.runtimeHeader.map fun tag => ⟨"X-Runtime", tag⟩).toList ∧
      Json.parse r.body = .ok (.object [
        ("error", .string "simulated panic"),
        ("stack", .string "panic at <location>: simulated panic")]) := by
  intro out
  have hresult := (result_runInvocation s config Builtin.panic.handler).trans
    (Builtin.conclude_panic hcatch _ _ _)
  obtain ⟨hstatus, houtput⟩ := (resultOfRun_guardedRun config subscriber
    Builtin.panic.handler [.data s.input none] after).2 _ hresult
  exact ⟨_, houtput, hstatus, rfl, Response.entries_failure config _,
    Response.parse_body_failure config _⟩

/-- What a run gives its two outputs is one response, whose status and text
depend on whether a panic leaves the adapter. -/
theorem output_run (subscriber : Subscriber) (handler : Builtin)
    (after : Response → List Event) :
    let out := resultOfRun subscriber
      (runInvocation s config handler.handler) after
    ∃ r : Response, out.output = r.bytes ∧
      (handler ≠ .panic ∨ config.catchPanics = true →
        out.status = succeeded ∧ ∀ scene w,
          (respond scene config handler.handler s.input w).1 = .ok r) ∧
      (handler = .panic → config.catchPanics = false →
        out.status = panicked ∧ r.status = 500 ∧
        r.headers.entries = ⟨"Content-Type", config.defaultContentType⟩ ::
          (config.runtimeHeader.map fun tag => ⟨"X-Runtime", tag⟩).toList ∧
        Json.parse r.body = .ok (.object [
          ("error", .string "simulated panic"),
          ("stack", .string "panic at <location>: simulated panic")])) := by
  intro out
  by_cases hcaught : handler ≠ .panic ∨ config.catchPanics = true
  · obtain ⟨r, houtput, hanswer⟩ :=
      output_caught s config subscriber hcaught after
    refine ⟨r, houtput, fun _ => hanswer, fun hpanic hcatch => ?_⟩
    simp [hpanic, hcatch] at hcaught
  · obtain ⟨rfl, hcatch⟩ : handler = .panic ∧ config.catchPanics = false := by
      simpa using hcaught
    obtain ⟨r, houtput, hanswer⟩ :=
      output_uncaught s config subscriber hcatch after
    exact ⟨r, houtput, fun h => absurd h hcaught, fun _ _ => hanswer⟩

end Run

section Start

variable {args : List String} {s : Surroundings} {file : Option String}
  {command : Command}

theorem start_of_loaded {loaded : Config}
    (hargs : Intent.ofArguments args = .command file command)
    (hloaded : loadConfig s.file file = .ok loaded) :
    start args s = doCommand s loaded command := by
  simp only [start, hargs, hloaded]

theorem start_of_fault {fault : LoadFault}
    (hargs : Intent.ofArguments args = .command file command)
    (hfault : loadConfig s.file file = .error fault) :
    (start args s).status = gaveUp ∧ (start args s).output = [] := by
  simp only [start, hargs, hfault]
  exact ⟨trivial, trivial⟩

theorem doCommand_of_none {config : Config}
    (hfilter : Filter.inForce s.filter config = none) (command : Command) :
    doCommand s config command = { status := panicked } := by
  simp only [doCommand, withSubscriber, Subscriber.ofConfig, hfilter,
    Option.map_none]

theorem doCommand_run {config : Config} {filter : Filter}
    (hfilter : Filter.inForce s.filter config = some filter)
    (handler : Builtin) (tag : Option String) :
    doCommand s config (.run handler tag) =
      resultOfRun ⟨filter, config.logFormat⟩
        (runInvocation s (withRuntimeHeader config tag) handler.handler)
        fun r => [.invocationFinished handler.title r.status] := by
  simp only [doCommand, withSubscriber, Subscriber.ofConfig, hfilter,
    Option.map_some]

end Start

/-- Nothing is written without a configuration, or without a filter in force;
otherwise one response is, the adapter's or, of a panic that leaves the adapter,
the guard's. -/
theorem start_run {args : List String} {file : Option String}
    {handler : Builtin} {tag : Option String}
    (hargs : Intent.ofArguments args = .command file (.run handler tag))
    (s : Surroundings) :
    let out := start args s
    (∀ fault, loadConfig s.file file = .error fault →
      out.status ≠ 0 ∧ out.output = []) ∧
    ∀ loaded, loadConfig s.file file = .ok loaded →
      let config :=
        { loaded with runtimeHeader := tag.or loaded.runtimeHeader }
      (Filter.inForce s.filter loaded = none →
        out.status ≠ 0 ∧ out.output = []) ∧
      ((Filter.inForce s.filter loaded).isSome → ∃ r : Response,
        out.output = r.bytes ∧
        (∃ text, Text.Utf8.decode? out.output = some text ∧
          Response.decoder.parse text = .ok r) ∧
        (handler ≠ .panic ∨ config.catchPanics = true →
          out.status = 0 ∧ ∀ scene w,
            (respond scene config handler.handler s.input w).1 = .ok r) ∧
        (handler = .panic → config.catchPanics = false →
          out.status ≠ 0 ∧ r.status = 500 ∧
          r.headers.entries = ⟨"Content-Type", config.defaultContentType⟩ ::
            (config.runtimeHeader.map fun tag => ⟨"X-Runtime", tag⟩).toList ∧
          Json.parse r.body = .ok (.object [
            ("error", .string "simulated panic"),
            ("stack", .string "panic at <location>: simulated panic")]))) := by
  intro out
  refine ⟨fun fault hfault => ?_, fun loaded hloaded => ?_⟩
  · obtain ⟨hstatus, houtput⟩ := start_of_fault hargs hfault
    exact ⟨ne_of_eq_of_ne hstatus (by decide), houtput⟩
  have hout : out = doCommand s loaded (.run handler tag) :=
    start_of_loaded hargs hloaded
  intro config
  constructor
  · intro hfilter
    rw [hout, doCommand_of_none hfilter]
    exact ⟨by decide, rfl⟩
  · intro hsome
    obtain ⟨filter, hfilter⟩ := Option.isSome_iff_exists.1 hsome
    rw [doCommand_run hfilter] at hout
    obtain ⟨r, houtput, hcaught, huncaught⟩ := output_run s config
      ⟨filter, loaded.logFormat⟩ handler
      fun r => [.invocationFinished handler.title r.status]
    have hbytes : out.output = r.bytes := hout ▸ houtput
    refine ⟨r, hbytes, hbytes ▸ decode_bytes r, fun h => ?_, fun hpanic h => ?_⟩
    · obtain ⟨hstatus, hrespond⟩ := hcaught h
      exact ⟨hout ▸ hstatus, hrespond⟩
    · obtain ⟨hstatus, hanswer⟩ := huncaught hpanic h
      have hpanicked : out.status = panicked := hout ▸ hstatus
      exact ⟨ne_of_eq_of_ne hpanicked (by decide), hanswer⟩

/-- Surroundings in which every file has one text and no filter is set. -/
def withText (text : String) : Surroundings :=
  { file := fun _ => .bytes (Text.Utf8.encode text), filter := none, input := [] }

theorem loadConfig_withText {text name : String} {config : Config}
    (htext : Config.ofToml text = .ok config) :
    loadConfig (withText text).file (some name) = .ok config := by
  simp only [loadConfig, configOfFile, withText, Text.Utf8.decode?_encode, htext]

/-- The runtime tag of the arguments is in the guard's answer to a panic. -/
theorem start_run_of_panic :
    let out := start (runArguments (some "fnshim.toml") .panic (some "edge"))
      (withText "catch_panics = false\n")
    out.status ≠ 0 ∧ ∃ r : Response, out.output = r.bytes ∧ r.status = 500 ∧
      r.headers.entries =
        [⟨"Content-Type", "application/json"⟩, ⟨"X-Runtime", "edge"⟩] := by
  intro out
  have hargs : Intent.ofArguments
      (runArguments (some "fnshim.toml") .panic (some "edge")) =
      .command (some "fnshim.toml") (.run .panic (some "edge")) :=
    ofArguments_runArguments (by decide) .panic (some "edge")
  have hloaded : loadConfig (withText "catch_panics = false\n").file
      (some "fnshim.toml") = .ok { catchPanics := false } :=
    loadConfig_withText (by cbv)
  have hfilter : (Filter.inForce none { catchPanics := false }).isSome :=
    Filter.isSome_inForce (by simp [Char.utf8Size])
  obtain ⟨r, houtput, -, -, hpanic⟩ :=
    ((start_run hargs (withText "catch_panics = false\n")).2 _ hloaded).2 hfilter
  obtain ⟨hstatus, hresponse, hentries, -⟩ := hpanic rfl rfl
  exact ⟨hstatus, r, houtput, hresponse, hentries⟩

/-- A filter that has a wide blank before a target is a setting like any other,
but nothing is written under it. -/
theorem start_of_wide_blank :
    let s := withText "log_filter = \"\u3000a=info\"\n"
    let args := runArguments (some "fnshim.toml") .echo none
    Intent.ofArguments args = .command (some "fnshim.toml") (.run .echo none) ∧
    loadConfig s.file (some "fnshim.toml") =
      .ok { logFilter := "\u3000a=info" } ∧
    (start args s).status = panicked ∧
    ¬ ∃ text r, Text.Utf8.decode? (start args s).output = some text ∧
      Response.decoder.parse text = .ok r := by
  intro s args
  have hargs : Intent.ofArguments args =
      .command (some "fnshim.toml") (.run .echo none) :=
    ofArguments_runArguments (by decide) .echo none
  have hloaded : loadConfig s.file (some "fnshim.toml") =
      .ok { logFilter := "\u3000a=info" } :=
    loadConfig_withText (by cbv)
  have hfilter : Filter.inForce none { logFilter := "\u3000a=info" } = none := by
    cbv
  have hout : start args s = { status := panicked } :=
    (start_of_loaded hargs hloaded).trans (doCommand_of_none hfilter _)
  refine ⟨hargs, hloaded, congrArg Result.status hout, ?_⟩
  rintro ⟨text, r, htext, hparse⟩
  rw [hout] at htext
  have hempty : text = "" := (Option.some.inj htext).symm
  have hfault : Response.decoder.parse "" =
      .error "EOF while parsing a value at line 1 column 0" := by cbv
  rw [hempty, hfault] at hparse
  cases hparse

end Program
end Invocation
