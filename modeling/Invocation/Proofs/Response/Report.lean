import Invocation.Proofs.Channel.Exchange

/-!
# What writing a response reports

Writing a response reports its length if the sink has taken all of it and has
been flushed, and otherwise the fault that stood in the way.  That is the fault
of the answer by which the sink refused the rest, and then the sink has not been
flushed, or else the fault of the flush.  So a report of success is never given
for a response of which something is missing, nor a fault for one that went out.
-/

namespace Invocation.Response

open Channel (Answer Fault Sink)

/-- A response that is refused is not flushed. -/
theorem write_of_refused {r : Response} {s : Sink} {f : Fault}
    (h : (Sink.deliver s.answers r.bytes).fault = some f) :
    r.write s = (.error (.outputWrite f.message), (s.writeAll r.bytes).2) := by
  have hwritten : s.writeAll r.bytes = (some f, (s.writeAll r.bytes).2) :=
    Prod.ext ((s.fault_writeAll r.bytes).trans h) rfl
  unfold write
  rw [hwritten]

/-- A response that is taken whole is flushed once. -/
theorem write_of_taken {r : Response} {s : Sink}
    (h : (Sink.deliver s.answers r.bytes).fault = none) :
    r.write s =
      (s.flushFault.elim (.ok r.bytes.length) fun f =>
        .error (.outputWrite f.message), (s.writeAll r.bytes).2.flush.2) := by
  have hwritten : s.writeAll r.bytes = (none, (s.writeAll r.bytes).2) :=
    Prod.ext ((s.fault_writeAll r.bytes).trans h) rfl
  unfold write
  rw [hwritten]
  simp only
  rw [s.flush_writeAll]
  cases s.flushFault <;> rfl

theorem flushes_of_refused {r : Response} {s : Sink} {f : Fault}
    (h : (Sink.deliver s.answers r.bytes).fault = some f) :
    (r.write s).2.flushes = s.flushes := by
  rw [write_of_refused h, s.flushes_writeAll]

theorem flushes_of_taken {r : Response} {s : Sink}
    (h : (Sink.deliver s.answers r.bytes).fault = none) :
    (r.write s).2.flushes = s.flushes + 1 := by
  rw [write_of_taken h, Sink.flush, s.flushes_writeAll]

/-- Flushing is not counted as a write. -/
theorem writes_of_write (r : Response) (s : Sink) :
    (r.write s).2.writes =
      s.writes + (Sink.deliver s.answers r.bytes).writes := by
  rw [← s.writes_writeAll]
  cases hfault : (Sink.deliver s.answers r.bytes).fault with
  | some f => rw [write_of_refused hfault]
  | none => rw [write_of_taken hfault, Sink.flush]

/-- The report is the length of the response exactly if all of it was accepted
and the sink was flushed. -/
theorem write_eq_ok_iff (r : Response) (s : Sink) (n : Nat) :
    (r.write s).1 = .ok n ↔
      (r.write s).2.accepted = s.accepted ++ r.bytes ∧
        s.flushFault = none ∧ n = r.bytes.length := by
  have haccepted : (r.write s).2.accepted = s.accepted ++ r.bytes ↔
      (Sink.deliver s.answers r.bytes).fault = none := by
    rw [(r.write_sink s).1, s.accepted_writeAll, List.append_cancel_left_eq,
      Sink.fault_deliver_iff]
  rw [haccepted]
  cases hfault : (Sink.deliver s.answers r.bytes).fault with
  | some f => simp [write_of_refused hfault]
  | none =>
      rw [write_of_taken hfault]
      cases s.flushFault with
      | some f => simp
      | none => simp [eq_comm]

/-- Any other report is the fault of the output channel. -/
theorem exists_fault_of_write_error {r : Response} {s : Sink}
    {e : AdapterError} (h : (r.write s).1 = .error e) :
    ∃ f : Fault, e = .outputWrite f.message := by
  cases hfault : (Sink.deliver s.answers r.bytes).fault with
  | some f =>
      rw [write_of_refused hfault] at h
      exact ⟨f, (Except.error.inj h).symm⟩
  | none =>
      rw [write_of_taken hfault] at h
      cases hflush : s.flushFault with
      | none => simp [hflush] at h
      | some f =>
          rw [hflush] at h
          exact ⟨f, (Except.error.inj h).symm⟩

/-- Interruptions of its writes change neither what is reported of a response
nor what is taken of it. -/
theorem write_calm (r : Response) (s : Sink) :
    (r.write s.calm).1 = (r.write s).1 ∧
    (r.write s.calm).2.accepted = (r.write s).2.accepted ∧
    (r.write s.calm).2.flushes = (r.write s).2.flushes := by
  obtain ⟨htaken, hfault⟩ := s.deliver_calm r.bytes
  have haccepted : (r.write s.calm).2.accepted = (r.write s).2.accepted := by
    rw [(r.write_sink s.calm).1, (r.write_sink s).1, Sink.accepted_writeAll,
      Sink.accepted_writeAll, htaken]
    rfl
  cases hcase : (Sink.deliver s.answers r.bytes).fault with
  | some f =>
      have hcalm := hfault.trans hcase
      exact ⟨by rw [write_of_refused hcalm, write_of_refused hcase], haccepted,
        (flushes_of_refused hcalm).trans (flushes_of_refused hcase).symm⟩
  | none =>
      have hcalm := hfault.trans hcase
      exact ⟨by rw [write_of_taken hcalm, write_of_taken hcase]; rfl, haccepted,
        (flushes_of_taken hcalm).trans (flushes_of_taken hcase).symm⟩

/-- Writing a response takes at most one write more than the sink has answers in
store, and what it reports is what has happened.  A success means that all of
the response was accepted and the sink flushed, and the other way round.  A
fault is either that of the answer by which the sink refused the rest, after
which nothing was written and the sink was not flushed, or that of the one flush
of a response that was accepted whole.  Apart from a refusal the sink takes
something with each answer or has the write repeated, and if the interruptions
are left out, nothing changes. -/
theorem write_reports_what_was_taken (r : Response) (s : Sink) :
    let out := r.write s
    ∃ (taken : List UInt8) (given : List Answer),
      out.2.accepted = s.accepted ++ taken ∧ taken <+: r.bytes ∧
      s.answers = given ++ out.2.answers ∧
      out.2.writes ≤ s.writes + s.answers.length + 1 ∧
      (∀ n, out.1 = .ok n ↔
        taken = r.bytes ∧ s.flushFault = none ∧ n = r.bytes.length) ∧
      (∀ n, out.1 = .ok n → out.2.flushes = s.flushes + 1) ∧
      (∀ e, out.1 = .error e → ∃ f : Fault, e = .outputWrite f.message ∧
        ((taken ≠ r.bytes ∧ out.2.flushes = s.flushes ∧
            out.2.writes = s.writes + given.length ∧
            ∃ (before : List Answer) (a : Answer),
              given = before ++ [a] ∧ a.refusal? = some f) ∨
          (taken = r.bytes ∧ out.2.flushes = s.flushes + 1 ∧
            s.flushFault = some f))) ∧
      (∀ a ∈ given.dropLast, a.Takes) ∧
      (r.write s.calm).1 = out.1 ∧
      (r.write s.calm).2.accepted = out.2.accepted ∧
      (r.write s.calm).2.flushes = out.2.flushes := by
  dsimp only
  obtain ⟨given, hscript, hends, hwrites, hrefused⟩ :=
    Sink.exists_given s.answers r.bytes
  obtain ⟨haccepted, hanswers⟩ := r.write_sink s
  rw [s.accepted_writeAll] at haccepted
  rw [s.answers_writeAll] at hanswers
  refine ⟨(Sink.deliver s.answers r.bytes).taken, given, haccepted,
    hends.taken_prefix, ?_, ?_, ?_, ?_, ?_, hends.takes_dropLast, r.write_calm s⟩
  case refine_1 => exact hscript.trans (congrArg _ hanswers.symm)
  case refine_2 =>
    have hlength := congrArg List.length hscript
    rw [List.length_append] at hlength
    have hcount := r.writes_of_write s
    omega
  case refine_3 =>
    intro n
    have hok := r.write_eq_ok_iff s n
    rw [haccepted, List.append_cancel_left_eq] at hok
    exact hok
  case refine_4 =>
    intro n hok
    have hwhole := ((r.write_eq_ok_iff s n).1 hok).1
    rw [haccepted, List.append_cancel_left_eq, hends.taken_eq_iff] at hwhole
    exact flushes_of_taken hwhole
  case refine_5 =>
    intro e herror
    cases hfault : (Sink.deliver s.answers r.bytes).fault with
    | some f =>
        rw [write_of_refused hfault] at herror
        rw [hfault] at hends
        have hshort := mt hends.taken_eq_iff.1 (Option.some_ne_none f)
        obtain ⟨before, a, hgiven, ha, -⟩ := hends.refused_by
        refine ⟨f, (Except.error.inj herror).symm, Or.inl ⟨hshort,
          flushes_of_refused hfault, ?_, before, a, hgiven, ha⟩⟩
        rw [r.writes_of_write, hrefused (hfault ▸ Option.some_ne_none f)]
    | none =>
        rw [write_of_taken hfault] at herror
        cases hflush : s.flushFault with
        | none => simp [hflush] at herror
        | some f =>
            rw [hflush] at herror
            exact ⟨f, (Except.error.inj herror).symm, Or.inr
              ⟨hends.taken_eq_iff.2 hfault, flushes_of_taken hfault, rfl⟩⟩

end Invocation.Response
