import Invocation.Proofs.Adapter.Run

/-!
# The history of a store

Handlers get and set keys in whatever order they are run: nested in one another,
call after call, and up to the point where they fail or panic.  Their accesses
are told as one history, in which every get is put down with what it gave.  A
history can be replayed: the handlers are taken through it without any store,
and come to what they came to.  So the history of calls is what their handlers
have seen, and that its gets gave the latest value set before them is said of it
without looking at the store again.

What carries the proof is that a store in memory is at any time the store of a
list of entries: those it started with, and after them those that were set.
-/

namespace Invocation

/-! ## Histories -/

/-- What a handler does with a store: it gets a key, and is given its value if
there is one, or it sets a key. -/
inductive Access where
  | got (key : String) (value : Option String)
  | set (key value : String)

/-- The entry that an access puts into the store. -/
def Access.entry? : Access → Option (String × String)
  | .got _ _ => none
  | .set key value => some (key, value)

/-- Accesses in their order. -/
abbrev History := List Access

namespace History

/-- The entries that a history puts into the store. -/
def entries (h : History) : List (String × String) :=
  h.filterMap Access.entry?

/-- The last value that some entries give to a key. -/
def latest? (entries : List (String × String)) (key : String) :
    Option String :=
  (entries.reverse.find? (·.1 = key)).map Prod.snd

theorem latest?_append (earlier later : List (String × String))
    (key : String) :
    latest? (earlier ++ later) key =
      (latest? later key).or (latest? earlier key) := by
  rw [latest?, List.reverse_append, List.find?_append, Option.map_or]
  rfl

theorem latest?_concat (entries : List (String × String))
    (key value other : String) :
    latest? (entries ++ [(key, value)]) other =
      if key = other then some value else latest? entries other := by
  rw [latest?_append]
  by_cases h : key = other <;> simp [latest?, h]

theorem latest?_eq_none {entries : List (String × String)} {key : String}
    (h : key ∉ entries.map Prod.fst) : latest? entries key = none := by
  rw [latest?, Option.map_eq_none_iff, List.find?_eq_none]
  intro entry hentry heq
  rw [List.mem_reverse] at hentry
  exact h (of_decide_eq_true heq ▸ List.mem_map_of_mem hentry)

theorem entries_append (earlier later : History) :
    entries (earlier ++ later) = entries earlier ++ entries later :=
  List.filterMap_append

theorem mem_entries {h : History} {entry : String × String} :
    entry ∈ entries h ↔ Access.set entry.1 entry.2 ∈ h := by
  rw [entries, List.mem_filterMap]
  constructor
  · rintro ⟨access, haccess, hentry⟩
    cases access with
    | got key value => cases hentry
    | set key value =>
        cases hentry
        exact haccess
  · intro haccess
    exact ⟨_, haccess, rfl⟩

end History

/-! ## The store of some entries -/

namespace Store

theorem ofList_concat (entries : List (String × String))
    (key value : String) :
    ofList (entries ++ [(key, value)]) = (ofList entries).set key value := by
  rw [ofList, List.foldl_concat]
  rfl

/-- The store of some entries gives a key the last value they give it. -/
theorem get?_ofList (entries : List (String × String)) (key : String) :
    (ofList entries).get? key = History.latest? entries key := by
  induction entries using List.reverseRecOn with
  | nil => rfl
  | append_singleton entries entry ih =>
      obtain ⟨other, value⟩ := entry
      have hset : (ofList (entries ++ [(other, value)])).get? key =
          if other = key then some value else (ofList entries).get? key := by
        rw [ofList_concat]
        exact get?_set _ other value key
      rw [hset, ih, History.latest?_concat]

/-- Setting a key adds it after the others if it is new. -/
theorem keys_put (key value : String) (entries : List (String × String)) :
    (put key value entries).map Prod.fst =
      if key ∈ entries.map Prod.fst then entries.map Prod.fst
      else entries.map Prod.fst ++ [key] := by
  induction entries with
  | nil => rfl
  | cons entry entries ih =>
      rw [put]
      by_cases hkey : entry.1 = key
      · simp [hkey]
      · have hne : key ≠ entry.1 := Ne.symm hkey
        rw [if_neg hkey, List.map_cons, ih]
        by_cases hmem : key ∈ entries.map Prod.fst <;> simp [hmem, hne]

/-- A store has every key of its entries, each once. -/
theorem keys_foldl_put (entries : List (String × String)) :
    ∃ held, ofList entries = .memory held ∧ (held.map Prod.fst).Nodup ∧
      ∀ key, key ∈ held.map Prod.fst ↔ key ∈ entries.map Prod.fst := by
  induction entries using List.reverseRecOn with
  | nil => exact ⟨[], rfl, List.nodup_nil, fun key => Iff.rfl⟩
  | append_singleton entries entry ih =>
      obtain ⟨held, hstore, hnodup, hkeys⟩ := ih
      obtain ⟨other, value⟩ := entry
      refine ⟨put other value held, ?_, ?_, fun key => ?_⟩
      · rw [ofList_concat, hstore]
        rfl
      · rw [keys_put]
        split
        case isTrue => exact hnodup
        case isFalse hnew =>
          exact List.Nodup.append hnodup (List.nodup_singleton other)
            (by simpa using hnew)
      · rw [keys_put, List.map_append, List.mem_append, ← hkeys]
        split
        case isTrue hmem =>
          refine ⟨Or.inl, fun h => h.elim id fun hlast => ?_⟩
          rw [List.mem_singleton.1 hlast]
          exact hmem
        case isFalse => rw [List.mem_append]; rfl

/-- The store of some entries is as large as there are different keys. -/
theorem size_ofList (entries : List (String × String)) :
    (ofList entries).size = (entries.map Prod.fst).dedup.length := by
  obtain ⟨held, hstore, hnodup, hkeys⟩ := keys_foldl_put entries
  have hperm : (held.map Prod.fst).Perm (entries.map Prod.fst).dedup :=
    (List.perm_ext_iff_of_nodup hnodup (List.nodup_dedup _)).2 fun key => by
      rw [hkeys, List.mem_dedup]
  rw [hstore, size, ← hperm.length_eq, List.length_map]

end Store

/-- A store answers the gets of a history as they come, and is another store
after it. -/
inductive Serves : Store → History → Store → Prop
  | done (s : Store) : Serves s [] s
  | got {s s' : Store} {h : History} (key : String) (hrest : Serves s h s') :
      Serves s (.got key (s.get? key) :: h) s'
  | set {s s' : Store} {h : History} (key value : String)
      (hrest : Serves (s.set key value) h s') :
      Serves s (.set key value :: h) s'

namespace Serves

variable {s s' s'' : Store} {h h' : History}

theorem append (hfirst : Serves s h s') (hthen : Serves s' h' s'') :
    Serves s (h ++ h') s'' := by
  induction hfirst with
  | done s => exact hthen
  | got key hrest ih => exact .got key (ih hthen)
  | set key value hrest ih => exact .set key value (ih hthen)

/-- The store of some entries becomes that of all entries put into it. -/
theorem eq_ofList {initial : List (String × String)}
    (hserves : Serves (.ofList initial) h s) :
    s = .ofList (initial ++ h.entries) := by
  generalize hstart : Store.ofList initial = start at hserves
  induction hserves generalizing initial with
  | done s => simp [← hstart, History.entries]
  | got key hrest ih => exact ih hstart
  | set key value hrest ih =>
      have hset : Store.ofList (initial ++ [(key, value)]) = _ :=
        Store.ofList_concat initial key value
      rw [hstart] at hset
      have hlast := ih hset
      rw [List.append_assoc] at hlast
      exact hlast

/-- Up to any point of a history the store has answered what comes before it. -/
theorem split {earlier later : History} (hserves : Serves s (earlier ++ later) s'') :
    ∃ s', Serves s earlier s' ∧ Serves s' later s'' := by
  induction earlier generalizing s with
  | nil => exact ⟨s, .done s, hserves⟩
  | cons access earlier ih =>
      cases hserves with
      | got key hrest =>
          obtain ⟨s', hearlier, hlater⟩ := ih hrest
          exact ⟨s', .got key hearlier, hlater⟩
      | set key value hrest =>
          obtain ⟨s', hearlier, hlater⟩ := ih hrest
          exact ⟨s', .set key value hearlier, hlater⟩

/-- A get gives the latest value of its key set before it, else the last one
that the store started with. -/
theorem got_eq_latest {initial : List (String × String)}
    {earlier later : History} {key : String} {value : Option String}
    (hserves : Serves (.ofList initial) (earlier ++ .got key value :: later) s) :
    value =
      (History.latest? earlier.entries key).or (History.latest? initial key) := by
  obtain ⟨s', hearlier, hlater⟩ := hserves.split
  cases hlater with
  | got key hrest =>
      rw [hearlier.eq_ofList, Store.get?_ofList, History.latest?_append]

end Serves

/-! ## Replaying a handler -/

/-- What an action comes to when it is taken through a history, every get being
given what the history says, and what of the history comes after it.  An action
that makes other accesses than the history cannot be replayed. -/
def Action.replay (context : Context) :
    Action → History → Option (Ending × History)
  | .reply r, h => some (.reply r, h)
  | .fail e, h => some (.fail e, h)
  | .panic p, h => some (.panic p, h)
  | .get key next, h =>
    match h with
    | .got other value :: h =>
      if key = other then replay context (next value) h else none
    | _ => none
  | .set key value next, h =>
    match h with
    | .set other written :: h =>
      if key = other ∧ value = written then replay context next h else none
    | _ => none
  | .log _ _ next, h => replay context next h
  | .query sql next, h => replay context (next (context.database.query sql)) h
  | .functionName next, h => replay context (next context.functionName) h
  | .respond config handler input next, h =>
    (replay context (handler (.normalize config input)) h).bind fun inner =>
      match conclude config inner.1 with
      | .ok r => replay context (next r) inner.2
      | .error p => some (.panic p, inner.2)

/-- The accesses that an action makes, in the order of execution. -/
def Action.accesses (context : Context) : Action → Store → History
  | .reply _, _ => []
  | .fail _, _ => []
  | .panic _, _ => []
  | .get key next, s =>
    .got key (s.get? key) :: accesses context (next (s.get? key)) s
  | .set key value next, s =>
    .set key value :: accesses context next (s.set key value)
  | .log _ _ next, s => accesses context next s
  | .query sql next, s => accesses context (next (context.database.query sql)) s
  | .functionName next, s => accesses context (next context.functionName) s
  | .respond config handler input next, s =>
    let inner := answer context (handler (.normalize config input)) s
    accesses context (handler (.normalize config input)) s ++
      match conclude config inner.1 with
      | .ok r => accesses context (next r) inner.2
      | .error _ => []

/-- The history is that of an action run with a store: the store answers it, and
replaying it gives how the action ends. -/
def Tells (context : Context) (a : Action) (s : Store) (h : History) : Prop :=
  Serves s h (a.answer context s).2 ∧
    ∀ rest, a.replay context (h ++ rest) = some ((a.answer context s).1, rest)

/-- The accesses of an action are its history, whatever it does and however it
ends. -/
theorem tells_accesses (context : Context) (a : Action) (s : Store) :
    Tells context a s (a.accesses context s) := by
  induction a generalizing s with
  | reply r => exact ⟨.done s, fun rest => rfl⟩
  | fail e => exact ⟨.done s, fun rest => rfl⟩
  | panic p => exact ⟨.done s, fun rest => rfl⟩
  | get key next ih =>
      obtain ⟨hserves, hreplay⟩ := ih (s.get? key) s
      refine ⟨.got key hserves, fun rest => ?_⟩
      rw [Action.accesses, List.cons_append, Action.replay, if_pos rfl]
      exact hreplay rest
  | set key value next ih =>
      obtain ⟨hserves, hreplay⟩ := ih (s.set key value)
      refine ⟨.set key value hserves, fun rest => ?_⟩
      rw [Action.accesses, List.cons_append, Action.replay, if_pos ⟨rfl, rfl⟩]
      exact hreplay rest
  | log level message next ih => exact ih s
  | query sql next ih => exact ih (context.database.query sql) s
  | functionName next ih => exact ih context.functionName s
  | respond config handler input next ih_handler ih_next =>
      obtain ⟨hserves, hreplay⟩ := ih_handler (.normalize config input) s
      cases hresult : conclude config
          ((handler (.normalize config input)).answer context s).1 with
      | error p =>
          -- The panic leaves the nested invocation, but not what it has set.
          refine ⟨?_, fun rest => ?_⟩
          · simp only [Action.accesses, Action.answer, hresult, List.append_nil]
            exact hserves
          · simp only [Action.replay, Action.answer, Action.accesses,
              List.append_nil, hreplay, Option.bind_some, hresult]
      | ok r =>
          obtain ⟨hserves', hreplay'⟩ := ih_next r
            ((handler (.normalize config input)).answer context s).2
          refine ⟨?_, fun rest => ?_⟩
          · simp only [Action.accesses, Action.answer, hresult]
            exact hserves.append hserves'
          · simp only [Action.replay, Action.answer, Action.accesses,
              List.append_assoc, hreplay, Option.bind_some, hresult, hreplay']

/-- Every action has its history. -/
theorem exists_tells (context : Context) (a : Action) (s : Store) :
    ∃ h, Tells context a s h :=
  ⟨a.accesses context s, tells_accesses context a s⟩

/-! ## Calls that share a context -/

/-- A call of an adapter.  Of the world it finds only the store is shared with
other calls. -/
structure Call where
  config : Config
  handler : Handler
  source : Channel.Source
  sink : Channel.Sink := {}
  watch : Watch := .nobody
  world : World := {}

namespace Call

/-- Makes a call with a context and the store as it is. -/
def run (context : Context) (call : Call) (s : Store) : Run :=
  Invocation.run { context, watch := call.watch } call.config call.handler
    call.source call.sink { call.world with store := s }

/-- The runs of calls that are made one after the other. -/
def runs (context : Context) : Store → List Call → List Run
  | _, [] => []
  | s, call :: calls =>
    call.run context s :: runs context (call.run context s).world.store calls

/-- The store that calls leave. -/
def storeAfter (context : Context) (s : Store) (calls : List Call) : Store :=
  calls.foldl (fun s call => (call.run context s).world.store) s

/-- What the handler of a call does about its request. -/
def action (call : Call) : Action :=
  call.handler (.normalize call.config (inputOf call.config call.source))

/-- What calls come to when their handlers are taken through a history one after
the other, and what of the history comes after them. -/
def replayAll (context : Context) : List Call → History →
    Option (List (Except Payload Response) × History)
  | [], h => some ([], h)
  | call :: calls, h =>
    (call.action.replay context h).bind fun out =>
      (replayAll context calls out.2).map fun outs =>
        (conclude call.config out.1 :: outs.1, outs.2)

theorem exists_history (context : Context) (s : Store) (calls : List Call) :
    ∃ h, Serves s h (storeAfter context s calls) ∧
      ∀ rest, replayAll context calls (h ++ rest) =
        some ((runs context s calls).map Run.result, rest) := by
  induction calls generalizing s with
  | nil => exact ⟨[], .done s, fun rest => rfl⟩
  | cons call calls ih =>
      obtain ⟨h, hserves, hreplay⟩ := exists_tells context call.action s
      have hstore : (call.run context s).world.store =
          (call.action.answer context s).2 :=
        store_run _ call.config call.handler call.source call.sink _
      have hresult : (call.run context s).result =
          conclude call.config (call.action.answer context s).1 :=
        result_run _ call.config call.handler call.source call.sink _
      obtain ⟨h', hserves', hreplay'⟩ := ih (call.run context s).world.store
      rw [← hstore] at hserves
      refine ⟨h ++ h', hserves.append hserves', fun rest => ?_⟩
      rw [List.append_assoc, replayAll, hreplay, Option.bind_some, hreplay',
        runs, List.map_cons, hresult]
      rfl

/-- Calls that share a context have one history, in which their handlers come to
what they come to in the runs.  In it every get gives the value of the latest
set of its key, in whichever handler that was and however the handler ended;
else the last value of the key that the store started with; else none.  Setting
a key changes no other, and the store holds as many keys as there ever were. -/
theorem store_is_one_map (context : Context)
    (initial : List (String × String)) (calls : List Call) :
    let outs := runs context (.ofList initial) calls
    let left := storeAfter context (.ofList initial) calls
    ∃ history : History,
      replayAll context calls history = some (outs.map Run.result, []) ∧
      (∀ earlier key value later,
        history = earlier ++ .got key value :: later →
        value = (History.latest? (History.entries earlier) key).or
          (History.latest? initial key)) ∧
      (∀ earlier key value between value' later,
        history = earlier ++ .got key value ::
          (between ++ .got key value' :: later) →
        (∀ written, Access.set key written ∉ between) → value' = value) ∧
      (∀ key, left.get? key = (History.latest? history.entries key).or
        (History.latest? initial key)) ∧
      left.size =
        ((initial ++ history.entries).map Prod.fst).dedup.length := by
  intro outs left
  obtain ⟨history, hserves, hreplay⟩ :=
    exists_history context (.ofList initial) calls
  have hgot : ∀ earlier key value later,
      history = earlier ++ Access.got key value :: later →
      value = (History.latest? (History.entries earlier) key).or
        (History.latest? initial key) := by
    rintro earlier key value later rfl
    exact hserves.got_eq_latest
  have hleft : left = .ofList (initial ++ history.entries) :=
    hserves.eq_ofList
  refine ⟨history, ?_, hgot, ?_, fun key => ?_, ?_⟩
  · simpa using hreplay []
  · intro earlier key value between value' later hhistory hother
    have hfirst := hgot earlier key value _ hhistory
    have hsecond := hgot (earlier ++ .got key value :: between) key value' later
      (by simpa using hhistory)
    have hnone : History.latest? (History.entries between) key = none := by
      refine History.latest?_eq_none fun hmem => ?_
      obtain ⟨entry, hentry, rfl⟩ := List.mem_map.1 hmem
      exact hother entry.2 (History.mem_entries.1 hentry)
    have hentries : History.entries (.got key value :: between) =
        History.entries between := rfl
    rw [hsecond, History.entries_append, hentries, History.latest?_append,
      hnone, Option.none_or, ← hfirst]
  · rw [hleft, Store.get?_ofList, History.latest?_append]
  · rw [hleft, Store.size_ofList]

end Call

end Invocation
