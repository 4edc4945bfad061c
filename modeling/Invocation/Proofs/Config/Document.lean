import Mathlib.Tactic
import Invocation.Config.Document
import Invocation.Proofs.Toml.Documents

/-!
# Configurations written and read back

Every assignment that is written of a configuration, on its own, is read as a
change that gives its setting the value which the configuration has there and
leaves all other settings alone.  A document of several assignments makes these
changes one after the other, and because each setting has a key of its own they
do not get in each other's way: neither the order nor what is left out matters.
The whole document is the selection of all assignments.
-/

namespace Invocation.Config

/-! ## Settings by key -/

/-- One of two values, by whether a key is among some. -/
def pick {α : Type} (keys : List String) (key : String) (v base : α) : α :=
  if key ∈ keys then v else base

theorem pick_cons {α : Type} (k : String) (ks : List String) (key : String)
    (v base : α) :
    pick (k :: ks) key v base = pick ks key v (pick [k] key v base) := by
  unfold pick
  by_cases hrest : key ∈ ks
  · simp [hrest]
  · simp [hrest]

/-- The settings of some keys as `c` has them, and all others as `base` has
them. -/
def overlay (keys : List String) (c base : Config) : Config where
  functionName := pick keys "function_name" c.functionName base.functionName
  chunkSize := pick keys "chunk_size" c.chunkSize base.chunkSize
  defaultMethod := pick keys "default_method" c.defaultMethod base.defaultMethod
  defaultUri := pick keys "default_uri" c.defaultUri base.defaultUri
  defaultContentType :=
    pick keys "default_content_type" c.defaultContentType base.defaultContentType
  catchPanics := pick keys "catch_panics" c.catchPanics base.catchPanics
  runtimeHeader := pick keys "runtime_header" c.runtimeHeader base.runtimeHeader
  logFilter := pick keys "log_filter" c.logFilter base.logFilter
  logFormat := pick keys "log_format" c.logFormat base.logFormat

theorem overlay_cons (k : String) (ks : List String) (c base : Config) :
    overlay (k :: ks) c base = overlay ks c (overlay [k] c base) := by
  unfold overlay
  congr 1
  all_goals exact pick_cons k ks _ _ _

/-- The keys of a configuration's assignments. -/
def keys (c : Config) : List String := c.assignments.map Prod.fst

theorem keys_eq (c : Config) :
    c.keys =
      ["function_name", "chunk_size", "default_method", "default_uri",
        "default_content_type", "catch_panics"] ++
      (c.runtimeHeader.map fun _ => "runtime_header").toList ++
      ["log_filter", "log_format"] := by
  cases hheader : c.runtimeHeader with
  | none => simp [keys, assignments, hheader]
  | some tag => simp [keys, assignments, hheader]

theorem keys_nodup (c : Config) : c.keys.Nodup := by
  rw [keys_eq]
  cases c.runtimeHeader with
  | none => decide
  | some tag => simp

/-- A setting without an assignment is one that has its default. -/
theorem overlay_keys (c : Config) : overlay c.keys c {} = c := by
  rw [keys_eq]
  cases hheader : c.runtimeHeader with
  | none => simp [overlay, pick, ← hheader]
  | some tag => simp [overlay, pick, ← hheader]

/-! ## Assignments -/

/-- The item of a value, by where it stands. -/
def Written.item : Written → Toml.Span → Toml.Item
  | .text s => .string s
  | .word n => .integer n.toNat
  | .truth b => .boolean b

theorem Written.readsAs {w : Written} {value : List Char}
    (h : w.chars? = some value) : Toml.ReadsAs value w.item := by
  cases w with
  | text s =>
      cases h
      exact Toml.readsAs_string s
  | word n =>
      rw [chars?] at h
      split at h
      case isTrue hsmall =>
        cases h
        exact Toml.readsAs_integer (Nat.lt_succ_of_le hsmall)
      case isFalse => cases h
  | truth b =>
      cases b with
      | true =>
          cases h
          exact Toml.readsAs_true
      | false =>
          cases h
          exact Toml.readsAs_false

theorem change_ok {α : Type} {d : Toml.Decoder α} {i : Toml.Item} {v : α}
    (h : d i = .ok v) (put : α → Config → Config) :
    change d put i = .ok (put v) := by
  rw [change, h]
  rfl

theorem variant_name (f : LogFormat) (span : Toml.Span) :
    Toml.Decoder.variant LogFormat.known (.string f.name span) = .ok f := by
  cases f with
  | text => rfl
  | json => rfl

theorem integer_chunkSize (n : UInt64) (span : Toml.Span) :
    Toml.Decoder.integer "usize"
      (Json.Decoder.unsigned? UInt64.size UInt64.ofNat)
      (.integer n.toNat span) = .ok n := by
  have hconvert : Json.Decoder.unsigned? UInt64.size UInt64.ofNat n.toNat =
      some n := by
    have hrange : (0 : Int) ≤ n.toNat ∧ (n.toNat : Int) < UInt64.size :=
      ⟨Int.natCast_nonneg _, Int.ofNat_lt.2 n.toNat_lt⟩
    rw [Json.Decoder.unsigned?, if_pos hrange, Int.toNat_natCast,
      UInt64.ofNat_toNat]
  rw [Toml.Decoder.integer, hconvert]

theorem mem_assignments_runtimeHeader {c : Config} {key : String} {w : Written}
    (h : (key, w) ∈ (c.runtimeHeader.map fun v =>
      ("runtime_header", Written.text v)).toList) :
    ∃ tag, c.runtimeHeader = some tag ∧ key = "runtime_header" ∧
      w = .text tag := by
  cases hheader : c.runtimeHeader with
  | none => simp [hheader] at h
  | some tag =>
      simp only [hheader, Option.map_some, Option.toList_some,
        List.mem_singleton] at h
      exact ⟨tag, rfl, congrArg Prod.fst h, congrArg Prod.snd h⟩

/-- The item of an assignment is read as the change of its setting and of no
other. -/
theorem takes_assignment {c : Config} {key : String} {w : Written}
    (h : (key, w) ∈ c.assignments) :
    ∃ read, settings.find? (·.1 == key) = some (key, read) ∧
      ∀ span, read (w.item span) = .ok (c.overlay [key]) := by
  simp only [assignments, List.mem_append, List.mem_cons, List.not_mem_nil,
    or_false] at h
  rcases h with ((h | h | h | h | h | h) | h) | h | h
  · cases h
    exact ⟨_, rfl, fun span => rfl⟩
  · cases h
    exact ⟨_, rfl, fun span => change_ok (integer_chunkSize _ span) _⟩
  · cases h
    exact ⟨_, rfl, fun span => rfl⟩
  · cases h
    exact ⟨_, rfl, fun span => rfl⟩
  · cases h
    exact ⟨_, rfl, fun span => rfl⟩
  · cases h
    exact ⟨_, rfl, fun span => rfl⟩
  · obtain ⟨tag, hheader, rfl, rfl⟩ := mem_assignments_runtimeHeader h
    refine ⟨_, rfl, fun span => ?_⟩
    have hsame : overlay ["runtime_header"] c =
        fun base => { base with runtimeHeader := some tag } := by
      funext base
      simp [overlay, pick, hheader]
    rw [hsame]
    rfl
  · cases h
    exact ⟨_, rfl, fun span => rfl⟩
  · cases h
    exact ⟨_, rfl, fun span => change_ok (variant_name _ span) _⟩

theorem bare_assignment {c : Config} {key : String} {w : Written}
    (h : (key, w) ∈ c.assignments) :
    key.toList ≠ [] ∧ ∀ x ∈ key.toList, Toml.isBare x = true := by
  have hall : ∀ name ∈ settings.map Prod.fst,
      name.toList ≠ [] ∧ ∀ x ∈ name.toList, Toml.isBare x = true := by
    simp [settings, Toml.isBare]
  obtain ⟨read, hfind, -⟩ := takes_assignment h
  exact hall key (List.mem_map_of_mem (List.mem_of_find?_eq_some hfind))

/-- Every value can be written unless the buffer is too large. -/
theorem chars?_assignment {c : Config} (hsmall : c.chunkSize.toNat ≤ maxInteger)
    {key : String} {w : Written} (h : (key, w) ∈ c.assignments) :
    ∃ value, w.chars? = some value := by
  cases w with
  | text s => exact ⟨_, rfl⟩
  | word n =>
      obtain ⟨-, rfl⟩ : key = "chunk_size" ∧ n = c.chunkSize := by
        simpa [assignments] using h
      exact ⟨_, if_pos hsmall⟩
  | truth b =>
      cases b with
      | true => exact ⟨_, rfl⟩
      | false => exact ⟨_, rfl⟩

/-! ## Documents -/

/-- Assignments of a configuration to different keys can be written as lines,
and what is read of the lines are the settings of these keys. -/
theorem lines_of_assignments {c : Config}
    (hsmall : c.chunkSize.toNat ≤ maxInteger)
    {selection : List (String × Written)}
    (hmem : ∀ a ∈ selection, a ∈ c.assignments) :
    ∃ ls : List Toml.Line,
      assignmentsText selection = some (Toml.textOf ls) ∧
      (ls.map fun l => String.ofList l.key) = selection.map Prod.fst ∧
      ∀ base, takeEntries (Toml.entriesOf ls) base =
        .ok (c.overlay (selection.map Prod.fst) base) := by
  induction selection with
  | nil => exact ⟨[], rfl, rfl, fun base => rfl⟩
  | cons a selection ih =>
      obtain ⟨key, w⟩ := a
      have ha : (key, w) ∈ c.assignments := hmem _ List.mem_cons_self
      obtain ⟨ls, htext, hkeys, htake⟩ :=
        ih fun b hb => hmem b (List.mem_cons_of_mem _ hb)
      obtain ⟨value, hvalue⟩ := chars?_assignment hsmall ha
      obtain ⟨hne, hbare⟩ := bare_assignment ha
      obtain ⟨read, hfind, hread⟩ := takes_assignment ha
      let l : Toml.Line :=
        ⟨key.toList, value, w.item, hne, hbare, Written.readsAs hvalue⟩
      refine ⟨l :: ls, ?_, ?_, fun base => ?_⟩
      · rw [assignmentsText, hvalue, htext]
        rfl
      · rw [List.map_cons, List.map_cons, hkeys, String.ofList_toList]
      · have hname : (l.madeKey (Toml.textOf ls)).name = key :=
          String.ofList_toList
        rw [Toml.entriesOf, takeEntries, hname, hfind]
        simp only [Toml.Line.madeItem, l, hread]
        rw [htake, ← overlay_cons]
        rfl

/-- The document of any assignments of a configuration is read as these settings,
with the defaults elsewhere. -/
theorem ofToml_selection {c : Config} (hsmall : c.chunkSize.toNat ≤ maxInteger)
    {selection : List (String × Written)}
    (hselection : selection.Subperm c.assignments) :
    ∃ lines, assignmentsText selection = some lines ∧
      ofToml (String.ofList lines) =
        .ok (c.overlay (selection.map Prod.fst) {}) := by
  obtain ⟨ls, htext, hkeys, htake⟩ :=
    lines_of_assignments hsmall fun a ha => hselection.subset ha
  have hnodup : (ls.map fun l => String.ofList l.key).Nodup := by
    obtain ⟨part, hperm, hsub⟩ := hselection
    rw [hkeys, ← (hperm.map Prod.fst).nodup_iff]
    exact (hsub.map Prod.fst).nodup c.keys_nodup
  refine ⟨_, htext, ?_⟩
  rw [ofToml, String.toList_ofList, Toml.read?_textOf hnodup]
  simp only [htake]

theorem chars?_chunkSize {c : Config} (hlarge : maxInteger < c.chunkSize.toNat) :
    (Written.word c.chunkSize).chars? = none :=
  if_neg (Nat.not_le_of_lt hlarge)

theorem assignmentsText_large {c : Config}
    (hlarge : maxInteger < c.chunkSize.toNat) :
    assignmentsText c.assignments = none := by
  have hchunk := chars?_chunkSize hlarge
  simp [assignments, assignmentsText, hchunk]

/-- A configuration whose buffer size an integer of a document can hold is
written, what is written is read back as it, and from any of its assignments, in
any order, the settings that they are of are read back, all others having their
defaults.  No other configuration can be written. -/
theorem toml_round_trip (c : Config) :
    (c.chunkSize.toNat ≤ maxInteger →
      ∃ text, assignmentsText c.assignments = some text ∧
        c.toToml = .ok (String.ofList text) ∧
        ofToml (String.ofList text) = .ok c ∧
        (ofToml (String.ofList text)).map toToml =
          .ok (.ok (String.ofList text)) ∧
        ∀ selection, selection.Subperm c.assignments →
          ∃ lines, assignmentsText selection = some lines ∧
            ofToml (String.ofList lines) =
              .ok (c.overlay (selection.map Prod.fst) {})) ∧
      (maxInteger < c.chunkSize.toNat →
        ∃ detail, c.toToml = .error (.config detail)) := by
  constructor
  · intro hsmall
    obtain ⟨text, htext, hread⟩ :=
      ofToml_selection hsmall (List.Subperm.refl c.assignments)
    have hwhole : c.overlay (c.assignments.map Prod.fst) {} = c := overlay_keys c
    have hwrite : c.toToml = .ok (String.ofList text) := by
      rw [toToml, htext]
    rw [hwhole] at hread
    refine ⟨text, htext, hwrite, hread, ?_, fun selection hselection =>
      ofToml_selection hsmall hselection⟩
    rw [hread, Except.map, hwrite]
  · intro hlarge
    exact ⟨_, by rw [toToml, assignmentsText_large hlarge]⟩

/-- A configuration with texts in all four forms and the largest buffer that can
be written. -/
def awkward : Config where
  functionName := "\n'''\"\"\"\\"
  chunkSize := 0x7FFFFFFFFFFFFFFF
  defaultUri := "'\"\r\x00"
  defaultContentType := "\\\n'"
  runtimeHeader := some ""

theorem toml_round_trip_awkward :
    (∃ text, assignmentsText awkward.assignments = some text ∧
      ofToml (String.ofList text) = .ok awkward) ∧
    (∃ lines,
      assignmentsText [("runtime_header", .text ""),
        ("function_name", .text awkward.functionName)] = some lines ∧
      ofToml (String.ofList lines) =
        .ok { functionName := awkward.functionName, runtimeHeader := some "" }) ∧
    ∃ detail, toToml { awkward with chunkSize := 0x8000000000000000 } =
      .error (.config detail) := by
  obtain ⟨text, htext, -, hread, -, hselection⟩ :=
    (toml_round_trip awkward).1 (by decide)
  refine ⟨⟨text, htext, hread⟩, hselection _ ?_,
    (toml_round_trip { awkward with chunkSize := 0x8000000000000000 }).2
      (by decide)⟩
  refine ⟨_, List.Perm.swap _ _ _, ?_⟩
  simp [assignments, awkward]

end Invocation.Config
