import Invocation.Proofs.Json.Decoders
import Invocation.Proofs.Response.Finish
import Invocation.Proofs.Response.Wire

/-!
# Headers that were edited

However the headers of a response come about, it is by edits: a header is set in
any case, or only where its name is missing.  The edits alone say what the
headers are.  Every name that was set has one entry, the entries stand in the
order in which their names were first set, and an entry is the header that was
inserted last under its name, or the first that was set where none was inserted.
One more edit changes the headers in the same way as it changes what the edits
say, and from this it follows for any number of them.
-/

namespace Invocation

namespace Header

/-- Two characters are one letter when the case of ASCII letters is ignored.
Other characters are only themselves. -/
def SameLetter (a b : Char) : Prop :=
  a = b ∨ ('A' ≤ a ∧ a ≤ 'Z' ∧ b.toNat = a.toNat + 32) ∨
    ('A' ≤ b ∧ b ≤ 'Z' ∧ a.toNat = b.toNat + 32)

theorem toNat_toLower (c : Char) :
    c.toLower.toNat =
      if 'A' ≤ c ∧ c ≤ 'Z' then c.toNat + 32 else c.toNat := by
  have hupper : ('A' ≤ c ∧ c ≤ 'Z') ↔ c.val ≥ 'A'.val ∧ c.val ≤ 'Z'.val :=
    Iff.rfl
  delta Char.toLower
  split
  case isTrue h =>
    have hbound : c.val.toNat ≤ 90 := h.2
    have hstep : ('a'.val - 'A'.val).toNat = 32 := by decide
    rw [if_pos (hupper.2 h)]
    change (c.val + ('a'.val - 'A'.val)).toNat = c.val.toNat + 32
    rw [UInt32.toNat_add, hstep, Nat.mod_eq_of_lt (by omega)]
  case isFalse h => rw [if_neg (fun hc => h (hupper.1 hc))]

theorem toLower_eq_iff (a b : Char) :
    a.toLower = b.toLower ↔ SameLetter a b := by
  have hle : ∀ c d : Char, c ≤ d ↔ c.toNat ≤ d.toNat := fun _ _ => Iff.rfl
  have hA : 'A'.toNat = 65 := rfl
  have hZ : 'Z'.toNat = 90 := rfl
  rw [← Char.toNat_inj, toNat_toLower, toNat_toLower, SameLetter,
    ← Char.toNat_inj (c := a)]
  simp only [hle, hA, hZ]
  split <;> split <;> omega

/-- Spellings of one name have the same letters in the same places. -/
theorem sameName_iff (a b : String) :
    SameName a b ↔ List.Forall₂ SameLetter a.toList b.toList := by
  unfold SameName key
  rw [← String.toList_inj, String.toList_map, String.toList_map,
    ← List.forall₂_eq_eq_eq, List.forall₂_map_left_iff,
    List.forall₂_map_right_iff]
  simp only [toLower_eq_iff]

end Header

/-! ## Edits -/

/-- What is done to the headers of a response. -/
inductive HeaderEdit where
  /-- A header is set, in place of the one of its name if there is one. -/
  | insert (name value : String)
  /-- A header is set if there is none of its name. -/
  | insertIfAbsent (name value : String)

namespace HeaderEdit

/-- The header that is to be set. -/
def header : HeaderEdit → Header
  | .insert name value => ⟨name, value⟩
  | .insertIfAbsent name value => ⟨name, value⟩

/-- The header is set in any case. -/
def replaces : HeaderEdit → Bool
  | .insert _ _ => true
  | .insertIfAbsent _ _ => false

/-- The names that are set, each once, in the order in which they are first
set.  Of a name that is spelled in several ways only the key is told. -/
def keys (edits : List HeaderEdit) : List String :=
  (edits.map fun edit => Header.key edit.header.name).eraseDups

/-- The header that was inserted last under a name. -/
def latestInserted? (edits : List HeaderEdit) (name : String) :
    Option Header :=
  ((edits.filter replaces).map header).reverse.find? (·.hasName name)

/-- The header that was set first under a name. -/
def firstSet? (edits : List HeaderEdit) (name : String) : Option Header :=
  (edits.map header).find? (·.hasName name)

/-- The header that stands under a name after some edits: the latest that was
inserted, or the first that was set when none was inserted. -/
def standing? (edits : List HeaderEdit) (name : String) : Option Header :=
  (latestInserted? edits name).or (firstSet? edits name)

/-- The headers of a document's fields are inserted; fields without a text are
dropped. -/
def ofFields (fields : Json.Fields) : List HeaderEdit :=
  fields.filterMap fun field =>
    (Header.joinedText field.2).map (.insert field.1)

theorem keys_concat (edits : List HeaderEdit) (edit : HeaderEdit) :
    keys (edits ++ [edit]) =
      if Header.key edit.header.name ∈ keys edits then keys edits
      else keys edits ++ [Header.key edit.header.name] := by
  have hmem := List.mem_eraseDups (a := Header.key edit.header.name)
    (l := edits.map fun edit => Header.key edit.header.name)
  rw [keys, keys, List.map_append, List.eraseDups_append, List.removeAll,
    List.map_singleton, List.filter_singleton]
  by_cases hold : Header.key edit.header.name ∈
      edits.map fun edit => Header.key edit.header.name
  · rw [if_pos (hmem.2 hold), List.elem_eq_true_of_mem hold]
    exact List.append_nil _
  · rw [if_neg (fun h => hold (hmem.1 h)), List.elem_eq_mem,
      decide_eq_false hold]
    rfl

theorem firstSet?_concat (edits : List HeaderEdit) (edit : HeaderEdit)
    (name : String) :
    firstSet? (edits ++ [edit]) name =
      (firstSet? edits name).or
        (if Header.SameName edit.header.name name then some edit.header
          else none) := by
  rw [firstSet?, List.map_append, List.find?_append]
  by_cases hsame : Header.SameName edit.header.name name <;>
    simp [firstSet?, Header.hasName, hsame]

/-- What was inserted stands under its name, and nothing else changes. -/
theorem standing?_insert (edits : List HeaderEdit)
    (name value other : String) :
    standing? (edits ++ [.insert name value]) other =
      if Header.SameName name other then some ⟨name, value⟩
      else standing? edits other := by
  have hlatest : latestInserted? (edits ++ [.insert name value]) other =
      if Header.SameName name other then some ⟨name, value⟩
      else latestInserted? edits other := by
    rw [latestInserted?, List.filter_append, List.map_append,
      List.reverse_append, List.find?_append]
    by_cases hsame : Header.SameName name other
    · simp [List.filter_cons, replaces, header, Header.hasName, hsame]
    · simp [List.filter_cons, replaces, header, Header.hasName, hsame,
        latestInserted?]
  rw [standing?, hlatest, firstSet?_concat, header]
  split
  case isTrue => rfl
  case isFalse => rw [Option.or_none, standing?]

/-- What is set only if it is missing stands under its name if nothing stood
there. -/
theorem standing?_insertIfAbsent (edits : List HeaderEdit)
    (name value other : String) :
    standing? (edits ++ [.insertIfAbsent name value]) other =
      (standing? edits other).or
        (if Header.SameName name other then some ⟨name, value⟩
          else none) := by
  have hlatest :
      latestInserted? (edits ++ [.insertIfAbsent name value]) other =
        latestInserted? edits other := by
    simp [latestInserted?, replaces]
  rw [standing?, hlatest, firstSet?_concat, ← Option.or_assoc]
  rfl

end HeaderEdit

namespace ResponseHeaders

/-! ## Looking up -/

theorem contains_iff_exists (h : ResponseHeaders) (name : String) :
    h.contains name = true ↔
      ∃ e ∈ h.entries, Header.SameName e.name name := by
  rw [contains, get?, Option.isSome_map, List.find?_isSome]
  simp only [Header.hasName, decide_eq_true_eq]

theorem contains_iff_key (h : ResponseHeaders) (name : String) :
    h.contains name = true ↔
      Header.key name ∈ h.entries.map fun e => Header.key e.name := by
  rw [contains_iff_exists, List.mem_map]
  rfl

/-- An entry is the one that is found under its name, however spelled. -/
theorem find?_of_mem (h : ResponseHeaders) {e : Header} {name : String}
    (he : e ∈ h.entries) (hsame : Header.SameName e.name name) :
    h.entries.find? (·.hasName name) = some e := by
  obtain ⟨entries, unique⟩ := h
  induction entries with
  | nil => cases he
  | cons first entries ih =>
      obtain ⟨hfirst, hrest⟩ := List.pairwise_cons.1 unique
      rcases List.mem_cons.1 he with rfl | he
      · exact List.find?_cons_of_pos (by simpa [Header.hasName] using hsame)
      · -- The first entry has another name than one that comes after it.
        have hother : ¬ Header.SameName first.name name :=
          fun h => hfirst e he (h.trans hsame.symm)
        rw [List.find?_cons_of_neg (by simpa [Header.hasName] using hother)]
        exact ih hrest he

theorem get?_eq_some_iff (h : ResponseHeaders) (name value : String) :
    h.get? name = some value ↔
      ∃ e ∈ h.entries, Header.SameName e.name name ∧ e.value = value := by
  rw [get?, Option.map_eq_some_iff]
  constructor
  · rintro ⟨e, hfind, hvalue⟩
    have hname := List.find?_some hfind
    exact ⟨e, List.mem_of_find?_eq_some hfind,
      by simpa [Header.hasName] using hname, hvalue⟩
  · rintro ⟨e, he, hsame, hvalue⟩
    exact ⟨e, h.find?_of_mem he hsame, hvalue⟩

theorem contains_iff_unique (h : ResponseHeaders) (name : String) :
    h.contains name = true ↔
      ∃! e, e ∈ h.entries ∧ Header.SameName e.name name := by
  rw [contains_iff_exists]
  constructor
  · rintro ⟨e, he, hsame⟩
    refine ⟨e, ⟨he, hsame⟩, fun other ⟨hmem, hother⟩ => ?_⟩
    have hfind := h.find?_of_mem hmem hother
    rw [h.find?_of_mem he hsame] at hfind
    exact (Option.some.inj hfind).symm
  · rintro ⟨e, he, -⟩
    exact ⟨e, he⟩

/-! ## Edit after edit -/

/-- The headers after one more setting. -/
def apply (h : ResponseHeaders) : HeaderEdit → ResponseHeaders
  | .insert name value => h.insert name value
  | .insertIfAbsent name value => h.insertIfAbsent name value

/-- The headers are what edits say: they stand in the order in which their
names were first set, and each is the one that stands under its name. -/
structure EditedBy (edits : List HeaderEdit) (h : ResponseHeaders) : Prop where
  keys : (h.entries.map fun e => Header.key e.name) = HeaderEdit.keys edits
  standing : ∀ name,
    h.entries.find? (·.hasName name) = HeaderEdit.standing? edits name

theorem editedBy_empty : EditedBy [] empty := ⟨rfl, fun _ => rfl⟩

/-- Setting a header adds its name after the others if it is new. -/
theorem keys_put (header : Header) (entries : List Header) :
    ((put header entries).map fun e => Header.key e.name) =
      if Header.key header.name ∈ entries.map fun e => Header.key e.name then
        entries.map fun e => Header.key e.name
      else (entries.map fun e => Header.key e.name) ++
        [Header.key header.name] := by
  induction entries with
  | nil => rfl
  | cons e entries ih =>
      rw [put]
      by_cases hsame : Header.key e.name = Header.key header.name
      · have hname : e.hasName header.name = true := decide_eq_true hsame
        simp [hname, hsame]
      · have hname : e.hasName header.name = false := decide_eq_false hsame
        have hne : Header.key header.name ≠ Header.key e.name := Ne.symm hsame
        have hmem : Header.key header.name ∈
            (e :: entries).map (fun e => Header.key e.name) ↔
              Header.key header.name ∈
                entries.map fun e => Header.key e.name := by
          rw [List.map_cons, List.mem_cons, or_iff_right hne]
        rw [hname, if_neg Bool.false_ne_true, List.map_cons, ih]
        split
        case isTrue hold =>
          rw [if_pos (hmem.2 hold)]
          rfl
        case isFalse hnew =>
          rw [if_neg (fun h => hnew (hmem.1 h))]
          rfl

variable {edits : List HeaderEdit} {h : ResponseHeaders}

theorem EditedBy.insert (hedited : EditedBy edits h) (name value : String) :
    EditedBy (edits ++ [.insert name value]) (h.insert name value) := by
  constructor
  · rw [HeaderEdit.keys_concat, ← hedited.keys]
    exact keys_put ⟨name, value⟩ h.entries
  · intro other
    rw [HeaderEdit.standing?_insert, ← hedited.standing]
    exact find?_put ⟨name, value⟩ other h.entries

theorem EditedBy.insertIfAbsent (hedited : EditedBy edits h)
    (name value : String) :
    EditedBy (edits ++ [.insertIfAbsent name value])
      (h.insertIfAbsent name value) := by
  have hthere := h.contains_iff_key name
  unfold ResponseHeaders.insertIfAbsent
  split
  case isTrue hcontains =>
    have hkey := hthere.1 hcontains
    constructor
    · rw [HeaderEdit.keys_concat, ← hedited.keys]
      exact (if_pos hkey).symm
    · intro other
      rw [HeaderEdit.standing?_insertIfAbsent, ← hedited.standing]
      by_cases hsame : Header.SameName name other
      · -- What is to be set has a name that is there already.
        obtain ⟨e, he, hname⟩ := (h.contains_iff_exists name).1 hcontains
        rw [h.find?_of_mem he (hname.trans hsame)]
        rfl
      · rw [if_neg hsame, Option.or_none]
  case isFalse hcontains =>
    have hkey := fun hmem => hcontains (hthere.2 hmem)
    constructor
    · rw [HeaderEdit.keys_concat, ← hedited.keys]
      exact keys_put ⟨name, value⟩ h.entries
    · intro other
      rw [HeaderEdit.standing?_insertIfAbsent, ← hedited.standing]
      refine (find?_put ⟨name, value⟩ other h.entries).trans ?_
      by_cases hsame : Header.SameName name other
      · have hnone : h.entries.find? (·.hasName other) = none := by
          rw [List.find?_eq_none]
          intro e he hname
          have hname : Header.SameName e.name other := by
            simpa [Header.hasName] using hname
          exact hcontains ((h.contains_iff_exists name).2
            ⟨e, he, hname.trans hsame.symm⟩)
        rw [if_pos hsame, if_pos hsame, hnone]
        rfl
      · rw [if_neg hsame, if_neg hsame, Option.or_none]

/-- One more edit changes headers as it changes what the edits say. -/
theorem EditedBy.apply (hedited : EditedBy edits h) (edit : HeaderEdit) :
    EditedBy (edits ++ [edit]) (h.apply edit) := by
  cases edit with
  | insert name value => exact hedited.insert name value
  | insertIfAbsent name value => exact hedited.insertIfAbsent name value

theorem EditedBy.foldl (hedited : EditedBy edits h) (later : List HeaderEdit) :
    EditedBy (edits ++ later) (later.foldl ResponseHeaders.apply h) := by
  induction later generalizing edits h with
  | nil => simpa using hedited
  | cons edit later ih => simpa using ih (hedited.apply edit)

/-- Edits leave no choice of the headers. -/
theorem EditedBy.eq {h' : ResponseHeaders} (hedited : EditedBy edits h)
    (hedited' : EditedBy edits h') : h = h' := by
  have hkeys := hedited.keys.trans hedited'.keys.symm
  have hentries : h.entries = h'.entries := by
    refine List.ext_getElem (by simpa using congrArg List.length hkeys)
      fun i hi hi' => ?_
    have hsame : Header.SameName h.entries[i].name h'.entries[i].name := by
      have hkey := List.getElem_of_eq hkeys (i := i) (by simpa using hi)
      simpa [Header.SameName] using hkey
    -- The two entries are what stands under the one name that they have.
    have hfind := h.find?_of_mem (List.getElem_mem hi) hsame
    have hfind' := h'.find?_of_mem (List.getElem_mem hi') rfl
    rw [hedited.standing] at hfind
    rw [hedited'.standing] at hfind'
    exact Option.some.inj (hfind.symm.trans hfind')
  cases h
  cases h'
  cases hentries
  rfl

/-! ## How headers come about -/

theorem editedBy_ofList (headers : List (String × String)) :
    EditedBy (headers.map fun p => .insert p.1 p.2) (ofList headers) := by
  have hedited := editedBy_empty.foldl (headers.map fun p => .insert p.1 p.2)
  rw [List.nil_append, List.foldl_map] at hedited
  exact hedited

theorem editedBy_ofFields (fields : Json.Fields) :
    EditedBy (HeaderEdit.ofFields fields) (ofFields fields) := by
  have hedited := editedBy_ofList (fields.filterMap fun field =>
    (Header.joinedText field.2).map fun value => (field.1, value))
  rw [List.map_filterMap] at hedited
  simp only [Option.map_map] at hedited
  exact hedited

/-- The reader of a document's fields as they stand in it, those of one name
included. -/
def fieldReader : Json.Decoder Json.Fields :=
  .entries "a map of header names to values" .any

/-- The fields of a document's text as they stand in it; a text that is no such
document has none. -/
def writtenFields (text : String) : Json.Fields :=
  (fieldReader.parse text).toOption.getD []

theorem eq_ofFields_of_parse {text : String} {h : ResponseHeaders}
    (hread : decoder.parse text = .ok h) : h = ofFields (writtenFields text) := by
  have hmap : decoder = fieldReader.map ofFields := rfl
  rw [hmap, Json.Decoder.parse_map] at hread
  rw [writtenFields]
  cases hfields : fieldReader.parse text with
  | error e =>
      rw [hfields] at hread
      cases hread
  | ok fields =>
      rw [hfields] at hread
      cases hread
      rfl

theorem convert_object (fields : Json.Fields) :
    decoder.convert (.object fields) = .ok (ofFields fields) := by
  have hfields : fieldReader.convert (.object fields) = .ok fields := by
    have hall : (fields.mapM fun field =>
        (Json.Decoder.any.ofJson field.2).map (field.1, ·)) = .ok fields := by
      induction fields with
      | nil => rfl
      | cons field fields ih =>
          rw [List.mapM_cons, ih]
          rfl
    exact congrArg (Except.mapError Json.Mismatch.message) hall
  have hmap : decoder = fieldReader.map ofFields := rfl
  rw [hmap, Json.Decoder.convert_map, hfields]
  rfl

/-- Headers that have come about by some edits: no headers, headers that were
collected, headers that were read from a value, from the text of a document or
from a document that has been read, and headers after one more edit. -/
inductive Built : List HeaderEdit → ResponseHeaders → Prop
  | empty : Built [] .empty
  | collected (headers : List (String × String)) :
      Built (headers.map fun p => .insert p.1 p.2) (.ofList headers)
  | object {fields : Json.Fields} {h : ResponseHeaders}
      (hread : ofJson? (.object fields) = some h) :
      Built (HeaderEdit.ofFields fields) h
  | parsed {text : String} {h : ResponseHeaders}
      (hread : decoder.parse text = .ok h) :
      Built (HeaderEdit.ofFields (writtenFields text)) h
  | converted {fields : Json.Fields} {h : ResponseHeaders}
      (hread : decoder.convert (.object fields) = .ok h) :
      Built (HeaderEdit.ofFields fields) h
  | step {edits : List HeaderEdit} {h : ResponseHeaders}
      (hbuilt : Built edits h) (edit : HeaderEdit) :
      Built (edits ++ [edit]) (h.apply edit)

theorem Built.editedBy (hbuilt : Built edits h) : EditedBy edits h := by
  induction hbuilt with
  | empty => exact editedBy_empty
  | collected headers => exact editedBy_ofList headers
  | object hread =>
      cases hread
      exact editedBy_ofFields _
  | parsed hread =>
      rw [eq_ofFields_of_parse hread]
      exact editedBy_ofFields _
  | converted hread =>
      rw [convert_object] at hread
      cases hread
      exact editedBy_ofFields _
  | step _ edit ih => exact ih.apply edit

/-- However headers have come about, no two of them have one name, where only
the case of ASCII letters is ignored.  They stand in the order in which their
names were first set, and each is the one that stands under its name: the latest
that was inserted, or, where none was, the one that was set first.  Setting a
header only if it is missing changes nothing when it is there.  A look-up, in
whatever spelling, gives the value of the one header of that name, and there are
as many headers as names that were set. -/
theorem entries_of_built (hbuilt : Built edits h) :
    (∀ a b, Header.SameName a b ↔
      List.Forall₂ Header.SameLetter a.toList b.toList) ∧
    h.entries.Pairwise (fun a b => ¬ Header.SameName a.name b.name) ∧
    (h.entries.map fun e => Header.key e.name) = HeaderEdit.keys edits ∧
    (∀ e ∈ h.entries, HeaderEdit.standing? edits e.name = some e) ∧
    (∀ name value, (∃ e ∈ h.entries, Header.SameName e.name name) →
      h.insertIfAbsent name value = h) ∧
    (∀ name value, h.get? name = some value ↔
      ∃ e ∈ h.entries, Header.SameName e.name name ∧ e.value = value) ∧
    (∀ name, h.contains name = true ↔
      ∃! e, e ∈ h.entries ∧ Header.SameName e.name name) ∧
    h.size = (HeaderEdit.keys edits).length := by
  have hedited := hbuilt.editedBy
  refine ⟨Header.sameName_iff, h.unique, hedited.keys, fun e he => ?_,
    fun name value hthere => ?_, h.get?_eq_some_iff, h.contains_iff_unique,
    ?_⟩
  · rw [← hedited.standing]
    exact h.find?_of_mem he rfl
  · exact insertIfAbsent_of_contains ((h.contains_iff_exists name).2 hthere)
      value
  · have hlength := congrArg List.length hedited.keys
    rw [List.length_map] at hlength
    exact hlength

/-- Headers of a document that says one name twice, with one more header that is
there already and one whose name has a letter beyond ASCII. -/
theorem entries_of_built_of_document :
    ∃ h, decoder.parse ("\x7b\"A\":\"1\",\"b\":[\"x\",null,2]," ++
        "\"a\":true,\"c\":null\x7d") = .ok h ∧
      let h' := (h.insertIfAbsent "B" "y").insertIfAbsent "É" "z"
      (h'.entries.map fun e => Header.key e.name) = ["a", "b", "É"] ∧
      ∀ e ∈ h'.entries, HeaderEdit.standing? [.insert "A" "1",
        .insert "b" "x, 2", .insert "a" "true", .insertIfAbsent "B" "y",
        .insertIfAbsent "É" "z"] e.name = some e := by
  have hfields : fieldReader.parse ("\x7b\"A\":\"1\",\"b\":[\"x\",null,2]," ++
      "\"a\":true,\"c\":null\x7d") = .ok [("A", .string "1"),
        ("b", .array [.string "x", .null, .number (.integer (.ofUInt16 2))]),
        ("a", .bool true), ("c", .null)] := by
    cbv
  have hread := Json.Decoder.parse_map ofFields fieldReader
    ("\x7b\"A\":\"1\",\"b\":[\"x\",null,2]," ++ "\"a\":true,\"c\":null\x7d")
  rw [hfields] at hread
  have hedits := Built.parsed hread
  rw [writtenFields, hfields] at hedits
  have hbuilt := (hedits.step (.insertIfAbsent "B" "y")).step
    (.insertIfAbsent "É" "z")
  obtain ⟨-, -, hkeys, hstanding, -⟩ := entries_of_built hbuilt
  have hA : Header.key "A" = "a" := by decide +kernel
  have hB : Header.key "B" = "b" := by decide +kernel
  have ha : Header.key "a" = "a" := by decide +kernel
  have hb : Header.key "b" = "b" := by decide +kernel
  have hother : Header.key "É" = "É" := by decide +kernel
  refine ⟨_, hread, hkeys.trans ?_, hstanding⟩
  change ([Header.key "A", Header.key "b", Header.key "a", Header.key "B",
    Header.key "É"] : List String).eraseDups = _
  rw [hA, hB, ha, hb, hother]
  decide

end ResponseHeaders
end Invocation
