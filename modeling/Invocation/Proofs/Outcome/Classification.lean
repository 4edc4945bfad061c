import Invocation.Proofs.Header.Edits
import Invocation.Proofs.Header.Scalars
import Invocation.Proofs.Json.Fields
import Invocation.Proofs.Json.Integers
import Invocation.Proofs.Response.Shape

/-!
# What a value is taken for

A value that a handler hands back is a response, a failed call or a plain value,
and what it is can be said without reading it: by its shape, its status and its
headers.  The shape is looked at in one place and the fields are read in
another, so that it has to be shown that the two leave no value out and that
none is claimed twice.  As a relation between values and outcomes this is one
statement: the relation holds of a value and the outcome that it comes to, and
of no other outcome, because it leaves no choice of the response.
-/

namespace Invocation

namespace Response

/-- The body that a field tells: none gives the empty one, a string stands for
itself, and any other value for its compact text. -/
inductive TellsBody : Option Json → String → Prop
  | absent : TellsBody none ""
  | null : TellsBody (some .null) ""
  | string (s : String) : TellsBody (some (.string s)) s
  | value {v : Json} (hnull : v ≠ .null) (hstring : ∀ s, v ≠ .string s) :
      TellsBody (some v) v.text

/-- The headers that a field tells: those that its fields set one after the
other, as far as they carry a text. -/
inductive TellsHeaders : Option Json → ResponseHeaders → Prop
  | absent : TellsHeaders none .empty
  | null : TellsHeaders (some .null) .empty
  | object {fields : Json.Fields} {h : ResponseHeaders}
      (hedited : ResponseHeaders.EditedBy (HeaderEdit.ofFields fields) h) :
      TellsHeaders (some (.object fields)) h

/-- The response that fields with this status tell. -/
structure Tells (fields : Json.Fields) (status : Integer) (r : Response) :
    Prop where
  status : (r.status.toNat : Int) = status.val
  headers : TellsHeaders (fields.get? "headers") r.headers
  body : TellsBody (fields.get? "body") r.body

end Response

/-- What a value is taken for.  If it has not the shape of a response, which only
an object has that has no other fields than those of a response and an integer
as its status, it is a plain value.  Otherwise it is a response if its status is
from 100 to 999 and its headers are absent, null or an object, and a failure if
not. -/
inductive Taken : Json → Outcome → Prop
  | plain {v : Json}
      (h : ∀ fields n, v = .object fields → ¬ Response.Shaped fields n) :
      Taken v (.value v)
  | response {fields : Json.Fields} {status : Integer} {r : Response}
      (hshape : Response.Shaped fields status)
      (hvalid : Response.ValidStatus status.val)
      (hheaders : ¬ Response.BadHeaders fields)
      (htells : Response.Tells fields status r) :
      Taken (.object fields) (.response r)
  | unusable {fields : Json.Fields} {status : Integer}
      (hshape : Response.Shaped fields status)
      (hbad : ¬ Response.ValidStatus status.val ∨ Response.BadHeaders fields) :
      Taken (.object fields)
        (.failure ⟨"handler returned an unusable response shape",
          (Json.object fields).text⟩)

/-- Two outcomes differ at most in which of two values they show, as the value
itself or as the text of a trace. -/
inductive SameBut (v v' : Json) : Outcome → Outcome → Prop
  | value : SameBut v v' (.value v) (.value v')
  | response (r : Response) : SameBut v v' (.response r) (.response r)
  | failure (message : String) :
      SameBut v v' (.failure ⟨message, v.text⟩) (.failure ⟨message, v'.text⟩)

namespace Response

/-! ## The response that fields tell -/

theorem tellsHeaders_headersOf? {fields : Json.Fields} {h : ResponseHeaders}
    (hread : headersOf? fields = some h) :
    TellsHeaders (fields.get? "headers") h := by
  unfold headersOf? at hread
  split at hread
  case h_1 hget =>
    cases hread
    rw [hget]
    exact .absent
  case h_2 hget =>
    cases hread
    rw [hget]
    exact .null
  case h_3 v hnull hget =>
    rw [hget]
    cases v with
    | object headers =>
        cases hread
        exact .object (ResponseHeaders.editedBy_ofFields headers)
    | null | bool b | number n | string s | array items => cases hread

theorem tellsBody_bodyOf (fields : Json.Fields) :
    TellsBody (fields.get? "body") (bodyOf fields) := by
  unfold bodyOf
  split
  case h_1 hget =>
    rw [hget]
    exact .absent
  case h_2 hget =>
    rw [hget]
    exact .null
  case h_3 v hnull hget =>
    rw [hget]
    unfold bodyText
    split
    case h_1 s => exact .string s
    case h_2 hstring =>
      exact .value (fun h => hnull (by rw [h])) fun s h => hstring s h

/-- Fields that are read as a response tell it. -/
theorem tells_of_ofFields? {fields : Json.Fields} {n : Integer} {r : Response}
    (hshape : Shaped fields n) (hread : ofFields? fields = some r) :
    Tells fields n r := by
  unfold ofFields? at hread
  rw [statusOf?_of_status hshape.status] at hread
  by_cases hvalid : 100 ≤ n.val ∧ n.val ≤ 999
  · rw [if_pos hvalid] at hread
    cases hheaders : headersOf? fields with
    | none =>
        rw [hheaders] at hread
        cases hread
    | some h =>
        rw [hheaders] at hread
        cases hread
        refine ⟨?_, tellsHeaders_headersOf? hheaders, tellsBody_bodyOf fields⟩
        -- A status in range is one of 16 bits.
        change ((UInt16.ofNat n.val.toNat).toNat : Int) = n.val
        rw [UInt16.toNat_ofNat']
        omega
  · rw [if_neg hvalid] at hread
    cases hread

theorem TellsBody.eq {v : Option Json} {s s' : String} (h : TellsBody v s)
    (h' : TellsBody v s') : s = s' := by
  cases h with
  | absent => cases h'; rfl
  | null =>
      cases h' with
      | null => rfl
      | value hnull _ => exact absurd rfl hnull
  | string s =>
      cases h' with
      | string => rfl
      | value _ hstring => exact absurd rfl (hstring s)
  | value hnull hstring =>
      cases h' with
      | null => exact absurd rfl hnull
      | string => exact absurd rfl (hstring _)
      | value => rfl

theorem TellsHeaders.eq {v : Option Json} {h h' : ResponseHeaders}
    (htells : TellsHeaders v h) (htells' : TellsHeaders v h') : h = h' := by
  cases htells with
  | absent => cases htells'; rfl
  | null => cases htells'; rfl
  | object hedited =>
      cases htells' with
      | object hedited' => exact hedited.eq hedited'

/-- Fields tell one response. -/
theorem Tells.eq {fields : Json.Fields} {n : Integer} {r r' : Response}
    (h : Tells fields n r) (h' : Tells fields n r') : r = r' := by
  have hstatus : r.status = r'.status := by
    have heq := h.status.trans h'.status.symm
    exact UInt16.toNat_inj.1 (by omega)
  have hheaders := h.headers.eq h'.headers
  have hbody := h.body.eq h'.body
  cases r
  cases r'
  cases hstatus
  cases hheaders
  cases hbody
  rfl

end Response

namespace Outcome

/-! ## No value is left out and none is claimed twice -/

theorem taken_ofValue (v : Json) : Taken v (ofValue v) := by
  by_cases hshape : ∃ fields n, v = .object fields ∧ Response.Shaped fields n
  · obtain ⟨fields, n, rfl, hshape⟩ := hshape
    have hnone := Response.ofFields?_eq_none_iff hshape
    rw [ofValue_of_shaped hshape]
    cases hread : Response.ofFields? fields with
    | none => exact .unusable hshape (hnone.1 hread)
    | some r =>
        have hgood : ¬ (¬ Response.ValidStatus n.val ∨
            Response.BadHeaders fields) := fun hbad => by
          rw [hnone.2 hbad] at hread
          cases hread
        obtain ⟨hvalid, hheaders⟩ := not_or.1 hgood
        exact .response hshape (not_not.1 hvalid) hheaders
          (Response.tells_of_ofFields? hshape hread)
  · have hplain : ∀ fields n, v = .object fields →
        ¬ Response.Shaped fields n :=
      fun fields n hv hn => hshape ⟨fields, n, hv, hn⟩
    rw [ofValue_of_not_shaped hplain]
    exact .plain hplain

theorem ofValue_of_taken {v : Json} {o : Outcome} (h : Taken v o) :
    ofValue v = o := by
  cases h with
  | plain h => exact ofValue_of_not_shaped h
  | unusable hshape hbad =>
      exact ofValue_eq_failure_iff.2 ⟨_, _, rfl, hshape, hbad, rfl⟩
  | response hshape hvalid hheaders htells =>
      rename_i fields status r
      rw [ofValue_of_shaped hshape]
      cases hread : Response.ofFields? fields with
      | none =>
          rcases (Response.ofFields?_eq_none_iff hshape).1 hread with hbad | hbad
          · exact absurd hvalid hbad
          · exact absurd hbad hheaders
      | some r' =>
          have heq := (Response.tells_of_ofFields? hshape hread).eq htells
          rw [heq]
          rfl

/-! ## Another order of the fields -/

theorem ofFields?_perm {fields fields' : Json.Fields}
    (hperm : fields.Perm fields') (hnames : (fields.map Prod.fst).Nodup) :
    Response.ofFields? fields = Response.ofFields? fields' := by
  have hget := Json.Fields.get?_perm hperm hnames
  rw [Response.ofFields?, Response.ofFields?, Response.statusOf?,
    Response.statusOf?, Response.headersOf?, Response.headersOf?,
    Response.bodyOf, Response.bodyOf, hget, hget, hget]

theorem shaped_of_perm {fields fields' : Json.Fields} {n : Integer}
    (hperm : fields.Perm fields') (hnames : (fields.map Prod.fst).Nodup)
    (hshape : Response.Shaped fields n) : Response.Shaped fields' n :=
  ⟨Json.Fields.get?_perm hperm hnames "status" ▸ hshape.status,
    fun field h => hshape.names field (hperm.mem_iff.2 h)⟩

theorem ofValue_object_of_not_shaped {fields : Json.Fields}
    (h : ∀ n, ¬ Response.Shaped fields n) :
    ofValue (.object fields) = .value (.object fields) :=
  ofValue_of_not_shaped fun fs n hv hn => by
    cases hv
    exact h n hn

theorem sameBut_perm {fields fields' : Json.Fields}
    (hperm : fields.Perm fields') (hnames : (fields.map Prod.fst).Nodup) :
    SameBut (.object fields) (.object fields') (ofValue (.object fields))
      (ofValue (.object fields')) := by
  by_cases hshape : ∃ n, Response.Shaped fields n
  · obtain ⟨n, hshape⟩ := hshape
    rw [ofValue_of_shaped hshape,
      ofValue_of_shaped (shaped_of_perm hperm hnames hshape),
      ← ofFields?_perm hperm hnames]
    cases Response.ofFields? fields with
    | none => exact .failure _
    | some r => exact .response r
  · -- The other order has not the shape either, or this one would have it.
    have hnames' := (hperm.map Prod.fst).nodup_iff.1 hnames
    rw [ofValue_object_of_not_shaped fun n hn => hshape ⟨n, hn⟩,
      ofValue_object_of_not_shaped fun n hn =>
        hshape ⟨n, shaped_of_perm hperm.symm hnames' hn⟩]
    exact .value

/-- A value that is handed back comes to what it is taken for and to nothing
else.  In another order of its fields it comes to the same, but for the value
that is shown.  The headers that a response has are of the fields that carry a
text, and the numbers that count as integers are those that are written as an
integer of 64 bits. -/
theorem ofReply_value_iff_taken (v : Json) :
    (∀ o, ofReply (.value v) = o ↔ Taken v o) ∧
    (∀ fields fields', v = .object fields → (fields.map Prod.fst).Nodup →
      fields.Perm fields' →
      SameBut v (.object fields') (ofReply (.value v))
        (ofReply (.value (.object fields')))) ∧
    (∀ w text, Header.joinedText w = some text ↔ Header.Carries w text) ∧
    ∀ depth text rest n,
      Json.value depth text = .ok (.number (.integer n), rest) ↔
        Json.skipBlanks text = Json.intChars n.val ++ rest ∧
          Json.EndsNumber rest := by
  refine ⟨fun o => ⟨?_, ofValue_of_taken⟩, ?_,
    fun w text => Header.joinedText_eq_some_iff,
    fun depth text rest n => Json.value_integer_iff⟩
  · rintro rfl
    exact taken_ofValue v
  · rintro fields fields' rfl hnames hperm
    exact sameBut_perm hperm hnames

/-- A response whose fields stand in another order than it has them itself. -/
theorem ofReply_value_iff_taken_of_reversed :
    let fields : Json.Fields := [
      ("status", .number (.integer (.ofUInt16 201))),
      ("headers", .object [("A", .string "1"),
        ("a", .array [.null, .string "x", .bool true])]),
      ("body", .array [])]
    ∃ r : Response,
      ofReply (.value (.object fields)) = .response r ∧
      ofReply (.value (.object fields.reverse)) = .response r ∧
      r.status = 201 := by
  intro fields
  have hnames : (fields.map Prod.fst).Nodup := by
    change ["status", "headers", "body"].Nodup
    decide
  have hsame := (ofReply_value_iff_taken (.object fields)).2.1 fields
    fields.reverse rfl hnames fields.reverse_perm.symm
  obtain ⟨r, hr, hstatus⟩ : ∃ r : Response,
      ofReply (.value (.object fields)) = .response r ∧ r.status = 201 :=
    ⟨_, rfl, rfl⟩
  refine ⟨r, hr, ?_, hstatus⟩
  rw [hr] at hsame
  generalize ofReply (.value (.object fields.reverse)) = other at hsame ⊢
  cases hsame
  rfl

end Outcome
end Invocation
