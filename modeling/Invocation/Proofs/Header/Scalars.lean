import Invocation.Header

/-!
# Values that become headers

A header has a text, and of the values of a document only scalars have one.
Which text that is, which texts a sequence of values gives, and which headers the
fields of an object give is said here by relations.  Each of them follows the
value that it is about and leaves no choice, so it holds exactly of what the
readers of headers compute.
-/

namespace Invocation

/-- The values that stand under a field: the items of an array, or the value
itself. -/
def Json.leaves : Json → List Json
  | .array items => items
  | v => [v]

namespace Header

/-- The value is a scalar, and this is its text. -/
inductive Scalar : Json → String → Prop
  | string (s : String) : Scalar (.string s) s
  | number (n : Json.Number) : Scalar (.number n) n.text
  | true : Scalar (.bool true) "true"
  | false : Scalar (.bool false) "false"

/-- The texts of the scalars among some values, in their order. -/
inductive Scalars : List Json → List String → Prop
  | nil : Scalars [] []
  | scalar {v : Json} {text : String} {vs : List Json} {texts : List String}
      (h : Scalar v text) (hrest : Scalars vs texts) :
      Scalars (v :: vs) (text :: texts)
  | other {v : Json} {vs : List Json} {texts : List String}
      (h : ∀ text, ¬ Scalar v text) (hrest : Scalars vs texts) :
      Scalars (v :: vs) texts

/-- The text that a value gives a header of a response: a scalar its own, and a
sequence those of its scalars, of which there has to be one. -/
inductive Carries : Json → String → Prop
  | scalar {v : Json} {text : String} (h : Scalar v text) : Carries v text
  | sequence {items : List Json} {texts : List String}
      (h : Scalars items texts) (hsome : texts ≠ []) :
      Carries (.array items) (", ".intercalate texts)

/-- The headers that the fields of an object give a request: under the name of
each field the scalars that stand there, in the order of the document. -/
inductive Flattened : Json.Fields → List Header → Prop
  | nil : Flattened [] []
  | field {name : String} {v : Json} {texts : List String}
      {fields : Json.Fields} {headers : List Header}
      (htexts : Scalars v.leaves texts) (hrest : Flattened fields headers) :
      Flattened ((name, v) :: fields) (texts.map (Header.mk name) ++ headers)

/-! ## What the readers compute -/

theorem scalarText_eq_some_iff {v : Json} {text : String} :
    scalarText v = some text ↔ Scalar v text := by
  constructor
  · intro h
    cases v with
    | string s =>
        cases h
        exact .string _
    | number n =>
        cases h
        exact .number n
    | bool b =>
        cases h
        cases b
        · exact .false
        · exact .true
    | null => cases h
    | array items => cases h
    | object fields => cases h
  · intro h
    cases h <;> rfl

theorem filterMap_scalarText_eq_iff {vs : List Json} {texts : List String} :
    vs.filterMap scalarText = texts ↔ Scalars vs texts := by
  constructor
  · rintro rfl
    induction vs with
    | nil => exact .nil
    | cons v vs ih =>
        cases hv : scalarText v with
        | none =>
            rw [List.filterMap_cons_none hv]
            refine .other (fun text h => ?_) ih
            rw [scalarText_eq_some_iff.2 h] at hv
            cases hv
        | some text =>
            rw [List.filterMap_cons_some hv]
            exact .scalar (scalarText_eq_some_iff.1 hv) ih
  · intro h
    induction h with
    | nil => rfl
    | scalar h hrest ih =>
        rw [List.filterMap_cons_some (scalarText_eq_some_iff.2 h), ih]
    | other h hrest ih =>
        have hnone : scalarText _ = none := Option.eq_none_iff_forall_ne_some.2
          fun text htext => h text (scalarText_eq_some_iff.1 htext)
        rw [List.filterMap_cons_none hnone, ih]

theorem joinedText_eq_some_iff {v : Json} {text : String} :
    joinedText v = some text ↔ Carries v text := by
  constructor
  · intro h
    unfold joinedText at h
    split at h
    case h_1 items =>
      split at h
      case h_1 => cases h
      case h_2 hsome =>
        cases h
        exact .sequence (filterMap_scalarText_eq_iff.1 rfl) hsome
    case h_2 => exact .scalar (scalarText_eq_some_iff.1 h)
  · intro h
    cases h with
    | scalar h =>
        cases h <;> rfl
    | sequence h hsome =>
        rw [joinedText, filterMap_scalarText_eq_iff.2 h]
        split
        case h_1 => exact absurd rfl hsome
        case h_2 => rfl

theorem texts_eq_iff {v : Json} {ts : List String} :
    texts v = ts ↔ Scalars v.leaves ts := by
  have hleaves : texts v = v.leaves.filterMap scalarText := by
    cases v <;> rfl
  rw [hleaves, filterMap_scalarText_eq_iff]

end Header

/-- The headers read from an object are those that its fields give. -/
theorem RequestHeaders.entries_ofJson_iff {fields : Json.Fields}
    {headers : List Header} :
    (ofJson (.object fields)).entries = headers ↔
      Header.Flattened fields headers := by
  have hcons : ∀ (name : String) (v : Json) (rest : Json.Fields),
      (ofJson (.object ((name, v) :: rest))).entries =
        (Header.texts v).map (Header.mk name) ++
          (ofJson (.object rest)).entries :=
    fun name v rest => rfl
  constructor
  · rintro rfl
    induction fields with
    | nil => exact .nil
    | cons field fields ih =>
        obtain ⟨name, v⟩ := field
        rw [hcons]
        exact .field (Header.texts_eq_iff.1 rfl) ih
  · intro h
    induction h with
    | nil => rfl
    | field htexts hrest ih =>
        rw [hcons, Header.texts_eq_iff.2 htexts, ih]

end Invocation
