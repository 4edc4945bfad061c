import Invocation.Proofs.Json.RoundTrip

/-!
# How far a reader looks

A reader that succeeds has taken a first part of its text.  If it stops before
the end, it has looked no further than the character at which it stops, so that
it would have read the same of any longer text.  Arrays and objects are taken up
to their closing bracket, which shows where they end; only a number may go on
when its text does, and that is why the end of the text is left out below.

The notion is `Leads`: a function comes to the point where it goes on as another
one.  It composes, and each reader below is followed step by step through what
it calls.
-/

namespace Invocation.Json

/-- `f` comes from the start of `text` to `rest` and goes on there as `g`, also
when more follows the text. -/
structure Leads {ρ : Type} (f : List Char → ρ) (text : List Char)
    (g : List Char → ρ) (rest : List Char) : Prop where
  suffix : rest <:+ text
  extend : rest ≠ [] → ∀ more, f (text ++ more) = g (rest ++ more)

/-- What the reader reads of a text it reads of every longer one, unless it has
come to the end. -/
def Local {ε α : Type} (item : Reader ε α) : Prop :=
  ∀ text v rest, item text = .ok (v, rest) →
    Leads item text (fun rest => .ok (v, rest)) rest

/-- The reader stops right after a character that closes what it reads, so that
nothing that follows is looked at. -/
def Closed {ε α : Type} (item : Reader ε α) (close : Char) : Prop :=
  ∀ text v rest, item text = .ok (v, rest) →
    Leads item text (fun rest => .ok (v, rest.tail)) (close :: rest)

section Leads

variable {ρ σ : Type} {f g h : List Char → ρ} {text middle rest : List Char}

theorem ne_nil_of_suffix (hsuffix : rest <:+ text) (hrest : rest ≠ []) :
    text ≠ [] := by
  rintro rfl
  exact hrest (List.suffix_nil.1 hsuffix)

theorem Leads.trans (hfirst : Leads f text g middle)
    (hthen : Leads g middle h rest) : Leads f text h rest := by
  refine ⟨hthen.suffix.trans hfirst.suffix, fun hrest more => ?_⟩
  have hmiddle : middle ≠ [] := ne_nil_of_suffix hthen.suffix hrest
  calc
    f (text ++ more) = g (middle ++ more) := hfirst.extend hmiddle more
    _ = h (rest ++ more) := hthen.extend hrest more

/-- A step over a part that needs no look at what follows. -/
theorem Leads.over (part : List Char)
    (hstep : ∀ tail, f (part ++ tail) = g tail) (rest : List Char) :
    Leads f (part ++ rest) g rest := by
  refine ⟨List.suffix_append part rest, fun _ more => ?_⟩
  rw [List.append_assoc]
  exact hstep (rest ++ more)

/-- A step over one character. -/
theorem Leads.step {c : Char} (hstep : ∀ tail, f (c :: tail) = g tail)
    (hlead : Leads g text h rest) : Leads f (c :: text) h rest :=
  (Leads.over [c] hstep text).trans hlead

/-- Where the text ends nothing is said of longer ones. -/
theorem Leads.nil : Leads f text g [] :=
  ⟨List.nil_suffix, fun hnil => absurd rfl hnil⟩

/-- A stop at a character, which is looked at and not taken. -/
theorem Leads.stop (hstop : ∀ more, f (text ++ more) = g (text ++ more)) :
    Leads f text g text :=
  ⟨List.suffix_rfl, fun _ => hstop⟩

theorem Leads.map (φ : ρ → σ) (hlead : Leads f text g rest) :
    Leads (fun text => φ (f text)) text (fun rest => φ (g rest)) rest :=
  ⟨hlead.suffix, fun hrest more => congrArg φ (hlead.extend hrest more)⟩

end Leads

theorem Local.map {ε α β : Type} {item : Reader ε α} (hitem : Local item)
    (φ : α → β) : Local (Reader.map φ item) := by
  intro text v rest hread
  unfold Reader.map at hread
  split at hread
  case h_1 w middle hw =>
    cases hread
    have hlead := hitem text w rest hw
    refine ⟨hlead.suffix, fun hrest more => ?_⟩
    rw [Reader.map, hlead.extend hrest more]
  case h_2 => cases hread

section Local

variable {ε α : Type} {item next : Reader ε α} {c : Char}
  {text rest : List Char} {v : α}

/-- A reader that takes a character and goes on as a local one. -/
theorem Local.step_over (hnext : Local next)
    (hstep : ∀ tail, item (c :: tail) = next tail)
    (hread : item (c :: text) = .ok (v, rest)) :
    Leads item (c :: text) (fun rest => .ok (v, rest)) rest := by
  rw [hstep] at hread
  exact (hnext text v rest hread).step hstep

/-- A reader that does on a character what a local one does. -/
theorem Local.step_onto (hnext : Local next)
    (hstep : ∀ tail, item (c :: tail) = next (c :: tail))
    (hread : item (c :: text) = .ok (v, rest)) :
    Leads item (c :: text) (fun rest => .ok (v, rest)) rest := by
  rw [hstep] at hread
  exact (Leads.stop fun more => hstep (text ++ more)).trans
    (hnext _ v rest hread)

/-- At the end of the text nothing is left to be taken. -/
theorem Local.step_nil (hnext : Local next)
    (hread : next [] = .ok (v, rest)) :
    Leads item text (fun rest => .ok (v, rest)) rest := by
  have hrest := List.suffix_nil.1 (hnext [] v rest hread).suffix
  rw [hrest]
  exact Leads.nil

end Local

theorem Closed.local {ε α : Type} {item : Reader ε α} {close : Char}
    (hitem : Closed item close) : Local item := fun text v rest hread =>
  (hitem text v rest hread).trans (Leads.over [close] (fun _ => rfl) rest)

/-! ## Blanks and words -/

theorem skipBlanks_suffix (text : List Char) : skipBlanks text <:+ text := by
  induction text with
  | nil => exact List.suffix_rfl
  | cons c text ih =>
      rw [skipBlanks]
      split
      case isTrue => exact ih.trans (List.suffix_cons c text)
      case isFalse => exact List.suffix_rfl

/-- Blanks are skipped alike whatever follows. -/
theorem skipBlanks_leads (text : List Char) :
    Leads skipBlanks text id (skipBlanks text) := by
  refine ⟨skipBlanks_suffix text, fun hrest more => ?_⟩
  induction text with
  | nil => exact absurd rfl hrest
  | cons c text ih =>
      rw [List.cons_append]
      unfold skipBlanks at hrest ⊢
      split
      case isTrue hblank =>
        rw [if_pos hblank] at hrest
        exact ih hrest
      case isFalse => rfl

theorem skipBlanks_extend {text rest : List Char} {c : Char}
    (htext : skipBlanks text = c :: rest) (more : List Char) :
    skipBlanks (text ++ more) = c :: (rest ++ more) := by
  have hextend := (skipBlanks_leads text).extend (by simp [htext]) more
  rw [hextend, htext]
  rfl

/-- What stands after the blanks is no blank. -/
theorem isBlank_skipBlanks {text rest : List Char} {c : Char}
    (h : skipBlanks text = c :: rest) : isBlank c = false := by
  induction text with
  | nil => cases h
  | cons d text ih =>
      rw [skipBlanks] at h
      split at h
      case isTrue => exact ih h
      case isFalse hd =>
        cases h
        exact Bool.eq_false_iff.2 hd

theorem skipBlanks_skipBlanks (text : List Char) :
    skipBlanks (skipBlanks text) = skipBlanks text := by
  cases h : skipBlanks text with
  | nil => rfl
  | cons c rest => exact skipBlanks_nonblank rest (isBlank_skipBlanks h)

/-- A function that starts by skipping blanks may be followed from after
them. -/
theorem Leads.after_blanks {ρ : Type} {f g : List Char → ρ}
    {text rest : List Char} (hskip : ∀ text, f text = f (skipBlanks text))
    (hlead : Leads f (skipBlanks text) g rest) : Leads f text g rest := by
  refine ⟨hlead.suffix.trans (skipBlanks_suffix text), fun hrest more => ?_⟩
  have hblanks := ne_nil_of_suffix hlead.suffix hrest
  calc
    f (text ++ more) = f (skipBlanks (text ++ more)) := hskip _
    _ = f (skipBlanks text ++ more) :=
      congrArg f ((skipBlanks_leads text).extend hblanks more)
    _ = g (rest ++ more) := hlead.extend hrest more

theorem word_leads {letters text rest : List Char}
    (hread : word letters text = .ok rest) :
    Leads (word letters) text .ok rest := by
  induction letters generalizing text with
  | nil =>
      cases hread
      exact Leads.stop fun _ => rfl
  | cons c letters ih =>
      cases text with
      | nil => cases hread
      | cons d text =>
          rw [word] at hread
          split at hread
          case isTrue hcd =>
            have hstep : ∀ tail, word (c :: letters) (d :: tail) =
                word letters tail := by
              intro tail
              rw [word, if_pos hcd]
            exact (ih hread).step hstep
          case isFalse => cases hread

/-! ## Strings -/

theorem stringFrom_unit (done rest : List Char) {a b c d : Char} {n : Nat}
    (hunit : hex4? a b c d = some n) (hlow : isLowSurrogate n = false)
    (hhigh : isHighSurrogate n = false) :
    stringFrom done ('\\' :: 'u' :: a :: b :: c :: d :: rest) =
      stringFrom (Char.ofNat n :: done) rest := by
  rw [stringFrom]
  simp only [hunit, hlow, hhigh, Bool.false_eq_true, if_false]

theorem stringFrom_pair (done rest : List Char) {a b c d e f g h : Char}
    {n m : Nat} (hunit : hex4? a b c d = some n)
    (hlow : isLowSurrogate n = false) (hhigh : isHighSurrogate n = true)
    (hunit' : hex4? e f g h = some m) (hlow' : isLowSurrogate m = true) :
    stringFrom done ('\\' :: 'u' :: a :: b :: c :: d ::
        '\\' :: 'u' :: e :: f :: g :: h :: rest) =
      stringFrom (surrogatePair n m :: done) rest := by
  rw [stringFrom]
  simp only [hunit, hlow, hhigh, hunit', hlow', Bool.false_eq_true, if_false,
    if_true]

/-- A string is read up to its closing quote, one form of a character after the
other. -/
theorem stringFrom_leads (done text cs rest : List Char)
    (hread : stringFrom done text = .ok (cs, rest)) :
    Leads (stringFrom done) text (fun rest => .ok (cs, rest)) rest := by
  fun_induction stringFrom done text
  case case2 done rest' =>
    cases hread
    exact Leads.over ['"'] (fun tail => by
      rw [List.singleton_append, stringFrom]) rest
  case case7 done a b c d n hunit hlow hhigh e f g h rest' m hunit' hlow' ih =>
    have hstep : ∀ tail, stringFrom done (['\\', 'u', a, b, c, d,
        '\\', 'u', e, f, g, h] ++ tail) =
        stringFrom (surrogatePair n m :: done) tail := fun tail =>
      stringFrom_pair done tail hunit (Bool.eq_false_iff.2 hlow) hhigh hunit'
        hlow'
    exact (Leads.over _ hstep rest').trans (ih hread)
  case case12 done a b c d rest' n hunit hlow hhigh ih =>
    have hstep : ∀ tail, stringFrom done (['\\', 'u', a, b, c, d] ++ tail) =
        stringFrom (Char.ofNat n :: done) tail := fun tail =>
      stringFrom_unit done tail hunit (Bool.eq_false_iff.2 hlow)
        (Bool.eq_false_iff.2 hhigh)
    exact (Leads.over _ hstep rest').trans (ih hread)
  case case14 done c rest' hu x hsimple ih =>
    have hstep : ∀ tail, stringFrom done (['\\', c] ++ tail) =
        stringFrom (x :: done) tail := fun tail =>
      stringFrom_simple done tail hu hsimple
    exact (Leads.over _ hstep rest').trans (ih hread)
  case case17 done c rest' hquote hslash hlow ih =>
    have hstep : ∀ tail, stringFrom done (c :: tail) =
        stringFrom (c :: done) tail := fun tail =>
      stringFrom_plain done tail hquote hslash (by omega)
    exact (ih hread).step hstep
  -- The other cases are faults.
  all_goals cases hread

theorem stringBody_local : Local stringBody := by
  intro text v rest hread
  unfold stringBody at hread
  split at hread
  case h_1 cs rest' hcs =>
    cases hread
    have hlead := stringFrom_leads [] text cs rest hcs
    refine ⟨hlead.suffix, fun hrest more => ?_⟩
    rw [stringBody, hlead.extend hrest more]
  case h_2 => cases hread

end Invocation.Json
