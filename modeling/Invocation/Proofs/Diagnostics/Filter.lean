import Mathlib.Data.List.DropRight
import Mathlib.Tactic.Common
import Invocation.Diagnostics.Filter

/-!
# Filters in force

A directive is cut from a text by places in its trimmed form.  As long as these
are places between characters of the text as it stands, no part of the directive
starts or ends inside a character.  They are if nothing is trimmed from the
front, and also if every character has a single byte.  So there is a filter in
force unless one that is tried has a directive with a blank before it and a
wider character in it.
-/

namespace Invocation

namespace Directive

/-! ## Places -/

/-- The number of bytes of a text. -/
def size (cs : List Char) : Nat := cs.foldr (fun c n => c.utf8Size + n) 0

@[simp] theorem size_nil : size [] = 0 := rfl

@[simp] theorem size_cons (c : Char) (cs : List Char) :
    size (c :: cs) = c.utf8Size + size cs := rfl

@[simp] theorem size_append (cs ds : List Char) :
    size (cs ++ ds) = size cs + size ds := by
  induction cs with
  | nil => simp
  | cons c cs ih => simp [ih, Nat.add_assoc]

theorem eq_nil_of_size {cs : List Char} (h : size cs = 0) : cs = [] := by
  cases cs with
  | nil => rfl
  | cons c cs =>
      have hpos := c.utf8Size_pos
      rw [size_cons] at h
      omega

/-- A place between characters of a text, counted in bytes. -/
def IsPlace (text : List Char) (place : Nat) : Prop :=
  ∃ read rest, text = read ++ rest ∧ place = size read

theorem exists_size_cons (c : Char) (cs : List Char) :
    ∃ n, size (c :: cs) = n + 1 ∧ ¬ n + 1 < c.utf8Size ∧
      n + 1 - c.utf8Size = size cs := by
  have hpos := c.utf8Size_pos
  exact ⟨size (c :: cs) - 1, by simp only [size_cons]; omega,
    by simp only [size_cons]; omega, by simp only [size_cons]; omega⟩

theorem dropBytes?_size (read rest : List Char) :
    dropBytes? (size read) (read ++ rest) = some rest := by
  induction read with
  | nil => simp [dropBytes?]
  | cons c read ih =>
      obtain ⟨n, hsize, hwhole, hleft⟩ := exists_size_cons c read
      rw [hsize, List.cons_append, dropBytes?, if_neg hwhole, hleft, ih]

theorem takeBytes?_size (read rest : List Char) :
    takeBytes? (size read) (read ++ rest) = some read := by
  induction read with
  | nil => simp [takeBytes?]
  | cons c read ih =>
      obtain ⟨n, hsize, hwhole, hleft⟩ := exists_size_cons c read
      rw [hsize, List.cons_append, takeBytes?, if_neg hwhole, hleft, ih]
      rfl

variable {text : List Char} {start stop place : Nat}

/-- Between two places stand characters of the text. -/
theorem IsPlace.split (hstart : IsPlace text start) (hstop : IsPlace text stop)
    (hle : start ≤ stop) :
    ∃ read part rest, text = read ++ part ++ rest ∧ start = size read ∧
      stop = size read + size part := by
  obtain ⟨before, rest, rfl, rfl⟩ := hstart
  obtain ⟨after, rest', htext, rfl⟩ := hstop
  rcases List.append_eq_append_iff.1 htext with
    ⟨part, rfl, rfl⟩ | ⟨part, rfl, rfl⟩
  · exact ⟨before, part, rest', by simp, rfl, size_append _ _⟩
  · have hpart : part = [] := by
      apply eq_nil_of_size
      rw [size_append] at hle
      omega
    exact ⟨after, [], rest, by simp [hpart], by simp [hpart], by simp⟩

theorem cut_places (hstart : IsPlace text start) (hstop : IsPlace text stop)
    (hle : start ≤ stop) : ∃ part, cut text start stop = .ok part := by
  obtain ⟨read, part, rest, rfl, rfl, rfl⟩ := hstart.split hstop hle
  refine ⟨part, ?_⟩
  rw [cut, List.append_assoc, dropBytes?_size, Option.bind_some,
    Nat.add_sub_cancel_left, takeBytes?_size]

theorem cutFrom_place (hstart : IsPlace text start) :
    ∃ part, cutFrom text start = .ok part := by
  obtain ⟨read, rest, rfl, rfl⟩ := hstart
  exact ⟨rest, by rw [cutFrom, dropBytes?_size]⟩

/-! ## Reading -/

/-- Nothing is cut inside a character, and what is read has a property. -/
structure Whole {α : Type} (P : α → Prop) (r : Read α) : Prop where
  unsplit : r ≠ .error .splitCharacter
  holds : ∀ a, r = .ok a → P a

section Whole

variable {α β : Type} {P : α → Prop}

theorem whole_ok {a : α} (h : P a) : Whole P (.ok a) :=
  ⟨nofun, fun _ hok => Except.ok.inj hok ▸ h⟩

theorem whole_malformed : Whole P (.error .malformed) :=
  ⟨nofun, nofun⟩

theorem Whole.map {Q : β → Prop} {r : Read α} {f : α → β} (h : Whole P r)
    (hf : ∀ a, P a → Q (f a)) : Whole Q (r.map f) := by
  cases r with
  | ok a => exact whole_ok (hf a (h.holds a rfl))
  | error e => exact ⟨fun heq => h.unsplit (congrArg _ (Except.error.inj heq)), nofun⟩

end Whole

theorem whole_withField (hstart : IsPlace text start) (hstop : IsPlace text stop)
    (hle : start ≤ stop) (d : Directive) :
    Whole (fun _ => True) (withField text start stop d) := by
  obtain ⟨part, hcut⟩ := cut_places hstart hstop hle
  unfold withField
  rw [hcut]
  cases part with
  | nil => exact whole_malformed
  | cons c cs =>
      cases hfield : FieldDemand.ofText? (c :: cs) with
      | none =>
          simp only [hfield]
          exact whole_malformed
      | some f =>
          simp only [hfield]
          exact whole_ok trivial

/-- Where the part that is being read starts. -/
def Part.start? : Part → Option Nat
  | .span start | .field start | .level start => some start
  | .nothing | .first | .fieldEnd | .spanEnd => none

/-- The part that is being read starts at a place that has been passed. -/
def Part.Placed (text : List Char) (place : Nat) (part : Part) : Prop :=
  ∀ start, part.start? = some start → IsPlace text start ∧ start ≤ place

theorem Part.Placed.later {part : Part} (h : part.Placed text place) (n : Nat) :
    part.Placed text (place + n) := by
  intro start hstart
  obtain ⟨hplace, hle⟩ := h start hstart
  exact ⟨hplace, Nat.le_add_right_of_le hle⟩

/-- A part starts right after a character of a single byte. -/
theorem Part.placed_next {part : Part} {n : Nat} (hn : n = 1)
    (hnext : IsPlace text (place + n))
    (hstart : part.start? = some (place + 1)) : part.Placed text (place + n) := by
  subst hn
  intro start h
  obtain rfl : place + 1 = start := Option.some.inj (hstart.symm.trans h)
  exact ⟨hnext, Nat.le_refl _⟩

theorem whole_cut (hstart : IsPlace text start) (hstop : IsPlace text stop)
    (hle : start ≤ stop) : Whole (fun _ => True) (cut text start stop) := by
  obtain ⟨part, hcut⟩ := cut_places hstart hstop hle
  exact hcut ▸ whole_ok trivial

theorem isPlace_zero (text : List Char) : IsPlace text 0 := ⟨[], text, rfl, rfl⟩

theorem whole_advance {c : Char} {part : Part} (hplace : IsPlace text place)
    (hnext : IsPlace text (place + c.utf8Size))
    (hpart : part.Placed text place) (d : Directive) :
    Whole (fun r => r.1.Placed text (place + c.utf8Size))
      (advance text place c part d) := by
  have hlater := hpart.later c.utf8Size
  have hwhole : ∀ stop, IsPlace text stop →
      Whole (fun _ => True) (cut text 0 stop) := fun stop hstop =>
    whole_cut (isPlace_zero text) hstop (Nat.zero_le stop)
  have hafter : ∀ {delimiter : Char} {part : Part},
      part.start? = some (place + 1) → delimiter.utf8Size = 1 →
      c = delimiter → part.Placed text (place + c.utf8Size) := by
    intro delimiter part hstart hsize hc
    exact Part.placed_next (hc ▸ hsize) hnext hstart
  cases part with
  | nothing =>
      simp only [advance, beq_iff_eq]
      split_ifs with hopen hstarts
      · exact whole_ok (hafter rfl rfl hopen)
      · exact whole_ok nofun
      · exact whole_malformed
  | first =>
      simp only [advance, beq_iff_eq]
      split_ifs with hlevel hspan
      · exact (hwhole place hplace).map fun _ _ => hafter rfl rfl hlevel
      · exact (hwhole place hplace).map fun _ _ => hafter rfl rfl hspan
      · exact whole_ok hlater
  | span start =>
      obtain ⟨hstart, hle⟩ := hpart start rfl
      simp only [advance, beq_iff_eq]
      split_ifs with hclose hfield
      · exact (whole_cut hstart hplace hle).map fun _ _ => nofun
      · exact (whole_cut hstart hplace hle).map fun _ _ => hafter rfl rfl hfield
      · exact whole_ok hlater
  | field start =>
      obtain ⟨hstart, hle⟩ := hpart start rfl
      simp only [advance, beq_iff_eq]
      split_ifs with hclose
      · exact (whole_withField hstart hplace hle d).map fun _ _ => nofun
      · exact whole_ok hlater
  | fieldEnd =>
      simp only [advance, beq_iff_eq]
      split_ifs with hclose
      · exact whole_ok nofun
      · exact whole_malformed
  | spanEnd =>
      simp only [advance, beq_iff_eq]
      split_ifs with hlevel
      · exact whole_ok (hafter rfl rfl hlevel)
      · exact whole_malformed
  | level start => exact whole_ok hlater

theorem whole_advanceAll {rest : List Char} {part : Part} {d : Directive}
    (hrest : ∀ read left, rest = read ++ left → IsPlace text (place + size read))
    (hpart : part.Placed text place) :
    Whole (fun r => r.1.Placed text (place + size rest))
      (advanceAll text place part d rest) := by
  induction rest generalizing place part d with
  | nil => exact whole_ok hpart
  | cons c rest ih =>
      have hplace : IsPlace text place := hrest [] (c :: rest) rfl
      have hnext : IsPlace text (place + c.utf8Size) := by
        simpa using hrest [c] rest rfl
      have hstep := whole_advance hplace hnext hpart d
      rw [advanceAll]
      cases hadvance : advance text place c part d with
      | error e =>
          refine ⟨fun heq => hstep.unsplit ?_, nofun⟩
          rw [hadvance, Except.error.inj heq]
      | ok r =>
          have hleft := hstep.holds r hadvance
          have hall := ih (fun read left hread => by
            simpa [Nat.add_assoc] using hrest (c :: read) left (by rw [hread]; rfl))
            hleft (d := r.2)
          simpa [Nat.add_assoc] using hall

theorem whole_finish {part : Part} (hpart : part.Placed text place)
    (d : Directive) : Whole (fun _ => True) (finish text part d) := by
  cases part with
  | first =>
      unfold finish
      cases verbosity? text with
      | none => exact whole_ok trivial
      | some v => exact whole_ok trivial
  | level start =>
      obtain ⟨cs, hcut⟩ := cutFrom_place (hpart start rfl).1
      unfold finish
      simp only [hcut]
      cases cs with
      | nil => exact whole_ok trivial
      | cons c cs =>
          cases hlevel : verbosity? (c :: cs) with
          | none =>
              simp only [hlevel]
              exact whole_malformed
          | some v =>
              simp only [hlevel]
              exact whole_ok trivial
  | spanEnd => exact whole_ok trivial
  | nothing => exact whole_malformed
  | span start => exact whole_malformed
  | field start => exact whole_malformed
  | fieldEnd => exact whole_malformed

/-- A directive is not cut inside a character if the places of its trimmed form
are places of the text as it stands. -/
theorem parse_unsplit
    (hplaces : ∀ read left, Text.trim text = read ++ left →
      IsPlace text (size read)) :
    parse text ≠ .error .splitCharacter := by
  have hparts : Whole
      (fun r => r.1.Placed text (0 + size (Text.trim text)))
      (advanceAll text 0 .nothing {} (Text.trim text)) :=
    whole_advanceAll (fun read left h => by simpa using hplaces read left h)
      nofun
  unfold parse
  cases hadvance : advanceAll text 0 .nothing {} (Text.trim text) with
  | error e =>
      intro heq
      exact hparts.unsplit (by rw [hadvance, Except.error.inj heq])
  | ok r => exact (whole_finish (hparts.holds r hadvance) r.2).unsplit

/-! ## Blanks in front -/

theorem trim_eq (cs : List Char) :
    Text.trim cs = (cs.dropWhile Text.isBlank).rdropWhile Text.isBlank := rfl

theorem trim_isPrefix {cs : List Char} (hfront : ∀ c ∈ cs.head?, ¬ Text.isBlank c) :
    Text.trim cs <+: cs := by
  rw [trim_eq]
  cases cs with
  | nil => exact List.nil_prefix
  | cons c cs =>
      rw [List.dropWhile_cons_of_neg (hfront c rfl)]
      exact List.rdropWhile_prefix _ _

theorem length_trim_le (cs : List Char) :
    (Text.trim cs).length ≤ cs.length :=
  (List.rdropWhile_prefix _ _).length_le.trans
    (List.dropWhile_suffix _).length_le

theorem size_of_narrow {cs : List Char} (h : ∀ c ∈ cs, c.utf8Size = 1) :
    size cs = cs.length := by
  induction cs with
  | nil => rfl
  | cons c cs ih =>
      rw [size_cons, h c List.mem_cons_self,
        ih fun d hd => h d (List.mem_cons_of_mem _ hd), List.length_cons,
        Nat.add_comm]

theorem mem_of_mem_trim {c : Char} {cs : List Char} (h : c ∈ Text.trim cs) :
    c ∈ cs :=
  (List.dropWhile_suffix _).subset ((List.rdropWhile_prefix _ _).subset h)

/-- Only a directive with a blank in front and a character of several bytes is
cut inside a character. -/
theorem of_parse_split (h : parse text = .error .splitCharacter) :
    (∃ c ∈ text.head?, Text.isBlank c) ∧ ∃ c ∈ text, c.utf8Size ≠ 1 := by
  constructor
  · by_contra hfront
    have hfront : ∀ c ∈ text.head?, ¬ Text.isBlank c := fun c hc hblank =>
      hfront ⟨c, hc, hblank⟩
    refine parse_unsplit (fun read left hread => ?_) h
    obtain ⟨rest, hrest⟩ :=
      (hread ▸ List.prefix_append read left).trans (trim_isPrefix hfront)
    exact ⟨read, rest, hrest.symm, rfl⟩
  · by_contra hwide
    have hnarrow : ∀ c ∈ text, c.utf8Size = 1 := fun c hc =>
      not_not.1 fun hne => hwide ⟨c, hc, hne⟩
    refine parse_unsplit (fun read left hread => ?_) h
    have hread' : ∀ c ∈ read, c.utf8Size = 1 := fun c hc =>
      hnarrow c (mem_of_mem_trim (hread ▸ List.mem_append_left left hc))
    have hlength : read.length ≤ text.length := by
      refine le_trans ?_ (length_trim_le text)
      rw [hread, List.length_append]
      exact Nat.le_add_right _ _
    refine ⟨text.take read.length, text.drop read.length,
      (List.take_append_drop _ text).symm, ?_⟩
    rw [size_of_narrow hread', size_of_narrow fun c hc =>
      hnarrow c (List.mem_of_mem_take hc), List.length_take,
      Nat.min_eq_left hlength]

end Directive

namespace Filter

theorem exists_mem_of_mapM_error {α β ε : Type} {f : α → Except ε β} {e : ε}
    {xs : List α} (h : xs.mapM f = .error e) : ∃ x ∈ xs, f x = .error e := by
  induction xs with
  | nil => cases h
  | cons x xs ih =>
      rw [List.mapM_cons] at h
      cases hx : f x with
      | error e' =>
          rw [hx] at h
          have he : (.error e' : Except ε (List β)) = .error e := h
          exact ⟨x, List.mem_cons_self, hx.trans (congrArg _ (Except.error.inj he))⟩
      | ok y =>
          rw [hx] at h
          cases hxs : xs.mapM f with
          | error e' =>
              rw [hxs] at h
              have he : (.error e' : Except ε (List β)) = .error e := h
              obtain ⟨z, hz, hfz⟩ := ih (hxs.trans he)
              exact ⟨z, List.mem_cons_of_mem _ hz, hfz⟩
          | ok ys =>
              rw [hxs] at h
              cases h

/-- A directive that may be cut inside a character. -/
def Splits (directive : List Char) : Prop :=
  (∃ c ∈ directive.head?, Text.isBlank c) ∧ ∃ c ∈ directive, c.utf8Size ≠ 1

theorem of_parse_split {text : String} (h : parse text = .error .splitCharacter) :
    ∃ directive ∈ pieces text, Splits directive := by
  unfold parse at h
  cases hmap : (pieces text).mapM Directive.parse with
  | error e =>
      rw [hmap] at h
      have he : e = .splitCharacter := Except.error.inj h
      obtain ⟨directive, hmem, hsplit⟩ :=
        exists_mem_of_mapM_error (hmap.trans (congrArg _ he))
      exact ⟨directive, hmem, Directive.of_parse_split hsplit⟩
  | ok directives =>
      rw [hmap] at h
      cases directives with
      | nil => cases h
      | cons d ds => cases h

/-- There is a filter in force unless a text that is tried has a directive with
a blank before it and a character of several bytes in it. -/
theorem of_inForce_none {environment : Option String} {config : Config}
    (h : inForce environment config = none) :
    ∃ text, (environment = some text ∨ text = config.logFilter) ∧
      ∃ directive ∈ pieces text, Splits directive := by
  unfold inForce at h
  split at h
  case h_1 => cases h
  case h_2 htried =>
    obtain ⟨text, rfl, hparse⟩ := Option.map_eq_some_iff.1 htried
    exact ⟨text, .inl rfl, of_parse_split hparse⟩
  -- what cannot be read is passed over like what is not there
  case h_3 | h_4 =>
    split at h
    case h_1 => cases h
    case h_2 hparse => exact ⟨config.logFilter, .inr rfl, of_parse_split hparse⟩
    case h_3 => cases h

theorem mem_of_mem_splitOn {sep c : Char} {cs piece : List Char}
    (hpiece : piece ∈ cs.splitOn sep) (hc : c ∈ piece) : c ∈ cs := by
  induction cs generalizing piece with
  | nil =>
      obtain rfl : piece = [] := by simpa using hpiece
      cases hc
  | cons d cs ih =>
      rw [List.splitOn_cons_eq_if_modifyHead] at hpiece
      split_ifs at hpiece with hsep
      · rcases List.mem_cons.1 hpiece with rfl | hrest
        · cases hc
        · exact List.mem_cons_of_mem _ (ih hrest hc)
      · obtain ⟨first, rest, hsplit⟩ :=
          List.exists_cons_of_ne_nil (List.splitOn_ne_nil sep cs)
        rw [hsplit] at hpiece ih
        rcases List.mem_cons.1 hpiece with rfl | hrest
        · rcases List.mem_cons.1 hc with rfl | hc
          · exact List.mem_cons_self
          · exact List.mem_cons_of_mem _ (ih List.mem_cons_self hc)
        · exact List.mem_cons_of_mem _
            (ih (List.mem_cons_of_mem _ hrest) hc)

/-- With texts of narrow characters there is always a filter in force. -/
theorem isSome_inForce {environment : Option String} {config : Config}
    (hnarrow : ∀ text, environment = some text ∨ text = config.logFilter →
      ∀ c ∈ text.toList, c.utf8Size = 1) :
    (inForce environment config).isSome := by
  rw [Option.isSome_iff_ne_none]
  intro hnone
  obtain ⟨text, htried, directive, hmem, -, c, hc, hwide⟩ :=
    of_inForce_none hnone
  exact hwide
    (hnarrow text htried c (mem_of_mem_splitOn (List.mem_filter.1 hmem).1 hc))

end Filter
end Invocation
