import DocumentQuery.Pattern.Basic

/-!
# What a pattern matches

A pattern relates the places in which a match can begin to those in which it can end. The relation
follows the pattern: a sequence is a composition, alternatives are a union, and a repetition is an
iteration of some number of times between its bounds. The matcher computes the places of this
relation. It does so for unbounded repetitions as well, because a step that takes no character
leads to its own place and can be left out, so more steps than there are characters reach nothing
new.
-/

namespace DocumentQuery.Pattern

/-- A number of steps of a relation between places, one after the other. -/
inductive Steps (step : Place → Place → Prop) : Nat → Place → Place → Prop where
  | none (place : Place) : Steps step 0 place place
  | next {count : Nat} {start middle finish : Place} (first : step start middle)
      (others : Steps step count middle finish) : Steps step (count + 1) start finish

/-- Whether one character of a kind leads from a place to another. -/
def Passes (accepts : Char → Bool) (start finish : Place) : Prop :=
  ∃ char, accepts char = true ∧ start.2 = char :: finish.2 ∧ finish.1 = some char

/-- Whether a match of a pattern can begin in a place and end in another. -/
def Leads : Options → Pattern → Place → Place → Prop
  | _, .empty, start, finish => finish = start
  | options, .literal wanted, start, finish => Passes (options.sameChar wanted) start finish
  | options, .anyChar, start, finish => Passes options.matchesDot start finish
  | options, .oneOf set, start, finish =>
    Passes (set.contains options.ignoreCase) start finish
  | options, .assertion kind, start, finish => kind.holds options start = true ∧ finish = start
  | options, .sequence first second, start, finish =>
    ∃ middle, Leads options first start middle ∧ Leads options second middle finish
  | options, .either first second, start, finish =>
    Leads options first start finish ∨ Leads options second start finish
  | options, .repeated pattern least most, start, finish =>
    ∃ count, least ≤ count ∧ (∀ bound ∈ most, count ≤ max least bound) ∧
      Steps (Leads options pattern) count start finish
  | options, .under flags pattern, start, finish => Leads (flags.apply options) pattern start finish

section Iteration

variable {step : Place → Place → Prop} {start finish : Place}

/-- Steps in two parts are the steps of both, with some place between them. -/
theorem steps_add_iff (first second : Nat) :
    Steps step (first + second) start finish ↔
      ∃ middle, Steps step first start middle ∧ Steps step second middle finish := by
  induction first generalizing start with
  | zero =>
    rw [Nat.zero_add]
    constructor
    · exact fun all => ⟨start, .none start, all⟩
    · rintro ⟨middle, none, all⟩
      cases none
      exact all
  | succ first inductionHypothesis =>
    rw [Nat.succ_add]
    constructor
    · rintro (_ | ⟨head, others⟩)
      obtain ⟨middle, front, back⟩ := inductionHypothesis.mp others
      exact ⟨middle, .next head front, back⟩
    · rintro ⟨middle, _ | ⟨head, front⟩, back⟩
      exact .next head (inductionHypothesis.mpr ⟨middle, front, back⟩)

/-- Whether a relation leads nowhere but to its own place unless it takes characters. -/
def Advances (step : Place → Place → Prop) : Prop :=
  ∀ start finish, step start finish → finish = start ∨ finish.2.length < start.2.length

/-- Steps that advance leave no more characters than there were. -/
theorem Steps.length_le (advances : Advances step) {count : Nat}
    (steps : Steps step count start finish) : finish.2.length ≤ start.2.length := by
  induction steps with
  | none => exact Nat.le_refl _
  | next first _ inductionHypothesis =>
    rcases advances _ _ first with same | fewer
    · exact same ▸ inductionHypothesis
    · exact Nat.le_trans inductionHypothesis (Nat.le_of_lt fewer)

/-- Steps that advance, taken together, advance. -/
theorem Steps.advances (advances : Advances step) {count : Nat}
    (steps : Steps step count start finish) :
    finish = start ∨ finish.2.length < start.2.length := by
  induction steps with
  | none => exact .inl rfl
  | next first others inductionHypothesis =>
    rcases advances _ _ first with rfl | shorter
    · exact inductionHypothesis
    · exact .inr (Nat.lt_of_le_of_lt (others.length_le advances) shorter)

/-- Steps that advance can be taken in no more steps than there are characters: those that stay
where they are are left out. -/
theorem Steps.shorten (advances : Advances step) {count : Nat}
    (steps : Steps step count start finish) :
    ∃ fewer, fewer ≤ count ∧ fewer ≤ start.2.length ∧ Steps step fewer start finish := by
  induction steps with
  | none place => exact ⟨0, Nat.le_refl _, Nat.zero_le _, .none place⟩
  | next first _ inductionHypothesis =>
    obtain ⟨fewer, least, bounded, others⟩ := inductionHypothesis
    rcases advances _ _ first with same | shorter
    · exact ⟨fewer, Nat.le_succ_of_le least, same ▸ bounded, same ▸ others⟩
    · exact ⟨fewer + 1, Nat.succ_le_succ least, Nat.lt_of_le_of_lt bounded shorter,
        .next first others⟩

end Iteration

section Computation

variable {step : Place → List Place} {relation : Place → Place → Prop} {start finish : Place}
  (computed : ∀ start finish, finish ∈ step start ↔ relation start finish)

include computed

/-- The places behind a first step and any more of a number. -/
theorem exists_next_iff (count : Nat) (places : List Place) :
    (∃ start ∈ (places.flatMap step).eraseDups, Steps relation count start finish) ↔
      ∃ start ∈ places, Steps relation (count + 1) start finish := by
  simp only [List.mem_eraseDups, List.mem_flatMap, computed]
  constructor
  · rintro ⟨middle, ⟨start, listed, first⟩, others⟩
    exact ⟨start, listed, .next first others⟩
  · rintro ⟨start, listed, _ | ⟨first, others⟩⟩
    exact ⟨_, ⟨start, listed, first⟩, others⟩

/-- The places that are computed for a number of steps are those that the steps lead to. The
computation stops early where no place is left, and from there no step leads anywhere. -/
theorem mem_afterSteps (count : Nat) (places : List Place) :
    finish ∈ afterSteps step count places ↔
      ∃ start ∈ places, Steps relation count start finish := by
  induction count generalizing places with
  | zero =>
    have stays : finish ∈ afterSteps step 0 places ↔ finish ∈ places := by
      cases places <;> simp [afterSteps]
    rw [stays]
    constructor
    · exact fun listed => ⟨finish, listed, .none finish⟩
    · rintro ⟨start, listed, ⟨⟩⟩
      exact listed
  | succ count inductionHypothesis =>
    rw [← exists_next_iff computed count places, ← inductionHypothesis]
    cases places <;> simp [afterSteps]

/-- The places that are computed for up to a number of steps are those that so many steps or fewer
lead to. -/
theorem mem_upToSteps (count : Nat) (places : List Place) :
    finish ∈ upToSteps step count places ↔
      ∃ start ∈ places, ∃ taken, taken ≤ count ∧ Steps relation taken start finish := by
  induction count generalizing places with
  | zero =>
    have stays : finish ∈ upToSteps step 0 places ↔ finish ∈ places := by
      cases places <;> simp [upToSteps]
    rw [stays]
    constructor
    · exact fun listed => ⟨finish, listed, 0, Nat.le_refl _, .none finish⟩
    · rintro ⟨start, listed, taken, none, steps⟩
      obtain rfl := Nat.le_zero.mp none
      cases steps
      exact listed
  | succ count inductionHypothesis =>
    have either : finish ∈ upToSteps step (count + 1) places ↔ finish ∈ places ∨
        finish ∈ upToSteps step count (places.flatMap step).eraseDups := by
      cases places with
      | nil => cases count <;> simp [upToSteps]
      | cons => simp [upToSteps, or_assoc]
    rw [either, inductionHypothesis]
    constructor
    · rintro (listed | ⟨middle, listed, taken, bounded, steps⟩)
      · exact ⟨finish, listed, 0, Nat.zero_le _, .none finish⟩
      · obtain ⟨start, present, steps⟩ :=
          (exists_next_iff computed taken places).mp ⟨middle, listed, steps⟩
        exact ⟨start, present, taken + 1, Nat.succ_le_succ bounded, steps⟩
    · rintro ⟨start, present, taken, bounded, steps⟩
      cases taken with
      | zero =>
        cases steps
        exact .inl present
      | succ taken =>
        obtain ⟨middle, listed, others⟩ :=
          (exists_next_iff computed taken places).mpr ⟨start, present, steps⟩
        exact .inr ⟨middle, listed, taken, Nat.le_of_succ_le_succ bounded, others⟩

/-- The places that are computed for a repetition are those that a number of steps between its
bounds leads to. Without an upper bound the computation goes on for as many steps as there are
characters, which is enough because steps that take none can be left out. -/
theorem mem_between (advances : Advances relation) (least : Nat) (most : Option Nat) :
    finish ∈ between step least most start ↔
      ∃ count, least ≤ count ∧ (∀ bound ∈ most, count ≤ max least bound) ∧
        Steps relation count start finish := by
  simp only [between, mem_upToSteps computed, mem_afterSteps computed, List.mem_singleton,
    exists_eq_left]
  constructor
  · rintro ⟨middle, front, taken, bounded, back⟩
    refine ⟨least + taken, Nat.le_add_right _ _, ?_, (steps_add_iff _ _).mpr ⟨middle, front, back⟩⟩
    rintro bound rfl
    simp only [Option.map_some, Option.getD_some] at bounded
    omega
  · rintro ⟨count, enough, bounded, steps⟩
    obtain ⟨others, rfl⟩ := Nat.exists_eq_add_of_le enough
    obtain ⟨middle, front, back⟩ := (steps_add_iff _ _).mp steps
    obtain ⟨fewer, fewest, characters, short⟩ := back.shorten advances
    refine ⟨middle, front, fewer, ?_, short⟩
    cases most with
    | none => exact Nat.le_trans characters (front.length_le advances)
    | some bound =>
      have most := bounded bound rfl
      simp only [Option.map_some, Option.getD_some]
      omega

end Computation

/-- The place behind a character is computed if the character is accepted. -/
theorem mem_pass (accepts : Char → Bool) (start finish : Place) :
    finish ∈ pass accepts start ↔ Passes accepts start finish := by
  obtain ⟨before, text⟩ := start
  obtain ⟨last, rest⟩ := finish
  cases text with
  | nil => simp [pass, Passes]
  | cons char text =>
    cases accepted : accepts char with
    | true =>
      simp only [pass, accepted, if_true, List.mem_singleton, Passes]
      constructor
      · rintro ⟨⟩
        exact ⟨char, accepted, rfl, rfl⟩
      · rintro ⟨other, _, taken, rfl⟩
        obtain ⟨rfl, rfl⟩ := List.cons.inj taken
        rfl
    | false =>
      simp only [pass, accepted, Bool.false_eq_true, if_false, List.not_mem_nil, Passes,
        List.cons.injEq, false_iff, not_exists, not_and, and_imp]
      rintro other yes rfl
      simp [accepted] at yes

/-- A character that is passed is taken. -/
theorem Passes.shorter {accepts : Char → Bool} {start finish : Place}
    (passes : Passes accepts start finish) : finish.2.length < start.2.length := by
  obtain ⟨char, _, taken, _⟩ := passes
  simp [taken]

/-- A match that takes no character ends where it begins. By induction on the pattern: characters
are taken one at a time, and assertions stay in place. -/
theorem leads_advances (options : Options) (pattern : Pattern) :
    Advances (Leads options pattern) := by
  induction pattern generalizing options with
  | empty => exact fun start finish same => .inl same
  | literal | anyChar | oneOf => exact fun start finish passes => .inr passes.shorter
  | assertion => exact fun start finish holds => .inl holds.2
  | sequence first second firstHypothesis secondHypothesis =>
    rintro start finish ⟨middle, front, back⟩
    rcases firstHypothesis options _ _ front with rfl | shorter
    · exact secondHypothesis options _ _ back
    · rcases secondHypothesis options _ _ back with rfl | further
      · exact .inr shorter
      · exact .inr (Nat.lt_trans further shorter)
  | either first second firstHypothesis secondHypothesis =>
    rintro start finish (leads | leads)
    · exact firstHypothesis options _ _ leads
    · exact secondHypothesis options _ _ leads
  | repeated pattern least most inductionHypothesis =>
    rintro start finish ⟨count, _, _, steps⟩
    exact steps.advances (inductionHypothesis options)
  | under flags pattern inductionHypothesis => exact inductionHypothesis (flags.apply options)

/-- The places that are computed for a pattern are exactly those in which a match of it can end.

Proof: by induction on the pattern, along its relation. For a repetition the computed places are
those of the steps between its bounds by `mem_between`, which needs of the repeated pattern that
it advances. -/
theorem mem_ends_iff (options : Options) (pattern : Pattern) (start finish : Place) :
    finish ∈ ends options pattern start ↔ Leads options pattern start finish := by
  induction pattern generalizing options start finish with
  | empty => simp [ends, Leads]
  | literal | anyChar | oneOf => exact mem_pass _ start finish
  | assertion kind => cases holds : kind.holds options start <;> simp [ends, Leads, holds]
  | sequence first second firstHypothesis secondHypothesis =>
    simp [ends, Leads, firstHypothesis, secondHypothesis]
  | either first second firstHypothesis secondHypothesis =>
    simp [ends, Leads, firstHypothesis, secondHypothesis]
  | repeated pattern least most inductionHypothesis =>
    exact mem_between (inductionHypothesis options) (leads_advances options pattern) least most
  | under flags pattern inductionHypothesis => exact inductionHypothesis (flags.apply options) _ _

/-- The last character before a place is that of what was passed last. -/
theorem getLast_cons_or (char : Char) (text : List Char) (before : Option Char) :
    (char :: text).getLast?.or before = text.getLast?.or (some char) := by
  cases text <;> simp [List.getLast?_cons]

/-- A pattern is found from a place on if it matches behind some front of the text there. The search
tries this place and then the next one, with the character that it passed before it. -/
theorem foundFrom_iff (options : Options) (pattern : Pattern) (before : Option Char)
    (text : List Char) :
    foundFrom options pattern before text = true ↔
      ∃ front back finish, text = front ++ back ∧
        Leads options pattern (front.getLast?.or before, back) finish := by
  have here (start : Place) : (!(ends options pattern start).isEmpty) = true ↔
      ∃ finish, Leads options pattern start finish := by
    simp [← mem_ends_iff, List.eq_nil_iff_forall_not_mem]
  induction text generalizing before with
  | nil =>
    rw [foundFrom, here]
    constructor
    · exact fun ⟨finish, leads⟩ => ⟨[], [], finish, rfl, leads⟩
    · rintro ⟨front, back, finish, division, leads⟩
      obtain ⟨rfl, rfl⟩ := List.append_eq_nil_iff.mp division.symm
      exact ⟨finish, leads⟩
  | cons char text inductionHypothesis =>
    rw [foundFrom, Bool.or_eq_true, here]
    refine (or_congr_right (inductionHypothesis (some char))).trans ?_
    constructor
    · rintro (⟨finish, leads⟩ | ⟨front, back, finish, rfl, leads⟩)
      · exact ⟨[], char :: text, finish, rfl, leads⟩
      · exact ⟨char :: front, back, finish, rfl, by rwa [getLast_cons_or]⟩
    · rintro ⟨front, back, finish, division, leads⟩
      cases front with
      | nil =>
        rw [List.nil_append] at division
        subst division
        exact .inl ⟨finish, leads⟩
      | cons first front =>
        obtain ⟨rfl, rfl⟩ := List.cons.inj division
        rw [getLast_cons_or] at leads
        exact .inr ⟨front, back, finish, rfl, leads⟩

/-- A pattern is found in a text exactly if a match of it begins somewhere in the text. -/
theorem found_iff (options : Options) (pattern : Pattern) (text : String) :
    found options pattern text = true ↔
      ∃ front back finish, text.toList = front ++ back ∧
        Leads options pattern (front.getLast?, back) finish := by
  simpa [found] using foundFrom_iff options pattern none text.toList

end DocumentQuery.Pattern
