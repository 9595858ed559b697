import Proximity.Proofs.Agreement
import Proximity.Telemetry
import Proximity.Tuning

/-!
# Numbers in their ranges

Three numbers can be asked for through the environment: two durations, which are read in integer
mode, and the share of traces that are sampled, which is read in decimal mode. Anything may stand in
the variables – a sign, an exponent, digits without end, no digits at all. What comes of it is a
finite number in its range all the same:

| the trimmed text begins with | what comes of it |
|---|---|
| no number, or one that is too great to be finite | the default |
| a number below the range | the lower end |
| a number in the range | the nearest number; in integer mode the integer itself |
| a number above the range | the upper end |

What is read is rounded first and brought into the range then, so a bound must not be lost in
between. It is not: bringing into a range is a matter of the rationals that numbers are
(`Proximity.Number.toRat?_clamp`), and an integer range that a number has room for is not reached by
rounding from outside, nor left from inside (`Proximity.Numeral.clamp_signed`). The table as a
statement is `Proximity.Setting.Configures`, with `Proximity.Setting.ConfiguresInteger` for integer
mode; the three numbers are three cases of it (`Proximity.configured_in_range`).
-/

namespace Proximity

open Number

/-! ### Bringing a number into a range -/

namespace Number

variable {x low high : Number} {q a b : ℚ}

theorem isFinite_of_toRat? (hx : x.toRat? = some q) : x.isFinite = true := by
  rw [isFinite_eq_isSome, hx, Option.isSome_some]

/-- **What is outside a range is moved to the end that is nearer**, and what is inside stays. -/
theorem toRat?_clamp (hx : x.toRat? = some q) (hl : low.toRat? = some a) (hh : high.toRat? = some b)
    (ordered : a ≤ b) : (x.clamp low high).toRat? = some (max a (min q b)) := by
  rw [clamp, isFinite_of_toRat? hx, if_neg (by decide)]
  by_cases small : q < a
  · rw [if_pos ((lt_iff_toRat hx hl).mpr small), hl, max_eq_left ((min_le_left q b).trans small.le)]
  rw [if_neg (mt (lt_iff_toRat hx hl).mp small)]
  by_cases great : b < q
  · rw [if_pos ((lt_iff_toRat hh hx).mpr great), hh, min_eq_right great.le, max_eq_right ordered]
  · rw [if_neg (mt (lt_iff_toRat hh hx).mp great), hx, min_eq_left (not_lt.mp great),
      max_eq_right (not_lt.mp small)]

end Number

/-! ### What a numeral says -/

namespace Numeral

variable (n : Numeral)

/-- What a numeral says in a grammar, its sign apart. -/
def said : Setting.Grammar → ℚ
  | .whole => n.natural
  | .decimal => n.size

/-- A magnitude with the sign of a numeral. -/
def signed (q : ℚ) : ℚ := if n.negative then -q else q

/-- The integer that a numeral begins with. -/
def integer : Int := if n.negative then -n.natural else n.natural

theorem signed_natural : n.signed n.natural = n.integer := by
  rw [signed, integer]
  split
  · rw [Int.cast_neg, Int.cast_natCast]
  · rw [Int.cast_natCast]

/-- **Rounding does not show in a range that a number has room for.** An integer in it is not
rounded, and one outside stays outside. -/
theorem clamp_signed {r : ℚ} (rounds : Rounds n.natural r) {low high : Int}
    (least : -2 ^ 53 ≤ low) (most : high ≤ 2 ^ 53) (ordered : low ≤ high) :
    max (low : ℚ) (min (n.signed r) high) = (max low (min n.integer high) : Int) := by
  rw [Int.cast_max, Int.cast_min]
  rcases le_or_gt n.natural (2 ^ 53) with room | far
  · rw [rounds.eq_natCast room, signed_natural]
  have far' : ((2 ^ 53 : Nat) : ℚ) ≤ n.natural := Nat.cast_le.mpr far.le
  have reached : ((2 ^ 53 : Nat) : ℚ) ≤ r := rounds.least _ (.natCast le_rfl) far'
  have lower : -((2 ^ 53 : Nat) : ℚ) ≤ low := by exact_mod_cast least
  have upper : (high : ℚ) ≤ (2 ^ 53 : Nat) := by exact_mod_cast most
  have ordered' : (low : ℚ) ≤ high := Int.cast_le.mpr ordered
  rw [← signed_natural, signed, signed]
  split
  · -- Below the range, with and without rounding.
    have below {q : ℚ} (h : ((2 ^ 53 : Nat) : ℚ) ≤ q) : max (low : ℚ) (min (-q) high) = low :=
      max_eq_left ((min_le_left _ _).trans ((neg_le_neg h).trans lower))
    rw [below reached, below far']
  · -- Above it.
    rw [min_eq_right (upper.trans reached), min_eq_right (upper.trans far')]

end Numeral

/-! ### What comes of a setting -/

namespace Setting

variable {grammar : Grammar} {text : String} {setting : Option String} {x : Number}

/-- **A text is read as what its numeral says**, rounded, with its sign. -/
theorem exists_rounds_of_finite? (h : finite? grammar text = some x) :
    ∃ r, Rounds ((Numeral.ofText text).said grammar) r
      ∧ x.toRat? = some ((Numeral.ofText text).signed r) := by
  cases grammar with
  | whole =>
    rw [Numeral.finite?_whole, Option.map_eq_some_iff] at h
    obtain ⟨r, read, rfl⟩ := h
    exact ⟨r, Numeral.rounds_of_whole? read, toRat?_withSign _ r⟩
  | decimal =>
    rw [Numeral.finite?_decimal, Option.map_eq_some_iff] at h
    obtain ⟨r, read, rfl⟩ := h
    exact ⟨r, Numeral.rounds_of_decimal? read, toRat?_withSign _ r⟩

/-- **What comes of a setting** that asks for a number, where there are a range and a default. -/
structure Configures (setting : Option String) (grammar : Grammar) (low high : ℚ)
    (default x : Number) : Prop where
  /-- It is neither infinite nor no number at all. -/
  finite : x.isFinite = true
  /-- It is in the range. -/
  inRange : ∃ q, x.toRat? = some q ∧ low ≤ q ∧ q ≤ high
  /-- The default stays in place when no finite number can be read, or when there is no text. -/
  silent : (∀ text ∈ setting, finite? grammar text = none) → x = default
  /-- Otherwise it is what is asked for, rounded and brought into the range. -/
  asked : ∀ text ∈ setting, finite? grammar text ≠ none →
    ∃ r, Rounds ((Numeral.ofText text).said grammar) r
      ∧ x.toRat? = some (max low (min ((Numeral.ofText text).signed r) high))

/-- **What comes of a setting in integer mode**: an integer, and just the one that is asked for if
that is in the range. -/
structure ConfiguresInteger (setting : Option String) (low high : Int) (default x : Number) : Prop
    extends Configures setting .whole low high default x where
  /-- It is an integer. -/
  whole : x.IsWhole
  /-- It is the integer that is asked for, brought into the range, and not rounded. -/
  exact : ∀ text ∈ setting, finite? .whole text ≠ none →
    x.toRat? = some ((max low (min (Numeral.ofText text).integer high) : Int) : ℚ)

theorem number?_eq_map (grammar : Grammar) (low high : Number) (setting : Option String) :
    number? grammar low high setting
      = (setting.bind (finite? grammar)).map fun x => x.clamp low high := by
  cases setting <;> rfl

/-- **A setting configures a number in its range**, if the default is in the range. -/
theorem configures_number? (setting : Option String) {low high default : Number} {a b d : ℚ}
    (hl : low.toRat? = some a) (hh : high.toRat? = some b) (hd : default.toRat? = some d)
    (least : a ≤ d) (most : d ≤ b) :
    Configures setting grammar a b default ((number? grammar low high setting).getD default) := by
  rw [number?_eq_map]
  cases read : setting.bind (finite? grammar) with
  | none =>
    have nothing := Option.bind_eq_none_iff.mp read
    exact
      { finite := isFinite_of_toRat? hd
        inRange := ⟨d, hd, least, most⟩
        silent := fun _ => rfl
        asked := fun text member something => absurd (nothing text member) something }
  | some x =>
    obtain ⟨text, rfl, found⟩ := Option.bind_eq_some_iff.mp read
    obtain ⟨r, rounds, value⟩ := exists_rounds_of_finite? found
    have ordered := least.trans most
    have moved := toRat?_clamp value hl hh ordered
    exact
      { finite := isFinite_of_toRat? moved
        inRange := ⟨_, moved, le_max_left _ _, max_le ordered (min_le_right _ _)⟩
        silent := fun nothing => by
          rw [nothing text rfl] at found
          cases found
        asked := fun other member _ => by
          obtain rfl := Option.some.inj member
          exact ⟨r, rounds, moved⟩ }

/-- **What is in an integer range is an integer in integer mode**, if the default is one and a
number has room for the range. -/
theorem Configures.integer {low high : Int} {default : Number}
    (h : Configures setting .whole low high default x) (hd : default.IsWhole)
    (least : -2 ^ 53 ≤ low) (most : high ≤ 2 ^ 53) (ordered : low ≤ high) :
    ConfiguresInteger setting low high default x := by
  have exact : ∀ text ∈ setting, finite? .whole text ≠ none →
      x.toRat? = some ((max low (min (Numeral.ofText text).integer high) : Int) : ℚ) := by
    intro text member something
    obtain ⟨r, rounds, value⟩ := h.asked text member something
    rw [value, Numeral.clamp_signed _ rounds least most ordered]
  refine { h with whole := ?_, exact }
  by_cases nothing : ∀ text ∈ setting, finite? .whole text = none
  · rw [h.silent nothing]
    exact hd
  · obtain ⟨text, member, something⟩ := by simpa only [not_forall] using nothing
    exact ⟨_, exact text member something⟩

end Setting

open Setting

/-- **No environment configures a number that is out of its range.** A duration that the caller
leaves open is an integer between one (for a check, zero) and 600000, and the share of traces that
are sampled is between zero and one. None of them is infinite or no number at all. Each is what its
variable asks for, brought into the range, or the default where no finite number can be read from
the trimmed text: because there are no digits where a number should begin, or because they make too
great a number. -/
theorem configured_in_range (env : Environment) (choice : Tuning.Choice) :
    ∃ tuning, Tuning.grant env (.choice choice) = .ok tuning
      ∧ (choice.recheckDelay = none →
        ConfiguresInteger (env.get? "PROXIMITY_SECONDARY_PING_INTERVAL_MS") 1 600000 5000
          tuning.recheckDelay)
      ∧ (choice.patience = none →
        ConfiguresInteger (env.get? "PROXIMITY_CHECK_TIMEOUT_MS") 0 600000 1000 tuning.patience)
      ∧ Configures (env.get? "SENTRY_TRACES_SAMPLE_RATE") .decimal 0 1 Telemetry.defaultSampleRate
        (Telemetry.resolve env).tracking.sampleRate
      ∧ ∀ grammar text,
        finite? grammar text = none ↔ (Numeral.ofText text).Illegible grammar := by
  refine ⟨Tuning.resolve env choice, rfl, fun free => ?_, fun free => ?_, ?_,
    Numeral.finite?_eq_none_iff⟩
  · have value : (Tuning.resolve env choice).recheckDelay = (number? .whole 1 600000
        (env.get? "PROXIMITY_SECONDARY_PING_INTERVAL_MS")).getD 5000 := by
      rw [Tuning.resolve, free]
      rfl
    rw [value]
    refine (configures_number? _ rfl rfl rfl ?_ ?_).integer ⟨5000, rfl⟩ ?_ ?_ ?_ <;> norm_num
  · have value : (Tuning.resolve env choice).patience = (number? .whole 0 600000
        (env.get? "PROXIMITY_CHECK_TIMEOUT_MS")).getD 1000 := by
      rw [Tuning.resolve, free]
      rfl
    rw [value]
    refine (configures_number? _ rfl rfl rfl ?_ ?_).integer ⟨1000, rfl⟩ ?_ ?_ ?_ <;> norm_num
  · exact configures_number? _ rfl rfl rfl (by decide +kernel) (by decide +kernel)

/-- Variables that ask for too little, for too much, and for nothing finite. -/
def Environment.strained : Environment where
  entries := [("PROXIMITY_SECONDARY_PING_INTERVAL_MS", "-2.5e9 s"),
    ("PROXIMITY_CHECK_TIMEOUT_MS", "\u00a0600001.5\n"),
    ("SENTRY_TRACES_SAMPLE_RATE", "1e999")]

theorem configured_in_range_strained :
    ∃ tuning, Tuning.grant .strained (.choice {}) = .ok tuning
      ∧ tuning.recheckDelay.toRat? = some 1 ∧ tuning.patience.toRat? = some 600000
      ∧ (Telemetry.resolve .strained).tracking.sampleRate = Telemetry.defaultSampleRate := by
  obtain ⟨tuning, granted, recheck, patience, rate, -⟩ := configured_in_range .strained {}
  have little := (recheck rfl).exact "-2.5e9 s" (by decide +kernel) (by decide +kernel)
  have much := (patience rfl).exact "\u00a0600001.5\n" (by decide +kernel) (by decide +kernel)
  refine ⟨tuning, granted, little.trans (by decide +kernel), much.trans (by decide +kernel), ?_⟩
  refine rate.silent fun text member => ?_
  have infinite : Environment.strained.get? "SENTRY_TRACES_SAMPLE_RATE" = some "1e999" := by
    decide +kernel
  obtain rfl := Option.some.inj (infinite.symm.trans member)
  decide +kernel

end Proximity
