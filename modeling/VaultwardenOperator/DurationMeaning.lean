import VaultwardenOperator.DurationGrammar
import Mathlib.Algebra.Order.BigOperators.Group.List
import Mathlib.Algebra.Order.Ring.Nat

/-!
# What a duration string means

A string of terms means the sum of its numbers times its units. The parser keeps
whole seconds, term by term: a term below the second adds nothing, minutes and
hours are taken modulo 2^64 seconds, and the total stops at 2^64 - 1 seconds, which
is less than the largest `Duration`. So the value is the meaning exactly when the
terms below the second count zero and the seconds of the others fit 64 bits.
-/

namespace VaultwardenOperator.DurationMeaning

open Rust Duration DurationGrammar

variable (unicode : UnicodeTables)

/-- The length of a unit in nanoseconds. -/
def unitNs : DurationUnit → Nat
  | .ns => 1
  | .us => 10 ^ 3
  | .ms => 10 ^ 6
  | .s => 10 ^ 9
  | .m => 60 * 10 ^ 9
  | .h => 3600 * 10 ^ 9

/-- Whole seconds in a unit; none in those below the second. -/
def unitSeconds : DurationUnit → Nat
  | .ns => 0
  | .us => 0
  | .ms => 0
  | .s => 1
  | .m => 60
  | .h => 3600

def termNs (term : Term) : Nat := digitsValue term.digits * unitNs term.unit

def wholeSeconds (term : Term) : Nat := digitsValue term.digits * unitSeconds term.unit

/-- The sum that a string of terms means. -/
def meaning (terms : List Term) : Nat := (terms.map termNs).sum

/-- `Duration::MAX`: 64-bit seconds and one nanosecond less than a second. -/
def maxDuration : Nat := (2 ^ 64 - 1) * 10 ^ 9 + 999999999

/-- A sum that a duration can hold is returned; one that it cannot hold is an error
or the largest duration. -/
def Represents (result : Call String Nat) (sum : Nat) : Prop :=
  if sum ≤ maxDuration then result = .ok sum
  else (∃ error, result = .error (.err error)) ∨ result = .ok maxDuration

/-- The value of a string of terms is their sum, whatever their order, and the sum
of the values of its parts. -/
structure Means (text : String) (terms : List Term) : Prop where
  value : Represents (parseDuration unicode text) (meaning terms)
  reordered : ∀ other others, Spells other others → others.Perm terms →
    (parseDuration unicode other).toOption = (parseDuration unicode text).toOption
  parts : meaning terms ≤ maxDuration → ∀ left right leftTerms rightTerms,
    Spells left leftTerms → Spells right rightTerms → terms = leftTerms ++ rightTerms →
      ∃ leftNs rightNs, parseDuration unicode left = .ok leftNs ∧
        parseDuration unicode right = .ok rightNs ∧
        parseDuration unicode text = .ok (leftNs + rightNs)

/-- Terms below the second count zero, and the seconds of the others together fit
64 bits. -/
structure WholeTerms (terms : List Term) : Prop where
  zero : ∀ term ∈ terms, unitSeconds term.unit = 0 → digitsValue term.digits = 0
  fits : (terms.map wholeSeconds).sum < 2 ^ 64

/-! ## The total of the loop -/

/-- The loop adds a term's seconds modulo 2^64. -/
theorem term_seconds_mod (term : Term) : termSeconds term = wholeSeconds term % 2 ^ 64 := by
  have fits := term.fits
  rw [termSeconds, wholeSeconds]
  cases term.unit <;> simp only [DurationUnit.seconds, unitSeconds] <;> omega

/-- Saturating additions in a row are one saturating addition of the sum. -/
theorem accumulate_min (totalSecs : Nat) (terms : List Term) (bounded : totalSecs ≤ 2 ^ 64 - 1) :
    accumulate totalSecs terms =
      min (totalSecs + (terms.map termSeconds).sum) (2 ^ 64 - 1) := by
  induction terms generalizing totalSecs with
  | nil =>
    simp only [accumulate, List.foldl_nil, List.map_nil, List.sum_nil]
    omega
  | cons term rest inductionHypothesis =>
    have next : saturatingAdd totalSecs (termSeconds term) ≤ 2 ^ 64 - 1 := by
      rw [saturatingAdd]
      omega
    have step : accumulate totalSecs (term :: rest) =
        accumulate (saturatingAdd totalSecs (termSeconds term)) rest := rfl
    rw [step, inductionHypothesis _ next, saturatingAdd, List.map_cons, List.sum_cons]
    omega

/-- The total never exceeds the seconds of the terms, nor 64 bits. -/
theorem accumulate_le (terms : List Term) :
    accumulate 0 terms ≤ (terms.map wholeSeconds).sum ∧ accumulate 0 terms ≤ 2 ^ 64 - 1 := by
  have pointwise : (terms.map termSeconds).sum ≤ (terms.map wholeSeconds).sum := by
    apply List.sum_le_sum
    intro term member
    rw [term_seconds_mod]
    exact Nat.mod_le _ _
  rw [accumulate_min 0 terms (Nat.zero_le _)]
  omega

/-- When the seconds fit, no multiplication wraps and no addition saturates. -/
theorem accumulate_exact (terms : List Term) (fits : (terms.map wholeSeconds).sum < 2 ^ 64) :
    accumulate 0 terms = (terms.map wholeSeconds).sum := by
  have unwrapped : terms.map termSeconds = terms.map wholeSeconds := by
    apply List.map_congr_left
    intro term member
    have part : wholeSeconds term ≤ (terms.map wholeSeconds).sum :=
      List.single_le_sum (by simp) _ (List.mem_map_of_mem member)
    rw [term_seconds_mod]
    exact Nat.mod_eq_of_lt (by omega)
  rw [accumulate_min 0 terms (Nat.zero_le _), unwrapped]
  omega

/-! ## The meaning in whole seconds and the rest -/

/-- Nanoseconds of a term below the second. -/
def subsecondNs (term : Term) : Nat := if unitSeconds term.unit = 0 then termNs term else 0

theorem subsecond_zero_iff (term : Term) :
    subsecondNs term = 0 ↔ (unitSeconds term.unit = 0 → digitsValue term.digits = 0) := by
  have positive : unitNs term.unit ≠ 0 := by cases term.unit <;> decide
  by_cases below : unitSeconds term.unit = 0
  · simp [subsecondNs, below, termNs, positive]
  · simp [subsecondNs, below]

theorem term_ns_split (term : Term) :
    termNs term = wholeSeconds term * 10 ^ 9 + subsecondNs term := by
  rw [subsecondNs, termNs, wholeSeconds]
  cases term.unit <;> simp only [unitNs, unitSeconds] <;> simp <;> omega

theorem meaning_split (terms : List Term) :
    meaning terms =
      (terms.map wholeSeconds).sum * 10 ^ 9 + (terms.map subsecondNs).sum := by
  induction terms with
  | nil => rfl
  | cons term rest inductionHypothesis =>
    have head := term_ns_split term
    simp only [meaning, List.map_cons, List.sum_cons] at inductionHypothesis ⊢
    omega

/-- Terms below the second count zero exactly when they add no nanoseconds. -/
theorem subseconds_zero_iff (terms : List Term) :
    (terms.map subsecondNs).sum = 0 ↔
      ∀ term ∈ terms, unitSeconds term.unit = 0 → digitsValue term.digits = 0 := by
  rw [List.sum_eq_zero_iff, List.forall_mem_map]
  constructor
  · intro none term member
    exact (subsecond_zero_iff term).mp (none term member)
  · intro zero term member
    exact (subsecond_zero_iff term).mpr (zero term member)

/-- Such terms have the value that they mean. -/
theorem whole_value (text : String) (terms : List Term) (spelled : Spells text terms)
    (whole : WholeTerms terms) : parseDuration unicode text = .ok (meaning terms) := by
  have none : (terms.map subsecondNs).sum = 0 := (subseconds_zero_iff terms).mpr whole.zero
  rw [duration_spelled unicode text terms spelled, accumulate_exact terms whole.fits,
    meaning_split, none, Nat.add_zero]

theorem whole_meaning_le (terms : List Term) (whole : WholeTerms terms) :
    meaning terms ≤ maxDuration := by
  have none : (terms.map subsecondNs).sum = 0 := (subseconds_zero_iff terms).mpr whole.zero
  have fits := whole.fits
  rw [meaning_split, none, maxDuration]
  omega

/-- Reordering terms changes neither condition. -/
theorem whole_perm (terms others : List Term) (whole : WholeTerms terms)
    (reordered : others.Perm terms) : WholeTerms others where
  zero term member := whole.zero term (reordered.mem_iff.mp member)
  fits := by
    rw [(reordered.map wholeSeconds).sum_eq]
    exact whole.fits

/-- A string of terms has the value that it means exactly when its terms below the
second count zero and the seconds of the others fit 64 bits. -/
theorem means_iff (text : String) (terms : List Term) (spelled : Spells text terms) :
    Means unicode text terms ↔ WholeTerms terms := by
  constructor
  · rintro ⟨value, -, -⟩
    have split := meaning_split terms
    obtain ⟨below, bounded⟩ := accumulate_le terms
    rw [duration_spelled unicode text terms spelled, Represents] at value
    by_cases representable : meaning terms ≤ maxDuration
    · rw [if_pos representable] at value
      have exact : accumulate 0 terms * 10 ^ 9 = meaning terms := Except.ok.inj value
      refine ⟨(subseconds_zero_iff terms).mp ?_, ?_⟩ <;> omega
    · -- The total stops short of the largest duration.
      rw [if_neg representable] at value
      rcases value with ⟨error, failed⟩ | largest
      · cases failed
      · have exact : accumulate 0 terms * 10 ^ 9 = maxDuration := Except.ok.inj largest
        rw [maxDuration] at exact
        omega
  · intro whole
    have value := whole_value unicode text terms spelled whole
    refine ⟨?_, ?_, ?_⟩
    · rw [Represents, if_pos (whole_meaning_le terms whole)]
      exact value
    · intro other others otherSpelled reordered
      have same : meaning others = meaning terms := (reordered.map termNs).sum_eq
      rw [whole_value unicode other others otherSpelled (whole_perm terms others whole reordered),
        same, value]
    · rintro - left right leftTerms rightTerms leftSpelled rightSpelled rfl
      have fits := whole.fits
      rw [List.map_append, List.sum_append] at fits
      have leftWhole : WholeTerms leftTerms :=
        ⟨fun term member => whole.zero term (List.mem_append_left _ member), by omega⟩
      have rightWhole : WholeTerms rightTerms :=
        ⟨fun term member => whole.zero term (List.mem_append_right _ member), by omega⟩
      refine ⟨meaning leftTerms, meaning rightTerms,
        whole_value unicode left leftTerms leftSpelled leftWhole,
        whole_value unicode right rightTerms rightSpelled rightWhole, ?_⟩
      rw [value, meaning, meaning, meaning, List.map_append, List.sum_append]

/-- One hour. -/
def hour : Term :=
  ⟨"1".toList, "h".toList, .h, by decide, by simp, by decide, by decide⟩

/-- Thirty minutes. -/
def halfHour : Term :=
  ⟨"30".toList, "m".toList, .m, by decide, by simp, by decide, by decide⟩

theorem means_iff_sample :
    Spells "1h30m" [hour, halfHour] ∧
      (Means asciiTables "1h30m" [hour, halfHour] ↔ WholeTerms [hour, halfHour]) :=
  have spelled : Spells "1h30m" [hour, halfHour] := ⟨by decide, by decide +kernel⟩
  ⟨spelled, means_iff asciiTables "1h30m" [hour, halfHour] spelled⟩

/-- One and a half seconds. -/
def milliseconds : Term :=
  ⟨"1500".toList, "ms".toList, .ms, by decide, by simp, by decide, by decide⟩

/-- Minutes whose seconds exceed 64 bits by 44. -/
def manyMinutes : Term :=
  ⟨"307445734561825861".toList, "m".toList, .m, by decide, by simp, by decide +kernel, by decide⟩

/-- One and a half seconds in milliseconds are read as no time, and a number of
minutes beyond 64 bits of seconds is read as 44 seconds. -/
theorem milliseconds_dropped :
    (Spells "1500ms" [milliseconds] ∧ parseDuration asciiTables "1500ms" = .ok 0 ∧
        ¬ Means asciiTables "1500ms" [milliseconds]) ∧
      Spells "307445734561825861m" [manyMinutes] ∧
        parseDuration asciiTables "307445734561825861m" = .ok (44 * 10 ^ 9) ∧
        ¬ Means asciiTables "307445734561825861m" [manyMinutes] := by
  have spelled : Spells "1500ms" [milliseconds] := ⟨by decide, by decide +kernel⟩
  have value := duration_spelled asciiTables "1500ms" [milliseconds] spelled
  have wrappedSpelled : Spells "307445734561825861m" [manyMinutes] :=
    ⟨by decide, by decide +kernel⟩
  have wrapped := duration_spelled asciiTables _ [manyMinutes] wrappedSpelled
  refine ⟨⟨spelled, value, ?_⟩, wrappedSpelled, wrapped, ?_⟩
  · rintro ⟨exact, -, -⟩
    have representable : meaning [milliseconds] ≤ maxDuration := by decide
    rw [value, Represents, if_pos representable] at exact
    exact absurd (Except.ok.inj exact) (by decide)
  · rintro ⟨exact, -, -⟩
    have unrepresentable : ¬ meaning [manyMinutes] ≤ maxDuration := by decide +kernel
    rw [wrapped, Represents, if_neg unrepresentable] at exact
    rcases exact with ⟨error, failed⟩ | largest
    · cases failed
    · exact absurd (Except.ok.inj largest) (by decide +kernel)

end VaultwardenOperator.DurationMeaning
