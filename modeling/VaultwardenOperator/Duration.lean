import VaultwardenOperator.Rust
import Mathlib.Data.List.Basic

/-!
# Go-style duration strings

`parseDuration` reads a trimmed string as terms, each a number followed by a
unit, and adds their seconds. A duration is a number of nanoseconds.

The release build of the operator multiplies 64-bit numbers without overflow
checks, so minutes and hours are taken modulo 2^64; the running total saturates.
Only the second half of each loop iteration can panic: after a number without a
known unit, the error text quotes the first byte of what follows.

`Term` is the grammar of one accepted term, stated apart from the parser.
-/

namespace VaultwardenOperator.Duration

open Rust

/-- The units of a duration string; `µs` and `us` are one unit. -/
inductive DurationUnit where
  | ns | us | ms | s | m | h
deriving DecidableEq

/-- The prefixes tried after a number, in the order in which they are tried. -/
def unitSpellings : List (List Char × DurationUnit) :=
  [("ns".toList, .ns), ("µs".toList, .us), ("us".toList, .us), ("ms".toList, .ms),
    ("s".toList, .s), ("m".toList, .m), ("h".toList, .h)]

/-- The first spelling that starts the text, and the text after it. -/
def stripUnit (remaining : List Char) : Option (DurationUnit × List Char) :=
  unitSpellings.findSome? (fun entry =>
    (entry.1.isPrefixOf? remaining).map (fun rest => (entry.2, rest)))

/-- Whole seconds of one term, with wrapping 64-bit multiplication. -/
def DurationUnit.seconds (num : Nat) : DurationUnit → Nat
  | .ns => 0
  | .us => 0
  | .ms => 0
  | .s => num
  | .m => num * 60 % 2 ^ 64
  | .h => num * 3600 % 2 ^ 64

/-- `u64::saturating_add`. -/
def saturatingAdd (left right : Nat) : Nat := min (left + right) (2 ^ 64 - 1)

/-- One iteration of the loop: the seconds of the leading term and the text
after it. Each slice is a `cut`, so that a cut inside a character is a panic. -/
def parseTerm (unicode : UnicodeTables) (s remaining : List Char) :
    Call String (Nat × List Char) :=
  let quoted := unicode.escapeDebug (String.ofList s)
  let numEnd := (find (fun char => !char.isDigit) remaining).getD (byteLength remaining)
  if numEnd = 0 then .error (.err s!"unexpected char in duration {quoted}")
  else match cut remaining numEnd with
    | none => .error .panic
    | some (digits, afterNumber) =>
      match parseUnsigned (2 ^ 64) digits with
      | none => .error (.err s!"invalid number in duration {quoted}")
      | some num =>
        if afterNumber = [] then .error (.err s!"missing unit in duration {quoted}")
        else match stripUnit afterNumber with
          | some (unit, rest) => .ok (unit.seconds num, rest)
          | none =>
            -- `&remaining[..1]` in the error text
            match cut afterNumber 1 with
            | none => .error .panic
            | some (shown, _) =>
              let quotedUnit := unicode.escapeDebug (String.ofList shown)
              .error (.err s!"unknown unit in duration {quoted}: {quotedUnit}")

/-- One accepted term: a nonempty run of digits whose value a 64-bit number
holds, directly followed by a unit. -/
structure Term where
  digits : List Char
  spelling : List Char
  unit : DurationUnit
  nonempty : digits ≠ []
  allDigits : ∀ char ∈ digits, char.isDigit = true
  fits : digitsValue digits < 2 ^ 64
  known : (spelling, unit) ∈ unitSpellings

def Term.text (term : Term) : List Char := term.digits ++ term.spelling

/-- Every spelling begins with a character that is not a digit. -/
theorem spelling_head (spelling : List Char) (unit : DurationUnit)
    (known : (spelling, unit) ∈ unitSpellings) :
    ∃ char rest, spelling = char :: rest ∧ char.isDigit = false := by
  simp only [unitSpellings, List.mem_cons, Prod.mk.injEq, List.not_mem_nil, or_false] at known
  rcases known with ⟨rfl, -⟩ | ⟨rfl, -⟩ | ⟨rfl, -⟩ | ⟨rfl, -⟩ | ⟨rfl, -⟩ | ⟨rfl, -⟩ | ⟨rfl, -⟩ <;>
    exact ⟨_, _, rfl, by decide⟩

/-- The digits of a term end where its unit begins. -/
theorem spelling_stops (term : Term) (rest : List Char) (char : Char) (tail : List Char)
    (begins : term.spelling ++ rest = char :: tail) : char.isDigit = false := by
  obtain ⟨head, others, spelled, notDigit⟩ := spelling_head term.spelling term.unit term.known
  rw [spelled] at begins
  obtain ⟨rfl, -⟩ := List.cons.inj begins
  exact notDigit

/-- A unit that is read is a known spelling at the front of the text. -/
theorem strip_unit_inv (remaining rest : List Char) (unit : DurationUnit)
    (stripped : stripUnit remaining = some (unit, rest)) :
    ∃ spelling, (spelling, unit) ∈ unitSpellings ∧ remaining = spelling ++ rest := by
  obtain ⟨entry, member, found⟩ := List.exists_of_findSome?_eq_some stripped
  obtain ⟨tail, isPrefix, same⟩ := Option.map_eq_some_iff.mp found
  obtain ⟨rfl, rfl⟩ := Prod.mk.inj same
  exact ⟨entry.1, member, (List.isPrefixOf?_eq_some_iff_append_eq.mp isPrefix).symm⟩

/-- The greedy choice of the unit is the grammar's choice when the next term, if
any, begins with a digit: the only spelling that starts another one is `m`, and
`ms` does not go on with a digit. -/
theorem strip_unit_term (spelling rest : List Char) (unit : DurationUnit)
    (known : (spelling, unit) ∈ unitSpellings)
    (separated : ∀ char tail, rest = char :: tail → char.isDigit = true) :
    stripUnit (spelling ++ rest) = some (unit, rest) := by
  simp only [unitSpellings, List.mem_cons, Prod.mk.injEq, List.not_mem_nil, or_false] at known
  rcases known with ⟨rfl, rfl⟩ | ⟨rfl, rfl⟩ | ⟨rfl, rfl⟩ | ⟨rfl, rfl⟩ | ⟨rfl, rfl⟩ | ⟨rfl, rfl⟩ |
    ⟨rfl, rfl⟩
  case inr.inr.inr.inr.inr.inl =>
    cases rest with
    | nil => decide
    | cons char tail =>
      have digit : char.isDigit = true := separated char tail rfl
      have notS : ¬ 's' = char := by
        rintro rfl
        exact absurd digit (by decide)
      simp [stripUnit, unitSpellings, List.isPrefixOf?, notS]
  all_goals simp [stripUnit, unitSpellings, List.isPrefixOf?]

/-- A text that starts with digits begins with one of them. -/
theorem digits_lead (digits after : List Char) (nonempty : digits ≠ [])
    (allDigits : ∀ digit ∈ digits, digit.isDigit = true) (char : Char) (tail : List Char)
    (begins : digits ++ after = char :: tail) : char.isDigit = true := by
  cases digits with
  | nil => exact absurd rfl nonempty
  | cons first others =>
    obtain ⟨rfl, -⟩ := List.cons.inj begins
    exact allDigits first List.mem_cons_self

/-- The digits before a text that does not begin with one are its leading run. -/
theorem digits_taken (digits after : List Char) (allDigits : ∀ char ∈ digits, char.isDigit = true)
    (stops : ∀ char tail, after = char :: tail → char.isDigit = false) :
    (digits ++ after).takeWhile Char.isDigit = digits := by
  cases after with
  | nil => simpa using allDigits
  | cons char tail =>
    rw [List.takeWhile_append_of_pos allDigits,
      List.takeWhile_cons_of_neg (by simp [stops char tail rfl]), List.append_nil]

/-- A number read by one iteration: the maximal run of leading digits, cut off
without a panic. -/
theorem parse_term_cut (remaining : List Char) :
    cut remaining ((find (fun char => !char.isDigit) remaining).getD (byteLength remaining)) =
      some (remaining.takeWhile Char.isDigit, remaining.dropWhile Char.isDigit) := by
  rw [find_offset]
  simp only [Bool.not_not]
  calc cut remaining (byteLength (remaining.takeWhile Char.isDigit))
      = cut (remaining.takeWhile Char.isDigit ++ remaining.dropWhile Char.isDigit)
          (byteLength (remaining.takeWhile Char.isDigit)) := by
        rw [List.takeWhile_append_dropWhile]
    _ = some (remaining.takeWhile Char.isDigit, remaining.dropWhile Char.isDigit) :=
        cut_append _ _

/-- One iteration in terms of the leading digits and what follows them; the
number's slices never panic. -/
theorem parse_term_eq (unicode : UnicodeTables) (s digits afterNumber : List Char)
    (allDigits : ∀ char ∈ digits, char.isDigit = true)
    (stops : ∀ char tail, afterNumber = char :: tail → char.isDigit = false) :
    parseTerm unicode s (digits ++ afterNumber) =
      let quoted := unicode.escapeDebug (String.ofList s)
      if digits = [] then .error (.err s!"unexpected char in duration {quoted}")
      else if digitsValue digits < 2 ^ 64 then
        if afterNumber = [] then .error (.err s!"missing unit in duration {quoted}")
        else match stripUnit afterNumber with
          | some (unit, rest) => .ok (unit.seconds (digitsValue digits), rest)
          | none =>
            match cut afterNumber 1 with
            | none => .error .panic
            | some (shown, _) =>
              let quotedUnit := unicode.escapeDebug (String.ofList shown)
              .error (.err s!"unknown unit in duration {quoted}: {quotedUnit}")
      else .error (.err s!"invalid number in duration {quoted}") := by
  have taken := digits_taken digits afterNumber allDigits stops
  have dropped : (digits ++ afterNumber).dropWhile Char.isDigit = afterNumber := by
    have whole := List.takeWhile_append_dropWhile (p := Char.isDigit) (l := digits ++ afterNumber)
    rw [taken] at whole
    exact List.append_cancel_left whole
  have split := parse_term_cut (digits ++ afterNumber)
  rw [taken, dropped] at split
  have start : (find (fun char => !char.isDigit) (digits ++ afterNumber)).getD
      (byteLength (digits ++ afterNumber)) = 0 ↔ digits = [] := by
    rw [find_offset, byte_length_zero_iff]
    simp only [Bool.not_not, taken]
  by_cases nonempty : digits = []
  · have atStart := start.mpr nonempty
    simp only [parseTerm, atStart, if_true, if_pos nonempty]
  · have number := parse_unsigned_digits (2 ^ 64) digits nonempty allDigits
    simp only [parseTerm, start, nonempty, if_false, split, number]
    by_cases fits : digitsValue digits < 2 ^ 64
    · simp only [fits, if_true]
    · simp only [fits, if_false]

/-- Digits run up to the first character that is not one. -/
theorem leading_digits (remaining : List Char) :
    ∃ digits afterNumber, remaining = digits ++ afterNumber ∧
      (∀ char ∈ digits, char.isDigit = true) ∧
      ∀ char tail, afterNumber = char :: tail → char.isDigit = false := by
  refine ⟨remaining.takeWhile Char.isDigit, remaining.dropWhile Char.isDigit,
    List.takeWhile_append_dropWhile.symm, fun char member => List.mem_takeWhile_imp member, ?_⟩
  intro char tail begins
  have nonempty : remaining.dropWhile Char.isDigit ≠ [] := by simp [begins]
  have stopped := List.head_dropWhile_not Char.isDigit nonempty
  simpa [begins] using stopped

/-- What an iteration that goes on has read: one term of the grammar. -/
theorem parse_term_inv (unicode : UnicodeTables) (s remaining rest : List Char) (secs : Nat)
    (parsed : parseTerm unicode s remaining = .ok (secs, rest)) :
    ∃ term : Term, remaining = term.text ++ rest ∧
      secs = term.unit.seconds (digitsValue term.digits) := by
  obtain ⟨digits, afterNumber, rfl, allDigits, stops⟩ := leading_digits remaining
  rw [parse_term_eq unicode s digits afterNumber allDigits stops] at parsed
  by_cases nonempty : digits = []
  · simp [nonempty] at parsed
  by_cases fits : digitsValue digits < 2 ^ 64
  · by_cases vacant : afterNumber = []
    · simp [nonempty, fits, vacant, -Nat.reducePow] at parsed
    cases stripped : stripUnit afterNumber with
    | none =>
      simp only [nonempty, fits, vacant, stripped, if_true, if_false] at parsed
      split at parsed <;> simp at parsed
    | some entry =>
      obtain ⟨unit, tail⟩ := entry
      simp only [nonempty, fits, vacant, stripped, if_true, if_false, Except.ok.injEq,
        Prod.mk.injEq] at parsed
      obtain ⟨rfl, rfl⟩ := parsed
      obtain ⟨spelling, known, rfl⟩ := strip_unit_inv afterNumber tail unit stripped
      exact ⟨⟨digits, spelling, unit, nonempty, allDigits, fits, known⟩,
        by simp [Term.text], rfl⟩
  · simp [nonempty, fits, -Nat.reducePow] at parsed

/-- A term is at least two characters long. -/
theorem term_length (term : Term) : 2 ≤ term.text.length := by
  have number : 0 < term.digits.length := List.length_pos_iff.mpr term.nonempty
  obtain ⟨char, rest, spelled, -⟩ := spelling_head term.spelling term.unit term.known
  simp only [Term.text, List.length_append, spelled, List.length_cons]
  omega

/-- Each iteration that goes on shortens the remaining text. -/
theorem parse_term_shorter (unicode : UnicodeTables) (s remaining rest : List Char) (secs : Nat)
    (parsed : parseTerm unicode s remaining = .ok (secs, rest)) :
    rest.length < remaining.length := by
  obtain ⟨term, rfl, -⟩ := parse_term_inv unicode s remaining rest secs parsed
  have long := term_length term
  rw [List.length_append]
  omega

/-- The loop over the terms with its saturating total of seconds. It ends because
every iteration consumes a term. -/
def parseLoop (unicode : UnicodeTables) (s : List Char) (totalSecs : Nat)
    (remaining : List Char) : Call String Nat :=
  if remaining = [] then .ok totalSecs
  else match _parsed : parseTerm unicode s remaining with
    | .error halt => .error halt
    | .ok (secs, rest) => parseLoop unicode s (saturatingAdd totalSecs secs) rest
termination_by remaining.length
decreasing_by exact parse_term_shorter unicode s remaining rest secs _parsed

/-- `parse_duration`, in nanoseconds. -/
def parseDuration (unicode : UnicodeTables) (text : String) : Call String Nat :=
  let s := trim text.toList
  if s = [] then .error (.err "empty duration string")
  else (parseLoop unicode s 0 s).map (· * 10 ^ 9)

/-- One turn of the loop after a term has been read. -/
theorem parse_loop_step (unicode : UnicodeTables) (s remaining rest : List Char)
    (totalSecs secs : Nat) (parsed : parseTerm unicode s remaining = .ok (secs, rest)) :
    parseLoop unicode s totalSecs remaining =
      parseLoop unicode s (saturatingAdd totalSecs secs) rest := by
  have nonempty : remaining ≠ [] := by
    rintro rfl
    exact absurd (parse_term_shorter unicode s [] rest secs parsed) (by simp)
  rw [parseLoop, if_neg nonempty]
  split
  next halt failed => simp [failed] at parsed
  next other tail read =>
    have same : (other, tail) = (secs, rest) := Except.ok.inj (read.symm.trans parsed)
    obtain ⟨rfl, rfl⟩ := Prod.mk.inj same
    rfl

/-- The loop ends at once when an iteration does not go on. -/
theorem parse_loop_halt (unicode : UnicodeTables) (s remaining : List Char) (totalSecs : Nat)
    (halt : Halt String) (nonempty : remaining ≠ [])
    (stopped : parseTerm unicode s remaining = .error halt) :
    parseLoop unicode s totalSecs remaining = .error halt := by
  rw [parseLoop, if_neg nonempty]
  split
  next other failed =>
    have same : other = halt := Except.error.inj (failed.symm.trans stopped)
    rw [same]
  next secs rest read => simp [read] at stopped

/-! ## Where the parser panics -/

/-- A number that a 64-bit integer holds, directly followed by a character
outside ASCII that does not begin `µs`. -/
structure CutsAfterNumber (remaining : List Char) where
  digits : List Char
  char : Char
  rest : List Char
  text : remaining = digits ++ char :: rest
  nonempty : digits ≠ []
  allDigits : ∀ digit ∈ digits, digit.isDigit = true
  fits : digitsValue digits < 2 ^ 64
  wide : char.utf8Size ≠ 1
  notMicro : ¬ "µs".toList <+: char :: rest

/-- The strings on which the error path cuts a character in two: after trimming,
zero or more terms and then such a number. -/
def CutsCharacter (text : String) : Prop :=
  ∃ terms : List Term, ∃ remaining, Nonempty (CutsAfterNumber remaining) ∧
    trim text.toList = terms.flatMap Term.text ++ remaining

/-- A character outside ASCII starts a unit only as the `µ` of `µs`. -/
theorem strip_unit_wide (char : Char) (rest : List Char) (wide : char.utf8Size ≠ 1) :
    stripUnit (char :: rest) = none ↔ ¬ "µs".toList <+: char :: rest := by
  have distinct (ascii : Char) (narrow : ascii.utf8Size = 1) : ¬ ascii = char := by
    rintro rfl
    exact wide narrow
  have notN : ¬ 'n' = char := distinct 'n' (by decide)
  have notU : ¬ 'u' = char := distinct 'u' (by decide)
  have notM : ¬ 'm' = char := distinct 'm' (by decide)
  have notS : ¬ 's' = char := distinct 's' (by decide)
  have notH : ¬ 'h' = char := distinct 'h' (by decide)
  rw [← List.isPrefixOf_iff_prefix]
  by_cases micro : 'µ' = char
  · subst micro
    cases rest with
    | nil => simp [stripUnit, unitSpellings, List.isPrefixOf?, List.isPrefixOf]
    | cons next tail =>
      by_cases seconds : 's' = next <;>
        simp [stripUnit, unitSpellings, List.isPrefixOf?, List.isPrefixOf, seconds]
  · simp [stripUnit, unitSpellings, List.isPrefixOf?, List.isPrefixOf, notN, notU, notM, notS,
      notH, micro]

/-- One iteration panics exactly on a number followed by such a character. -/
theorem parse_term_panic_iff (unicode : UnicodeTables) (s remaining : List Char) :
    parseTerm unicode s remaining = .error .panic ↔ Nonempty (CutsAfterNumber remaining) := by
  constructor
  · intro panicked
    obtain ⟨digits, afterNumber, rfl, allDigits, stops⟩ := leading_digits remaining
    rw [parse_term_eq unicode s digits afterNumber allDigits stops] at panicked
    by_cases nonempty : digits = []
    · simp [nonempty] at panicked
    by_cases fits : digitsValue digits < 2 ^ 64
    · cases afterNumber with
      | nil => simp [nonempty, fits, -Nat.reducePow] at panicked
      | cons char rest =>
        cases stripped : stripUnit (char :: rest) with
        | some entry => simp [nonempty, fits, stripped, -Nat.reducePow] at panicked
        | none =>
          cases shown : cut (char :: rest) 1 with
          | some halves => simp [nonempty, fits, stripped, shown, -Nat.reducePow] at panicked
          | none =>
            have wide : char.utf8Size ≠ 1 := (cut_one_none_iff char rest).mp shown
            exact ⟨⟨digits, char, rest, rfl, nonempty, allDigits, fits, wide,
              (strip_unit_wide char rest wide).mp stripped⟩⟩
    · simp [nonempty, fits, -Nat.reducePow] at panicked
  · rintro ⟨digits, char, rest, rfl, nonempty, allDigits, fits, wide, notMicro⟩
    have stops : ∀ next tail, char :: rest = next :: tail → next.isDigit = false := by
      rintro next tail same
      obtain ⟨rfl, rfl⟩ := List.cons.inj same
      by_contra digit
      exact wide (digit_one_byte char (by simpa using digit))
    rw [parse_term_eq unicode s digits (char :: rest) allDigits stops]
    simp [nonempty, fits, (strip_unit_wide char rest wide).mpr notMicro,
      (cut_one_none_iff char rest).mpr wide, -Nat.reducePow]

/-- A term of the grammar is read as a whole when what follows it is empty or
begins with a digit. -/
theorem parse_term_reads (unicode : UnicodeTables) (s rest : List Char) (term : Term)
    (separated : ∀ char tail, rest = char :: tail → char.isDigit = true) :
    parseTerm unicode s (term.text ++ rest) =
      .ok (term.unit.seconds (digitsValue term.digits), rest) := by
  obtain ⟨head, tail, spelled, -⟩ := spelling_head term.spelling term.unit term.known
  have unread : term.spelling ++ rest ≠ [] := by simp [spelled]
  rw [Term.text, List.append_assoc,
    parse_term_eq unicode s _ _ term.allDigits (spelling_stops term rest)]
  simp only [term.nonempty, term.fits, unread, if_true, if_false,
    strip_unit_term term.spelling rest term.unit term.known separated]

/-- A list of terms begins with a digit, and so does what a panic needs. -/
theorem terms_separated (terms : List Term) (remaining : List Char)
    (cuts : CutsAfterNumber remaining) (char : Char) (tail : List Char)
    (begins : terms.flatMap Term.text ++ remaining = char :: tail) : char.isDigit = true := by
  cases terms with
  | nil =>
    rw [List.flatMap_nil, List.nil_append, cuts.text] at begins
    exact digits_lead cuts.digits _ cuts.nonempty cuts.allDigits char tail begins
  | cons term others =>
    rw [List.flatMap_cons, Term.text, List.append_assoc, List.append_assoc] at begins
    exact digits_lead term.digits _ term.nonempty term.allDigits char tail begins

/-- The loop panics exactly after some terms and a number that cuts a character.
The forward direction follows the recursion of the loop; the backward one is by
induction on the terms. -/
theorem parse_loop_panic_iff (unicode : UnicodeTables) (s : List Char) (totalSecs : Nat)
    (remaining : List Char) :
    parseLoop unicode s totalSecs remaining = .error .panic ↔
      ∃ terms : List Term, ∃ last, Nonempty (CutsAfterNumber last) ∧
        remaining = terms.flatMap Term.text ++ last := by
  constructor
  · intro panicked
    induction totalSecs, remaining using parseLoop.induct unicode s with
    | case1 totalSecs => simp [parseLoop] at panicked
    | case2 totalSecs remaining nonempty halt stopped =>
      rw [parse_loop_halt unicode s remaining totalSecs halt nonempty stopped] at panicked
      cases panicked
      exact ⟨[], remaining, (parse_term_panic_iff unicode s remaining).mp stopped, rfl⟩
    | case3 totalSecs remaining nonempty secs rest parsed inductionHypothesis =>
      rw [parse_loop_step unicode s remaining rest totalSecs secs parsed] at panicked
      obtain ⟨terms, last, cuts, rfl⟩ := inductionHypothesis panicked
      obtain ⟨term, read, -⟩ := parse_term_inv unicode s remaining _ secs parsed
      exact ⟨term :: terms, last, cuts, by simpa using read⟩
  · rintro ⟨terms, last, ⟨cuts⟩, rfl⟩
    induction terms generalizing totalSecs with
    | nil =>
      have nonempty : last ≠ [] := by simp [cuts.text]
      exact parse_loop_halt unicode s last totalSecs .panic nonempty
        ((parse_term_panic_iff unicode s last).mpr ⟨cuts⟩)
    | cons term others inductionHypothesis =>
      have read := parse_term_reads unicode s (others.flatMap Term.text ++ last) term
        (terms_separated others last cuts)
      rw [List.flatMap_cons, List.append_assoc, parse_loop_step unicode s _ _ totalSecs _ read]
      exact inductionHypothesis _

/-- The parser panics exactly on the strings whose error path cuts a character. -/
theorem parse_duration_panic_iff (unicode : UnicodeTables) (text : String) :
    parseDuration unicode text = .error .panic ↔ CutsCharacter text := by
  have carried (outcome : Call String Nat) :
      outcome.map (· * 10 ^ 9) = .error .panic ↔ outcome = .error .panic := by
    cases outcome <;> simp [Except.map]
  by_cases vacant : trim text.toList = []
  · constructor
    · intro panicked
      simp [parseDuration, vacant] at panicked
    · rintro ⟨terms, remaining, ⟨cuts⟩, trimmed⟩
      rw [vacant] at trimmed
      have none := (List.append_eq_nil_iff.mp trimmed.symm).2
      exact absurd none (by simp [cuts.text])
  · simp only [parseDuration, vacant, if_false]
    rw [carried, parse_loop_panic_iff]
    exact Iff.rfl

end VaultwardenOperator.Duration
