import VaultwardenOperator.Duration

/-!
# The language of duration strings

`parse_duration` accepts the trimmed strings that are one or more terms, and no
other. Each such string has one split into terms, and the loop reads that split:
the unit it takes greedily is the unit of the grammar, because a term is followed
by the end of the text or by the digit of the next term.

`Reads` records the iterations of the loop with the text that each consumed, so
that the split of the loop can be compared with the split of the grammar.
-/

namespace VaultwardenOperator.DurationGrammar

open Rust Duration

variable (unicode : UnicodeTables)

/-- The trimmed text is one or more terms. -/
def Spells (text : String) (terms : List Term) : Prop :=
  terms ≠ [] ∧ trim text.toList = terms.flatMap Term.text

/-- The seconds that one term adds to the total. -/
def termSeconds (term : Term) : Nat := term.unit.seconds (digitsValue term.digits)

/-- What the loop does with its total over a list of terms. -/
def accumulate (totalSecs : Nat) (terms : List Term) : Nat :=
  terms.foldl (fun total term => saturatingAdd total (termSeconds term)) totalSecs

/-- Iterations of the loop: each goes on to the text after the piece that it
consumed, with the seconds it read there. -/
inductive Reads (s : List Char) : List Char → List (List Char × Nat) → List Char → Prop where
  | done (remaining : List Char) : Reads s remaining [] remaining
  | next (remaining piece rest last : List Char) (secs : Nat) (pieces : List (List Char × Nat))
      (parsed : parseTerm unicode s remaining = .ok (secs, rest))
      (consumed : remaining = piece ++ rest)
      (further : Reads s rest pieces last) :
      Reads s remaining ((piece, secs) :: pieces) last

/-! ## One split -/

/-- Terms begin with a digit. -/
theorem terms_digit (terms : List Term) (char : Char) (tail : List Char)
    (begins : terms.flatMap Term.text = char :: tail) : char.isDigit = true := by
  cases terms with
  | nil => cases begins
  | cons term others =>
    rw [List.flatMap_cons, Term.text, List.append_assoc] at begins
    exact digits_lead term.digits _ term.nonempty term.allDigits char tail begins

/-- The leading term of a text is determined when each reading of it leaves the
empty text or one that begins with a digit: the digits are the leading run, and the
unit is the one that the parser strips. -/
theorem leading_term_unique (term other : Term) (rest otherRest : List Char)
    (separated : ∀ char tail, rest = char :: tail → char.isDigit = true)
    (otherSeparated : ∀ char tail, otherRest = char :: tail → char.isDigit = true)
    (same : term.text ++ rest = other.text ++ otherRest) : term = other ∧ rest = otherRest := by
  simp only [Term.text, List.append_assoc] at same
  have digits : term.digits = other.digits := by
    rw [← digits_taken term.digits _ term.allDigits (spelling_stops term rest), same,
      digits_taken other.digits _ other.allDigits (spelling_stops other otherRest)]
  have units : term.spelling ++ rest = other.spelling ++ otherRest := by
    rw [digits] at same
    exact List.append_cancel_left same
  have stripped := strip_unit_term term.spelling rest term.unit term.known separated
  rw [units, strip_unit_term other.spelling otherRest other.unit other.known otherSeparated]
    at stripped
  obtain ⟨unit, rests⟩ := Prod.mk.inj (Option.some.inj stripped)
  have spellings : term.spelling = other.spelling := by
    rw [rests] at units
    exact List.append_cancel_right units
  refine ⟨?_, rests.symm⟩
  cases term
  cases other
  simp_all

/-- A text has at most one split into terms. -/
theorem terms_unique (terms others : List Term)
    (same : terms.flatMap Term.text = others.flatMap Term.text) : terms = others := by
  have vacant (term : Term) (rest : List Term) : (term :: rest).flatMap Term.text ≠ [] := by
    have long := term_length term
    intro nothing
    rw [List.flatMap_cons, List.append_eq_nil_iff] at nothing
    rw [nothing.1] at long
    simp at long
  induction terms generalizing others with
  | nil =>
    cases others with
    | nil => rfl
    | cons other rest => exact absurd same.symm (vacant other rest)
  | cons term rest inductionHypothesis =>
    cases others with
    | nil => exact absurd same (vacant term rest)
    | cons other otherRest =>
      obtain ⟨rfl, rests⟩ := leading_term_unique term other _ _ (terms_digit rest)
        (terms_digit otherRest) same
      rw [inductionHypothesis otherRest rests]

/-! ## The loop over terms -/

/-- An iteration on a text of terms reads the first of them. -/
theorem reads_term (s : List Char) (term : Term) (rest : List Term) :
    parseTerm unicode s ((term :: rest).flatMap Term.text) =
      .ok (termSeconds term, rest.flatMap Term.text) :=
  parse_term_reads unicode s (rest.flatMap Term.text) term (terms_digit rest)

/-- On a text of terms the loop returns their total. -/
theorem loop_terms (s : List Char) (totalSecs : Nat) (terms : List Term) :
    parseLoop unicode s totalSecs (terms.flatMap Term.text) = .ok (accumulate totalSecs terms) := by
  induction terms generalizing totalSecs with
  | nil => simp [parseLoop, accumulate]
  | cons term rest inductionHypothesis =>
    rw [parse_loop_step unicode s _ _ totalSecs _ (reads_term unicode s term rest)]
    exact inductionHypothesis _

/-- A text on which the loop returns is made of terms. The induction follows the
recursion of the loop; each iteration that goes on has read one term. -/
theorem loop_inv (s remaining : List Char) (totalSecs value : Nat)
    (returned : parseLoop unicode s totalSecs remaining = .ok value) :
    ∃ terms : List Term, remaining = terms.flatMap Term.text := by
  induction totalSecs, remaining using parseLoop.induct unicode s with
  | case1 totalSecs => exact ⟨[], rfl⟩
  | case2 totalSecs remaining nonempty halt stopped =>
    rw [parse_loop_halt unicode s remaining totalSecs halt nonempty stopped] at returned
    cases returned
  | case3 totalSecs remaining nonempty secs rest parsed inductionHypothesis =>
    rw [parse_loop_step unicode s remaining rest totalSecs secs parsed] at returned
    obtain ⟨terms, rfl⟩ := inductionHypothesis returned
    obtain ⟨term, read, -⟩ := parse_term_inv unicode s remaining _ secs parsed
    exact ⟨term :: terms, by rw [read, List.flatMap_cons]⟩

/-- The value of a string of terms. -/
theorem duration_spelled (text : String) (terms : List Term) (spelled : Spells text terms) :
    parseDuration unicode text = .ok (accumulate 0 terms * 10 ^ 9) := by
  obtain ⟨nonempty, trimmed⟩ := spelled
  have visible : trim text.toList ≠ [] := by
    rw [trimmed]
    intro nothing
    exact nonempty (terms_unique terms [] nothing)
  rw [parseDuration, if_neg visible, trimmed, loop_terms unicode]
  rfl

/-- A string that is accepted is made of terms. -/
theorem duration_inv (text : String) (duration : Nat)
    (accepted : parseDuration unicode text = .ok duration) : ∃ terms, Spells text terms := by
  by_cases vacant : trim text.toList = []
  · simp [parseDuration, vacant] at accepted
  · rw [parseDuration, if_neg vacant] at accepted
    cases returned : parseLoop unicode (trim text.toList) 0 (trim text.toList) with
    | error halt =>
      rw [returned] at accepted
      cases accepted
    | ok value =>
      obtain ⟨terms, spelled⟩ := loop_inv unicode _ _ 0 value returned
      refine ⟨terms, ?_, spelled⟩
      rintro rfl
      exact vacant spelled

/-! ## What the iterations consume -/

/-- Each iteration consumes two bytes or more, so that a text bounds the number of
iterations over it. -/
theorem reads_bytes (s remaining last : List Char) (pieces : List (List Char × Nat))
    (read : Reads unicode s remaining pieces last) :
    byteLength last + 2 * pieces.length ≤ byteLength remaining := by
  induction read with
  | done remaining => exact Nat.le_refl _
  | next remaining piece rest last secs pieces parsed consumed further inductionHypothesis =>
    obtain ⟨term, text, -⟩ := parse_term_inv unicode s remaining rest secs parsed
    have long : 2 ≤ byteLength term.text :=
      Nat.le_trans (term_length term) (length_le_byte_length term.text)
    rw [text, byte_length_append, List.length_cons]
    omega

/-- The iterations over a text of terms consume the terms, in order. -/
theorem reads_terms_iff (s : List Char) (terms : List Term) (pieces : List (List Char × Nat)) :
    Reads unicode s (terms.flatMap Term.text) pieces [] ↔
      pieces = terms.map (fun term => (term.text, termSeconds term)) := by
  constructor
  · intro read
    induction terms generalizing pieces with
    | nil =>
      have bytes := reads_bytes unicode s _ _ pieces read
      have none : pieces.length = 0 := by
        rw [List.flatMap_nil, byte_length_nil] at bytes
        omega
      exact List.length_eq_zero_iff.mp none
    | cons term rest inductionHypothesis =>
      generalize whole : (term :: rest).flatMap Term.text = remaining at read
      cases read with
      | done =>
        have texts : term :: rest = [] := terms_unique (term :: rest) [] whole
        cases texts
      | next _ piece after _ secs others parsed consumed further =>
        rw [← whole, reads_term unicode s term rest] at parsed
        obtain ⟨rfl, rfl⟩ := Prod.mk.inj (Except.ok.inj parsed)
        rw [← whole, List.flatMap_cons] at consumed
        rw [← List.append_cancel_right consumed, inductionHypothesis others further, List.map_cons]
  · rintro rfl
    induction terms with
    | nil => exact .done []
    | cons term rest inductionHypothesis =>
      exact .next _ term.text _ _ _ _ (reads_term unicode s term rest) rfl inductionHypothesis

/-- A string is accepted exactly when its trimmed text is one or more terms. There
is one such split, the iterations of the loop consume its terms in order, and each
iteration consumes two bytes or more. -/
theorem accepts_exactly (text : String) :
    ((∃ duration, parseDuration unicode text = .ok duration) ↔ ∃ terms, Spells text terms) ∧
      (∀ terms others, Spells text terms → Spells text others → terms = others) ∧
      (∀ terms, Spells text terms → ∀ pieces,
        Reads unicode (trim text.toList) (trim text.toList) pieces [] ↔
          pieces = terms.map (fun term => (term.text, termSeconds term))) ∧
      ∀ remaining pieces last, Reads unicode (trim text.toList) remaining pieces last →
        byteLength last + 2 * pieces.length ≤ byteLength remaining := by
  refine ⟨⟨?_, ?_⟩, ?_, ?_, ?_⟩
  · rintro ⟨duration, accepted⟩
    exact duration_inv unicode text duration accepted
  · rintro ⟨terms, spelled⟩
    exact ⟨_, duration_spelled unicode text terms spelled⟩
  · intro terms others spelled otherSpelled
    exact terms_unique terms others (spelled.2.symm.trans otherSpelled.2)
  · intro terms spelled pieces
    have split := reads_terms_iff unicode (trim text.toList) terms pieces
    rwa [← spelled.2] at split
  · intro remaining pieces last read
    exact reads_bytes unicode _ remaining last pieces read

end VaultwardenOperator.DurationGrammar
