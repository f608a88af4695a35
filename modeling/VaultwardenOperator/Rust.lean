import Mathlib.Algebra.Ring.Nat
import Mathlib.Data.List.DropRight

/-!
# Rust computations and strings

A Rust call returns a value, returns an error or panics. A string is a finite
sequence of Unicode scalar values whose positions are byte offsets into its
UTF-8 encoding; cutting it inside a character panics. Functions that rest on the
Unicode tables (lowercasing, `Debug` escapes) are parameters.

Nothing here is particular to one program. Each operation is followed by the
laws through which proofs use it.
-/

namespace VaultwardenOperator.Rust

universe u v w

/-- A second of a `Duration`, which is a number of nanoseconds. -/
def secondNs : Nat := 1000000000

/-- How a call ends when it does not return its value. -/
inductive Halt (ε : Type u) where
  | err (error : ε)
  | panic
deriving DecidableEq

/-- Hand an error to the caller, as `?` and `map_err` do; a panic unwinds on. -/
def Halt.map {ε : Type u} {φ : Type v} (convert : ε → φ) : Halt ε → Halt φ
  | .err error => .err (convert error)
  | .panic => .panic

/-- A call that may panic. -/
abbrev Call (ε : Type u) (α : Type v) := Except (Halt ε) α

/-- A call that cannot panic, among calls that may. -/
def returned {ε : Type u} {α : Type v} (result : Except ε α) : Call ε α := result.mapError .err

/-- `Option::ok_or`. -/
def okOr {ε : Type u} {α : Type v} (error : ε) : Option α → Call ε α
  | some value => .ok value
  | none => .error (.err error)

/-- `Result::unwrap_or`: an error is replaced, a panic is not. -/
def unwrapOr {ε : Type u} {φ α : Type v} (default : α) : Call ε α → Call φ α
  | .ok value => .ok value
  | .error (.err _) => .ok default
  | .error .panic => .error .panic

theorem returned_total {ε : Type u} {α : Type v} (result : Except ε α) :
    returned result ≠ .error .panic := by
  cases result <;> simp [returned, Except.mapError]

theorem ok_or_total {ε : Type u} {α : Type v} (error : ε) (value : Option α) :
    okOr error value ≠ .error .panic := by
  cases value <;> simp [okOr]

theorem unwrap_or_total {ε : Type u} {φ α : Type v} (default : α) (call : Call ε α)
    (total : call ≠ .error .panic) : ∃ value, (unwrapOr default call : Call φ α) = .ok value := by
  cases call with
  | ok value => exact ⟨value, rfl⟩
  | error halt =>
    cases halt with
    | err error => exact ⟨default, rfl⟩
    | panic => exact absurd rfl total

/-- Calls in sequence do not panic when none of them does. -/
theorem bind_total {ε : Type u} {α β : Type v} (first : Call ε α) (next : α → Call ε β)
    (firstTotal : first ≠ .error .panic) (nextTotal : ∀ value, next value ≠ .error .panic) :
    (first >>= next) ≠ .error .panic := by
  cases first with
  | ok value => exact nextTotal value
  | error halt =>
    intro panicked
    apply firstTotal
    cases panicked
    rfl

/-- Calls in sequence return if and only if each does. -/
theorem bind_ok_iff {ε : Type u} {α β : Type v} (first : Except ε α) (next : α → Except ε β)
    (result : β) :
    (first >>= next) = .ok result ↔ ∃ value, first = .ok value ∧ next value = .ok result := by
  cases first <;> simp [bind, Except.bind]

@[simp] theorem returned_ok_iff {ε : Type u} {α : Type v} (result : Except ε α) (value : α) :
    returned result = .ok value ↔ result = .ok value := by
  cases result <;> simp [returned, Except.mapError]

@[simp] theorem ok_or_ok_iff {ε : Type u} {α : Type v} (error : ε) (found : Option α) (value : α) :
    okOr error found = .ok value ↔ found = some value := by
  cases found <;> simp [okOr]

/-- Mapping with calls that do not panic does not panic. -/
theorem map_total {ε : Type u} {α : Type v} {β : Type w} (step : α → Call ε β) (values : List α)
    (total : ∀ value, step value ≠ .error .panic) : values.mapM step ≠ .error .panic := by
  induction values with
  | nil => simp [pure, Except.pure]
  | cons value rest inductionHypothesis =>
    rw [List.mapM_cons]
    refine bind_total _ _ (total value) (fun first => ?_)
    exact bind_total _ _ inductionHypothesis (fun others => by simp [pure, Except.pure])

@[simp] theorem to_option_ok {ε : Type u} {α : Type v} (value : α) :
    (Except.ok value : Except ε α).toOption = some value := rfl

@[simp] theorem to_option_error {ε : Type u} {α : Type v} (error : ε) :
    (Except.error error : Except ε α).toOption = none := rfl

@[simp] theorem to_option_some_iff {ε : Type u} {α : Type v} (result : Except ε α) (value : α) :
    result.toOption = some value ↔ result = .ok value := by
  cases result <;> simp

/-- A mapping returns if and only if each of its calls does, and then it returns their
results in order. -/
theorem map_ok_iff {ε : Type u} {α : Type v} {β : Type w} (step : α → Call ε β) (values : List α)
    (results : List β) :
    values.mapM step = .ok results ↔
      values.map (fun value => (step value).toOption) = results.map some := by
  induction values generalizing results with
  | nil => cases results <;> simp [pure, Except.pure]
  | cons value rest inductionHypothesis =>
    rw [List.mapM_cons, List.map_cons]
    cases first : step value with
    | error halt => cases results <;> simp [bind, Except.bind]
    | ok result =>
      cases results with
      | nil => cases rest.mapM step <;> simp [bind, Except.bind, pure, Except.pure]
      | cons head expected =>
        have tails := inductionHypothesis expected
        cases others : rest.mapM step with
        | error halt =>
          rw [others] at tails
          simp [bind, Except.bind, ← tails]
        | ok tail =>
          rw [others] at tails
          simp [bind, Except.bind, pure, Except.pure, ← tails]

/-- A mapping fails if and only if one of its calls does and those before it return. -/
theorem map_error_iff {ε : Type u} {α : Type v} {β : Type w} (step : α → Call ε β)
    (values : List α) (halt : Halt ε) :
    values.mapM step = .error halt ↔ ∃ before value after, values = before ++ value :: after ∧
      (∀ other ∈ before, ∃ result, step other = .ok result) ∧ step value = .error halt := by
  induction values with
  | nil =>
    constructor
    · intro failed
      cases failed
    · rintro ⟨before, value, after, same, -⟩
      simp at same
  | cons value rest inductionHypothesis =>
    rw [List.mapM_cons]
    cases first : step value with
    | error other =>
      constructor
      · intro failed
        cases failed
        exact ⟨[], value, rest, rfl, by simp, first⟩
      · rintro ⟨before, culprit, after, same, returned, fails⟩
        cases before with
        | nil =>
          cases same
          rw [first] at fails
          cases fails
          rfl
        | cons head others =>
          cases same
          obtain ⟨result, ok⟩ := returned value List.mem_cons_self
          rw [first] at ok
          cases ok
    | ok result =>
      have tail : ((do let others ← rest.mapM step; pure (result :: others)) : Call ε (List β)) =
          .error halt ↔ rest.mapM step = .error halt := by
        cases rest.mapM step <;> simp [bind, Except.bind, pure, Except.pure]
      change ((do let others ← rest.mapM step; pure (result :: others)) : Call ε (List β)) =
        .error halt ↔ _
      rw [tail, inductionHypothesis]
      constructor
      · rintro ⟨before, culprit, after, rfl, returned, fails⟩
        exact ⟨value :: before, culprit, after, rfl,
          List.forall_mem_cons.mpr ⟨⟨result, first⟩, returned⟩, fails⟩
      · rintro ⟨before, culprit, after, same, returned, fails⟩
        cases before with
        | nil =>
          cases same
          rw [first] at fails
          cases fails
        | cons head others =>
          cases same
          exact ⟨others, culprit, after, rfl, (List.forall_mem_cons.mp returned).2, fails⟩

/-- A list of results is there if and only if each result is. -/
theorem exists_map_some_iff {α : Type v} {β : Type w} (f : α → Option β) (values : List α) :
    (∃ results : List β, values.map f = results.map some) ↔
      ∀ value ∈ values, ∃ result, f value = some result := by
  constructor
  · rintro ⟨results, same⟩ value member
    have found : f value ∈ results.map some := by
      rw [← same]
      exact List.mem_map_of_mem member
    obtain ⟨result, -, isResult⟩ := List.mem_map.mp found
    exact ⟨result, isResult.symm⟩
  · intro all
    induction values with
    | nil => exact ⟨[], rfl⟩
    | cons value rest inductionHypothesis =>
      obtain ⟨result, found⟩ := all value List.mem_cons_self
      obtain ⟨results, others⟩ :=
        inductionHypothesis (fun other member => all other (List.mem_cons_of_mem _ member))
      exact ⟨result :: results, by simp [found, others]⟩

/-- A mapping that returns keeps the length. -/
theorem map_length {ε : Type u} {α : Type v} {β : Type w} (step : α → Call ε β) (values : List α)
    (results : List β) (returned : values.mapM step = .ok results) :
    results.length = values.length := by
  have same := congrArg List.length ((map_ok_iff step values results).mp returned)
  simpa using same.symm

/-- Two mappings whose calls succeed and fail alike do so as a whole. -/
theorem map_lengths {ε : Type u} {α : Type v} {β γ : Type w} (first : α → Call ε β)
    (second : α → Call ε γ) (values : List α)
    (alike : ∀ value, (first value).map (fun _ => ()) = (second value).map (fun _ => ())) :
    (values.mapM first).map List.length = (values.mapM second).map List.length := by
  induction values with
  | nil => rfl
  | cons value rest inductionHypothesis =>
    have one := alike value
    rw [List.mapM_cons, List.mapM_cons]
    cases left : first value with
    | error halt =>
      cases right : second value with
      | error other =>
        rw [left, right] at one
        cases one
        rfl
      | ok result =>
        rw [left, right] at one
        cases one
    | ok result =>
      cases right : second value with
      | error other =>
        rw [left, right] at one
        cases one
      | ok other =>
        cases lefts : rest.mapM first with
        | error halt =>
          cases rights : rest.mapM second with
          | error halt' =>
            rw [lefts, rights] at inductionHypothesis
            cases inductionHypothesis
            rfl
          | ok others =>
            rw [lefts, rights] at inductionHypothesis
            cases inductionHypothesis
        | ok results =>
          cases rights : rest.mapM second with
          | error halt =>
            rw [lefts, rights] at inductionHypothesis
            cases inductionHypothesis
          | ok others =>
            rw [lefts, rights] at inductionHypothesis
            have same : results.length = others.length := Except.ok.inj inductionHypothesis
            simp [bind, Except.bind, pure, Except.pure, Except.map, same]

/-- Converting the error of a call adds no panic. -/
theorem map_error_total {ε : Type u} {φ : Type v} {α : Type w} (convert : ε → φ) (call : Call ε α)
    (total : call ≠ .error .panic) : call.mapError (Halt.map convert) ≠ .error .panic := by
  cases call with
  | ok value => simp [Except.mapError]
  | error halt =>
    cases halt with
    | err error => simp [Except.mapError, Halt.map]
    | panic => exact absurd rfl total

/-- Functions of the standard library that are defined by the Unicode tables. -/
structure UnicodeTables where
  /-- `str::to_lowercase` -/
  toLowercase : String → String
  /-- the `Debug` rendering of a string, quotes and escapes included -/
  escapeDebug : String → String

/-- The tables restricted to printable ASCII text without quotes and backslashes. -/
def asciiTables : UnicodeTables where
  toLowercase text := String.ofList (text.toList.map Char.toLower)
  escapeDebug text := "\"" ++ text ++ "\""

/-! ## Byte offsets -/

/-- `str::len`: the number of bytes of the UTF-8 encoding. -/
def byteLength (text : List Char) : Nat := (text.map Char.utf8Size).sum

/-- `str::split_at`, and with it the slices `[..n]` and `[n..]`. There is no
result where Rust panics: past the end, or inside a character. -/
def cut : List Char → Nat → Option (List Char × List Char)
  | rest, 0 => some ([], rest)
  | [], _ + 1 => none
  | char :: rest, offset + 1 =>
      if char.utf8Size ≤ offset + 1 then
        (cut rest (offset + 1 - char.utf8Size)).map (fun halves => (char :: halves.1, halves.2))
      else none

/-- `str::find` with a predicate: the byte offset of the first matching character. -/
def find (matching : Char → Bool) : List Char → Option Nat
  | [] => none
  | char :: rest =>
      if matching char then some 0 else (find matching rest).map (char.utf8Size + ·)

@[simp] theorem byte_length_nil : byteLength [] = 0 := rfl

@[simp] theorem byte_length_cons (char : Char) (rest : List Char) :
    byteLength (char :: rest) = char.utf8Size + byteLength rest := by
  simp [byteLength]

/-- A byte at least for each character. -/
theorem length_le_byte_length (text : List Char) : text.length ≤ byteLength text := by
  induction text with
  | nil => exact Nat.le_refl 0
  | cons char rest inductionHypothesis =>
    have positive : 0 < char.utf8Size := char.utf8Size_pos
    rw [List.length_cons, byte_length_cons]
    omega

theorem byte_length_append (left right : List Char) :
    byteLength (left ++ right) = byteLength left + byteLength right := by
  simp [byteLength]

/-- Only the empty string has no bytes. -/
theorem byte_length_zero_iff (text : List Char) : byteLength text = 0 ↔ text = [] := by
  cases text with
  | nil => simp
  | cons char rest =>
    have positive : 0 < char.utf8Size := char.utf8Size_pos
    simp only [byte_length_cons, reduceCtorEq, iff_false]
    omega

/-- A cut at the end of a prefix returns that prefix and what follows it. -/
theorem cut_append (left right : List Char) :
    cut (left ++ right) (byteLength left) = some (left, right) := by
  induction left with
  | nil => cases right <;> rfl
  | cons char rest inductionHypothesis =>
    have positive : 0 < char.utf8Size := char.utf8Size_pos
    obtain ⟨offset, counted⟩ : ∃ offset, byteLength (char :: rest) = offset + 1 :=
      ⟨char.utf8Size + byteLength rest - 1, by rw [byte_length_cons]; omega⟩
    have remaining : offset + 1 - char.utf8Size = byteLength rest := by
      rw [byte_length_cons] at counted
      omega
    have fits : char.utf8Size ≤ offset + 1 := by
      rw [byte_length_cons] at counted
      omega
    rw [counted, List.cons_append, cut, if_pos fits, remaining, inductionHypothesis]
    rfl

/-- A cut after the first byte panics exactly when the first character is not
ASCII, given that there is one. -/
theorem cut_one_none_iff (char : Char) (rest : List Char) :
    cut (char :: rest) 1 = none ↔ char.utf8Size ≠ 1 := by
  have positive : 0 < char.utf8Size := char.utf8Size_pos
  by_cases single : char.utf8Size = 1
  · simp [cut, single]
  · have wide : ¬ char.utf8Size ≤ 0 + 1 := by omega
    simp [cut, wide, single]

/-- The offset of the first match, or the length when there is none, is the
length of the longest prefix without a match. -/
theorem find_offset (matching : Char → Bool) (text : List Char) :
    (find matching text).getD (byteLength text) =
      byteLength (text.takeWhile (fun char => !matching char)) := by
  induction text with
  | nil => rfl
  | cons char rest inductionHypothesis =>
    by_cases matched : matching char = true
    · simp [find, matched]
    · rw [List.takeWhile_cons_of_pos (by simpa using matched), byte_length_cons,
        byte_length_cons, ← inductionHypothesis]
      cases found : find matching rest <;> simp [find, matched, found]

/-! ## Trimming and splitting -/

/-- The Unicode property `White_Space`, which `str::trim` removes. -/
def isWhitespace (char : Char) : Bool :=
  (9 ≤ char.toNat && char.toNat ≤ 13) || char.toNat = 0x20 || char.toNat = 0x85 ||
    char.toNat = 0xA0 || char.toNat = 0x1680 ||
    (0x2000 ≤ char.toNat && char.toNat ≤ 0x200A) || char.toNat = 0x2028 ||
    char.toNat = 0x2029 || char.toNat = 0x202F || char.toNat = 0x205F || char.toNat = 0x3000

/-- `str::trim`. -/
def trim (text : List Char) : List Char :=
  (text.dropWhile isWhitespace).rdropWhile isWhitespace

/-- `str::split_once` with a character. -/
def splitOnce (separator : Char) : List Char → Option (List Char × List Char)
  | [] => none
  | char :: rest =>
      if char = separator then some ([], rest)
      else (splitOnce separator rest).map (fun halves => (char :: halves.1, halves.2))

/-- `str::splitn` with a character: at most `count` pieces, the last unsplit. -/
def splitn (separator : Char) : Nat → List Char → List (List Char)
  | 0, _ => []
  | 1, text => [text]
  | count + 2, text =>
      match splitOnce separator text with
      | none => [text]
      | some (piece, rest) => piece :: splitn separator (count + 1) rest

/-- The first separator splits. -/
theorem split_once_append (separator : Char) (left right : List Char)
    (plain : separator ∉ left) :
    splitOnce separator (left ++ separator :: right) = some (left, right) := by
  induction left with
  | nil => simp [splitOnce]
  | cons char rest inductionHypothesis =>
    obtain ⟨apart, others⟩ : separator ≠ char ∧ separator ∉ rest := by simpa using plain
    simp [splitOnce, Ne.symm apart, inductionHypothesis others]

theorem split_once_none (separator : Char) (text : List Char) (plain : separator ∉ text) :
    splitOnce separator text = none := by
  induction text with
  | nil => rfl
  | cons char rest inductionHypothesis =>
    obtain ⟨apart, others⟩ : separator ≠ char ∧ separator ∉ rest := by simpa using plain
    simp [splitOnce, Ne.symm apart, inductionHypothesis others]

/-- A piece without a separator comes first. -/
theorem splitn_append (separator : Char) (count : Nat) (left right : List Char)
    (plain : separator ∉ left) :
    splitn separator (count + 2) (left ++ separator :: right) =
      left :: splitn separator (count + 1) right := by
  rw [splitn, split_once_append separator left right plain]

theorem splitn_plain (separator : Char) (count : Nat) (text : List Char)
    (plain : separator ∉ text) : splitn separator (count + 1) text = [text] := by
  cases count with
  | zero => rfl
  | succ count => rw [splitn, split_once_none separator text plain]

/-- One piece more than there are separators, up to the bound. -/
theorem splitn_length (separator : Char) (count : Nat) (text : List Char) :
    (splitn separator (count + 1) text).length = min (count + 1) (text.count separator + 1) := by
  induction count generalizing text with
  | zero =>
    simp only [splitn, List.length_singleton]
    omega
  | succ count inductionHypothesis =>
    by_cases member : separator ∈ text
    · obtain ⟨before, after, rfl, plain⟩ := List.eq_append_cons_of_mem member
      have none : before.count separator = 0 := List.count_eq_zero_of_not_mem plain
      rw [splitn_append separator count before after plain, List.length_cons,
        inductionHypothesis, List.count_append, List.count_cons_self, none]
      omega
    · rw [splitn_plain separator (count + 1) text member,
        List.count_eq_zero_of_not_mem member, List.length_singleton]
      omega

/-- The pieces, joined again, are the text. -/
theorem splitn_intercalate (separator : Char) (count : Nat) (text : List Char) :
    [separator].intercalate (splitn separator (count + 1) text) = text := by
  induction count generalizing text with
  | zero => exact List.intercalate_singleton
  | succ count inductionHypothesis =>
    by_cases member : separator ∈ text
    · obtain ⟨before, after, rfl, plain⟩ := List.eq_append_cons_of_mem member
      have others : splitn separator (count + 1) after ≠ [] := by
        have pieces := splitn_length separator count after
        intro nothing
        rw [nothing, List.length_nil] at pieces
        omega
      rw [splitn_append separator count before after plain,
        List.intercalate_cons_of_ne_nil others, inductionHypothesis]
      simp
    · rw [splitn_plain separator (count + 1) text member]
      exact List.intercalate_singleton

/-! ## Numbers -/

/-- The value of a run of ASCII digits. -/
def digitsValue (digits : List Char) : Nat :=
  digits.foldl (fun value char => 10 * value + (char.toNat - '0'.toNat)) 0

/-- The optional plus sign of a number is skipped. -/
def dropSign : List Char → List Char
  | '+' :: rest => rest
  | text => text

/-- `str::parse` for an unsigned integer type with the given number of values:
an optional plus sign, then digits whose value the type can hold. -/
def parseUnsigned (values : Nat) (text : List Char) : Option Nat :=
  let digits := dropSign text
  if digits ≠ [] ∧ digits.all Char.isDigit = true ∧ digitsValue digits < values then
    some (digitsValue digits)
  else none

/-- On a nonempty run of digits, parsing succeeds exactly when the value fits. -/
theorem parse_unsigned_digits (values : Nat) (digits : List Char) (nonempty : digits ≠ [])
    (allDigits : ∀ char ∈ digits, char.isDigit = true) :
    parseUnsigned values digits =
      if digitsValue digits < values then some (digitsValue digits) else none := by
  have unsigned : dropSign digits = digits := by
    unfold dropSign
    split
    · exact absurd (allDigits '+' List.mem_cons_self) (by decide)
    · rfl
  have every : digits.all Char.isDigit = true := List.all_eq_true.mpr allDigits
  simp only [parseUnsigned, unsigned, ne_eq, nonempty, not_false_eq_true, every, true_and]

/-- A digit is a one-byte character. -/
theorem digit_one_byte (char : Char) (digit : char.isDigit = true) : char.utf8Size = 1 := by
  have small : char.val.toNat ≤ 0x7F := by
    simp only [Char.isDigit, Bool.and_eq_true, decide_eq_true_eq, UInt32.le_iff_toNat_le,
      ge_iff_le] at digit
    have upper : char.val.toNat ≤ 57 := digit.2
    omega
  have bound : char.val ≤ 0x7F := UInt32.le_iff_toNat_le.mpr small
  simp [Char.utf8Size, bound]

end VaultwardenOperator.Rust
