import Cwdaemon.Foundations.CString

/-! # What `strtol()` and `strcasecmp()` accept

`Denotes` says what it is for a text to be a number and nothing else.  `strtol()` gets
to the end of a text, and into the range of `long`, exactly for these.  Strings that
`strcasecmp()` takes as equal agree on their length and on where they are blank.
-/

namespace CString

/-- The text of an optional sign, and whether it is a minus. -/
inductive Sign : List UInt8 → Bool → Prop
  | none : Sign [] false
  | plus : Sign [43] false
  | minus : Sign [45] true

/-- The number that digits denote behind a sign. -/
def signed (negative : Bool) (magnitude : Nat) : Int := if negative then -(magnitude : Int) else magnitude

/-- White space, a sign and decimal digits, with nothing behind them. -/
def Numeral (text : List UInt8) (value : Int) : Prop :=
  ∃ blanks sign digits negative, text = blanks ++ (sign ++ digits) ∧
    (∀ char ∈ blanks, isspace char = true) ∧ Sign sign negative ∧
    digits ≠ [] ∧ (∀ char ∈ digits, isdigit char = true) ∧ value = signed negative (decimal digits)

/-- The text is a number that fits a `long`. -/
def Denotes (text : List UInt8) (value : Int) : Prop :=
  Numeral text value ∧ longMin ≤ value ∧ value ≤ longMax

/-! ## Cutting a text -/

theorem takeWhile_append_all {Char : Type} {test : Char → Bool} {front rest : List Char}
    (all : ∀ char ∈ front, test char = true) (stops : rest.head?.any test = false) :
    (front ++ rest).takeWhile test = front ∧ (front ++ rest).dropWhile test = rest := by
  induction front with
  | nil =>
    cases rest with
    | nil => exact ⟨rfl, rfl⟩
    | cons first rest =>
      have stop : test first = false := by simpa using stops
      simp [stop]
  | cons first front inductionHypothesis =>
    obtain ⟨here, later⟩ := List.forall_mem_cons.mp all
    obtain ⟨taken, dropped⟩ := inductionHypothesis later
    simp [here, taken, dropped]

theorem splitSign_parts (text : List UInt8) :
    ∃ sign, text = sign ++ (splitSign text).2 ∧ Sign sign (splitSign text).1 := by
  unfold splitSign
  split
  · exact ⟨[43], rfl, .plus⟩
  · exact ⟨[45], rfl, .minus⟩
  · exact ⟨[], rfl, .none⟩

theorem not_sign_of_isdigit {char : UInt8} (digit : isdigit char = true) : char ≠ 43 ∧ char ≠ 45 := by
  constructor <;> rintro rfl <;> exact absurd digit (by decide)

/-- White space comes before any digit and any letter. -/
theorem not_isspace_of_above {char : UInt8} (above : 32 < char.toNat) : isspace char = false := by
  cases blank : isspace char with
  | false => rfl
  | true =>
    simp only [isspace, Bool.or_eq_true, beq_iff_eq, Bool.and_eq_true, decide_eq_true_eq,
      UInt8.le_iff_toNat_le] at blank
    rcases blank with rfl | ⟨-, below⟩
    · exact absurd above (by decide)
    · have limit : (13 : UInt8).toNat = 13 := rfl
      omega

theorem not_isspace_of_isdigit {char : UInt8} (digit : isdigit char = true) : isspace char = false := by
  simp only [isdigit, Bool.and_eq_true, decide_eq_true_eq, UInt8.le_iff_toNat_le] at digit
  have limit : (48 : UInt8).toNat = 48 := rfl
  exact not_isspace_of_above (by omega)

variable {sign digits : List UInt8} {negative : Bool}

/-- The sign is found in front of digits. -/
theorem splitSign_append (isSign : Sign sign negative) (some : digits ≠ [])
    (all : ∀ char ∈ digits, isdigit char = true) : splitSign (sign ++ digits) = (negative, digits) := by
  cases isSign with
  | plus | minus => rfl
  | none =>
    obtain ⟨first, rest, rfl⟩ := List.exists_cons_of_ne_nil some
    obtain ⟨plus, minus⟩ := not_sign_of_isdigit (all first List.mem_cons_self)
    unfold splitSign
    split
    · simp_all
    · simp_all
    · rfl

/-- A signed number does not start with white space. -/
theorem not_isspace_head (isSign : Sign sign negative) (all : ∀ char ∈ digits, isdigit char = true) :
    (sign ++ digits).head?.any isspace = false := by
  cases isSign with
  | plus | minus => rfl
  | none =>
    cases digits with
    | nil => rfl
    | cons first rest => simpa using not_isspace_of_isdigit (all first List.mem_cons_self)

/-! ## `strtol()` -/

/-- What `strtol()` reports of a number. -/
def clampLong (value : Int) : Strtol :=
  if value > longMax then ⟨longMax, [], true⟩
  else if value < longMin then ⟨longMin, [], true⟩
  else ⟨value, [], false⟩

theorem strtol_numeral {text : List UInt8} {value : Int} (numeral : Numeral text value) :
    strtol text = clampLong value := by
  obtain ⟨blanks, sign, digits, negative, rfl, blank, isSign, some, all, rfl⟩ := numeral
  have skipped := (takeWhile_append_all blank (not_isspace_head isSign all)).2
  have read := @takeWhile_append_all _ _ _ [] all rfl
  rw [List.append_nil] at read
  have nonempty : digits.isEmpty = false := by simpa using some
  simp only [strtol, skipped, splitSign_append isSign some all, read.1, read.2, nonempty, clampLong, signed]
  rfl

/-- When `strtol()` leaves nothing over, the text is a number, or there is no text. -/
theorem numeral_of_strtol {text : List UInt8} (nonempty : text ≠ []) (read : (strtol text).rest = []) :
    ∃ value, Numeral text value := by
  obtain ⟨sign, parts, isSign⟩ := splitSign_parts (text.dropWhile isspace)
  unfold strtol at read
  generalize splitSign (text.dropWhile isspace) = split at parts isSign read
  obtain ⟨negative, unsigned⟩ := split
  have some : unsigned.takeWhile isdigit ≠ [] := by
    intro none
    -- Without a digit `strtol()` reports that it has read nothing.
    simp only [none, List.isEmpty_nil, if_true] at read
    exact nonempty read
  have consumed : unsigned.dropWhile isdigit = [] := by
    have digits : (unsigned.takeWhile isdigit).isEmpty = false := by simpa using some
    simpa only [digits, Bool.false_eq_true, if_false, apply_ite Strtol.rest, ite_self] using read
  have all : ∀ char ∈ unsigned, isdigit char = true := by simpa [List.dropWhile_eq_nil_iff] using consumed
  have whole : unsigned.takeWhile isdigit = unsigned := List.takeWhile_eq_self_iff.mpr all
  refine ⟨_, text.takeWhile isspace, sign, unsigned, negative, ?_, fun _ => List.mem_takeWhile_imp, isSign,
    whole ▸ some, all, rfl⟩
  rw [← parts, List.takeWhile_append_dropWhile]

/-! ## `strcasecmp()` -/

theorem isspace_tolower (char : UInt8) : isspace (tolower char) = isspace char := by
  unfold tolower
  split
  case isTrue upper =>
    -- Neither a letter nor the letter that it is lowered to is white space.
    have low : 65 ≤ char.toNat := UInt8.le_iff_toNat_le.mp upper.1
    have high : char.toNat ≤ 90 := UInt8.le_iff_toNat_le.mp upper.2
    have lowered : (char + 32).toNat = char.toNat + 32 := by
      rw [UInt8.toNat_add]
      exact Nat.mod_eq_of_lt (by simp; omega)
    rw [not_isspace_of_above (by omega), not_isspace_of_above (by omega)]
  case isFalse => rfl

section Case

variable {left right : List UInt8} (same : strcaseeq left right = true)
include same

theorem strcaseeq_length : left.length = right.length := by
  have maps : left.map tolower = right.map tolower := by simpa [strcaseeq] using same
  simpa using congrArg List.length maps

theorem strcaseeq_map_isspace : left.map isspace = right.map isspace := by
  have maps : left.map tolower = right.map tolower := by simpa [strcaseeq] using same
  simpa [Function.comp_def, isspace_tolower] using congrArg (List.map isspace) maps

theorem strcaseeq_head : left.head?.any isspace = right.head?.any isspace := by
  have heads := congrArg (fun blanks => blanks.head?.any id) (strcaseeq_map_isspace same)
  simpa [Option.any_map] using heads

theorem strcaseeq_getLast : left.getLast?.any isspace = right.getLast?.any isspace := by
  have lasts := congrArg (fun blanks => blanks.getLast?.any id) (strcaseeq_map_isspace same)
  simpa [Option.any_map] using lasts

end Case

end CString
