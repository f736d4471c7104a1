import Cwdaemon.Foundations.Parsing
import Cwdaemon.Verified.SerialLines

/-! # The options of the serial driver

An option is accepted exactly if it is a function, an equals sign and a line, in upper
or lower case and with nothing else.  Which function is meant is decided by trying one
keyword after the other, so most of this is about one keyword.
-/

namespace Cwdaemon

open CString State

/-! ## One keyword -/

theorem findOptValue_without_equals {input : Bytes} (free : byte '=' ∉ input) (keyword : Bytes) :
    findOptValue input keyword = none := by
  have dropped : input.dropWhile (· ≠ byte '=') = [] := by
    refine List.dropWhile_eq_nil_iff.mpr fun char member => ?_
    simpa using fun equal : char = byte '=' => free (equal ▸ member)
  simp only [findOptValue, dropped]

/-- The checks, for an option that is cut at its first equals sign. -/
theorem findOptValue_append {key : Bytes} (free : byte '=' ∉ key) (value keyword : Bytes) :
    findOptValue (key ++ byte '=' :: value) keyword =
      if key = [] then none
      else if key.getLast?.any isspace ∨ value.head?.any isspace then none
      else if key.length ≠ keyword.length then none
      else if strcaseeq key keyword then some value
      else none := by
  have kept : ∀ char ∈ key, (decide (char ≠ byte '=')) = true := by
    intro char member
    simpa using fun equal : char = byte '=' => free (equal ▸ member)
  obtain ⟨taken, dropped⟩ := @takeWhile_append_all _ _ _ (byte '=' :: value) kept (by simp)
  simp only [findOptValue, taken, dropped]

/-- The value is found exactly if the option is the keyword, an equals sign and the value,
with no white space around the equals sign. -/
theorem findOptValue_iff {input keyword value : Bytes} (nonempty : keyword ≠ [])
    (tight : keyword.getLast?.any isspace = false) :
    findOptValue input keyword = some value ↔
      ∃ key, input = key ++ byte '=' :: value ∧ byte '=' ∉ key ∧ strcaseeq key keyword = true ∧
        value.head?.any isspace = false := by
  constructor
  · intro found
    by_cases equals : byte '=' ∈ input
    · obtain ⟨key, rest, rfl, free⟩ := List.eq_append_cons_of_mem equals
      rw [findOptValue_append free] at found
      split at found
      · cases found
      · split at found
        · cases found
        case isFalse bare =>
          split at found
          · cases found
          · split at found
            case isFalse => cases found
            case isTrue same =>
              cases found
              exact ⟨key, rfl, free, same, by simpa using (not_or.mp bare).2⟩
    · rw [findOptValue_without_equals equals] at found
      cases found
  · rintro ⟨key, rfl, free, same, bare⟩
    have length := strcaseeq_length same
    have named : key ≠ [] := by
      intro none
      subst none
      exact nonempty (List.length_eq_zero_iff.mp length.symm)
    have tight' : key.getLast?.any isspace = false := by rw [strcaseeq_getLast same, tight]
    rw [findOptValue_append free]
    simp [named, tight', bare, length, same]

/-! ## Functions and lines -/

inductive TtyFunction where
  | key
  | ptt
  deriving DecidableEq, Repr

def TtyFunction.keyword : TtyFunction → Bytes
  | key => [byte 'k', byte 'e', byte 'y']
  | ptt => [byte 'p', byte 't', byte 't']

/-- The names of the lines; "none" is for a function that is opted out. -/
def pinNames : List (Bytes × BitVec 32) :=
  [([byte 'd', byte 't', byte 'r'], TIOCM_DTR), ([byte 'r', byte 't', byte 's'], TIOCM_RTS),
    ([byte 'n', byte 'o', byte 'n', byte 'e'], 0#32)]

namespace TtyDriverOptions

def pin (dropt : TtyDriverOptions) : TtyFunction → BitVec 32
  | .key => dropt.key
  | .ptt => dropt.ptt

def assign (dropt : TtyDriverOptions) (function : TtyFunction) (pin : BitVec 32) : TtyDriverOptions :=
  match function with
  | .key => { dropt with key := pin }
  | .ptt => { dropt with ptt := pin }

@[simp] theorem pin_assign (dropt : TtyDriverOptions) (function : TtyFunction) (pin : BitVec 32) :
    (dropt.assign function pin).pin function = pin := by cases function <;> rfl

theorem pin_assign_of_ne (dropt : TtyDriverOptions) {function other : TtyFunction} (unequal : other ≠ function)
    (pin : BitVec 32) : (dropt.assign function pin).pin other = dropt.pin other := by
  cases function <;> cases other <;> first | rfl | exact absurd rfl unequal

end TtyDriverOptions

/-- The option is a function, an equals sign and a line, and nothing else. -/
def Names (option : Bytes) (function : TtyFunction) (pin : BitVec 32) : Prop :=
  ∃ key value name, option = key ++ byte '=' :: value ∧ strcaseeq key function.keyword = true ∧
    strcaseeq value name = true ∧ (name, pin) ∈ pinNames

theorem ttyPin_iff {value : Bytes} {pin : BitVec 32} :
    ttyPin value = some pin ↔ ∃ name, strcaseeq value name = true ∧ (name, pin) ∈ pinNames := by
  constructor
  · intro named
    unfold ttyPin at named
    split at named
    case isTrue dtr =>
      cases named
      exact ⟨_, dtr, by simp [pinNames]⟩
    case isFalse =>
      split at named
      case isTrue rts =>
        cases named
        exact ⟨_, rts, by simp [pinNames]⟩
      case isFalse =>
        split at named
        case isTrue none =>
          cases named
          exact ⟨_, none, by simp [pinNames]⟩
        case isFalse => cases named
  · rintro ⟨name, same, member⟩
    -- Only the lower case of the value matters.
    have lowered : value.map tolower = name.map tolower := by simpa [strcaseeq] using same
    simp only [ttyPin, strcaseeq, lowered]
    simp only [pinNames, List.mem_cons, Prod.mk.injEq, List.not_mem_nil, or_false] at member
    rcases member with ⟨rfl, rfl⟩ | ⟨rfl, rfl⟩ | ⟨rfl, rfl⟩ <;> decide

namespace TtyFunction

theorem keyword_ne_nil (function : TtyFunction) : function.keyword ≠ [] := by cases function <;> decide

theorem keyword_tight (function : TtyFunction) : function.keyword.getLast?.any isspace = false := by
  cases function <;> decide

/-- A function is not named by something with an equals sign in it. -/
theorem not_mem_of_keyword {key : Bytes} {function : TtyFunction} (same : strcaseeq key function.keyword = true) :
    byte '=' ∉ key := by
  intro member
  have lowered : key.map tolower = function.keyword.map tolower := by simpa [strcaseeq] using same
  have found : tolower (byte '=') ∈ function.keyword.map tolower := lowered ▸ List.mem_map_of_mem member
  cases function <;> exact absurd found (by decide)

/-- What is one keyword is not another one. -/
theorem eq_of_keyword {key : Bytes} {function other : TtyFunction} (same : strcaseeq key function.keyword = true)
    (same' : strcaseeq key other.keyword = true) : function = other := by
  have lowered : key.map tolower = function.keyword.map tolower := by simpa [strcaseeq] using same
  have lowered' : key.map tolower = other.keyword.map tolower := by simpa [strcaseeq] using same'
  have equal := lowered.symm.trans lowered'
  cases function <;> cases other <;> first | rfl | exact absurd equal (by decide)

end TtyFunction

theorem names_iff {option : Bytes} {function : TtyFunction} {pin : BitVec 32} :
    Names option function pin ↔
      ∃ value, findOptValue option function.keyword = some value ∧ ttyPin value = some pin := by
  simp only [findOptValue_iff function.keyword_ne_nil function.keyword_tight, ttyPin_iff]
  constructor
  · rintro ⟨key, value, name, rfl, same, named, member⟩
    have bare : value.head?.any isspace = false := by
      rw [strcaseeq_head named]
      simp only [pinNames, List.mem_cons, Prod.mk.injEq, List.not_mem_nil, or_false] at member
      rcases member with ⟨rfl, -⟩ | ⟨rfl, -⟩ | ⟨rfl, -⟩ <;> decide
    exact ⟨value, ⟨key, rfl, TtyFunction.not_mem_of_keyword same, same, bare⟩, name, named, member⟩
  · rintro ⟨value, ⟨key, rfl, -, same, -⟩, name, named, member⟩
    exact ⟨key, value, name, rfl, same, named, member⟩

/-- An option that is about one function is not about the other. -/
theorem findOptValue_other {option value : Bytes} {function other : TtyFunction}
    (found : findOptValue option function.keyword = some value) (unequal : other ≠ function) :
    findOptValue option other.keyword = none := by
  obtain ⟨key, rfl, free, same, -⟩ :=
    (findOptValue_iff function.keyword_ne_nil function.keyword_tight).mp found
  have different : ¬ strcaseeq key other.keyword = true := fun same' => unequal (TtyFunction.eq_of_keyword same' same)
  rw [findOptValue_append free]
  simp [different]

/-! ## `ttys_optparse()` -/

theorem optparse_of_names {option : Bytes} {function : TtyFunction} {pin : BitVec 32}
    (names : Names option function pin) (dropt : TtyDriverOptions) :
    optparse option dropt = (true, dropt.assign function pin) := by
  obtain ⟨value, found, named⟩ := names_iff.mp names
  cases function with
  | key =>
    simp only [TtyFunction.keyword] at found
    simp only [optparse, found, named]
    rfl
  | ptt =>
    have other : findOptValue option TtyFunction.key.keyword = none := findOptValue_other found (by decide)
    simp only [TtyFunction.keyword] at found other
    simp only [optparse, other, found, named]
    rfl

theorem optparse_of_not_names {option : Bytes} (nothing : ¬ ∃ function pin, Names option function pin)
    (dropt : TtyDriverOptions) : optparse option dropt = (false, dropt) := by
  have unnamed (function : TtyFunction) {value : Bytes} (found : findOptValue option function.keyword = some value) :
      ttyPin value = none := by
    refine Option.eq_none_iff_forall_not_mem.mpr fun pin named => ?_
    exact nothing ⟨function, pin, names_iff.mpr ⟨value, found, named⟩⟩
  cases key : findOptValue option [byte 'k', byte 'e', byte 'y'] with
  | some value => simp only [optparse, key, unnamed .key key]
  | none =>
    cases ptt : findOptValue option [byte 'p', byte 't', byte 't'] with
    | some value => simp only [optparse, key, ptt, unnamed .ptt ptt]
    | none => simp only [optparse, key, ptt]

/-! ## The command line -/

theorem ttysOptparse_isSome (option : Bytes) (state : State) :
    (state.ttysOptparse option).isSome = (optparse option state.lines).1 := by
  simp only [State.ttysOptparse, State.lines, State.options]
  rcases optparse option (state.devices .ttys).ttyOptions with ⟨_ | _, dropt⟩ <;> rfl

/-- The lines after options, one after the other. -/
def parsedLines (options : List Bytes) (lines : TtyDriverOptions) : TtyDriverOptions :=
  options.foldl (fun lines option => (optparse option lines).2) lines

/-- A function that is not named keeps its line. -/
theorem parsedLines_of_unnamed {options : List Bytes} {function : TtyFunction}
    (unnamed : ∀ option ∈ options, ∀ pin, ¬ Names option function pin) (lines : TtyDriverOptions) :
    (parsedLines options lines).pin function = lines.pin function := by
  induction options generalizing lines with
  | nil => rfl
  | cons option options inductionHypothesis =>
    obtain ⟨first, rest⟩ := List.forall_mem_cons.mp unnamed
    have kept : (optparse option lines).2.pin function = lines.pin function := by
      by_cases named : ∃ other pin, Names option other pin
      · obtain ⟨other, pin, names⟩ := named
        rw [optparse_of_names names]
        have unequal : function ≠ other := by
          rintro rfl
          exact first pin names
        exact lines.pin_assign_of_ne unequal pin
      · rw [optparse_of_not_names named]
    exact (inductionHypothesis rest _).trans kept

/-- A function has the line that it was given last. -/
theorem parsedLines_of_named {earlier later : List Bytes} {option : Bytes} {function : TtyFunction} {pin : BitVec 32}
    (names : Names option function pin) (last : ∀ other ∈ later, ∀ pin, ¬ Names other function pin)
    (lines : TtyDriverOptions) : (parsedLines (earlier ++ option :: later) lines).pin function = pin := by
  have split : parsedLines (earlier ++ option :: later) lines =
      parsedLines later (optparse option (parsedLines earlier lines)).2 := by
    simp [parsedLines, List.foldl_append]
  rw [split, parsedLines_of_unnamed last, optparse_of_names names]
  exact TtyDriverOptions.pin_assign _ function pin

/-- The arguments of a command line that has options only. -/
def optionArgs (options : List (World × Bytes)) : List (World × Arg) :=
  options.map fun option => (option.1, .options option.2)

theorem argsProcessAll_parsedLines {options : List (World × Bytes)} {state after : State}
    (processed : argsProcessAll (optionArgs options) state = some after) :
    after.lines = parsedLines (options.map Prod.snd) state.lines ∧
      ∀ option ∈ options.map Prod.snd, ∃ function pin, Names option function pin := by
  induction options generalizing state with
  | nil =>
    cases processed
    exact ⟨rfl, by simp⟩
  | cons option options inductionHypothesis =>
    obtain ⟨next, first, rest⟩ := Option.bind_eq_some_iff.mp processed
    obtain ⟨lines, named⟩ := inductionHypothesis rest
    have assigned : next.lines = (optparse option.2 state.lines).2 := by
      unfold State.lines
      rw [argsProcess_options first, Function.update_self]
      rfl
    have accepted : ∃ function pin, Names option.2 function pin := by
      by_contra nothing
      rcases argsProcess_cases first with ⟨name, other, -⟩ | ⟨_, same, -, parsed⟩ | ⟨-, other, -⟩
      · cases other
      · cases same
        have some := congrArg Option.isSome parsed
        rw [ttysOptparse_isSome, optparse_of_not_names nothing] at some
        cases some
      · exact absurd rfl (other _)
    exact ⟨by rw [lines, assigned]; rfl, List.forall_mem_cons.mpr ⟨accepted, named⟩⟩

/-- An option is accepted exactly if it names a function and a line; then this function
has this line and the other keeps its own, and else both keep theirs.  Below this, a
keyword is found exactly if it stands in front of the first equals sign, in upper or
lower case.  After options that are accepted, each function has the line that it was
given last, or the one it had before. -/
theorem pin_options_are_parsed_exactly :
    (∀ (option : Bytes) (dropt : TtyDriverOptions),
      ((optparse option dropt).1 = true ↔ ∃ function pin, Names option function pin) ∧
      (∀ function pin, Names option function pin → (optparse option dropt).2 = dropt.assign function pin) ∧
      ((optparse option dropt).1 = false → (optparse option dropt).2 = dropt)) ∧
    (∀ input keyword value : Bytes, keyword ≠ [] → byte '=' ∉ keyword → keyword.getLast?.any isspace = false →
      (findOptValue input keyword = some value ↔
        ∃ key, input = key ++ byte '=' :: value ∧ byte '=' ∉ key ∧ strcaseeq key keyword = true ∧
          value.head?.any isspace = false)) ∧
    ∀ (options : List (World × Bytes)) (state after : State), argsProcessAll (optionArgs options) state = some after →
      (∀ option ∈ options.map Prod.snd, ∃ function pin, Names option function pin) ∧
      ∀ function,
        ((∀ option ∈ options.map Prod.snd, ∀ pin, ¬ Names option function pin) →
          after.lines.pin function = state.lines.pin function) ∧
        ∀ earlier option later pin, options.map Prod.snd = earlier ++ option :: later → Names option function pin →
          (∀ other ∈ later, ∀ pin, ¬ Names other function pin) → after.lines.pin function = pin := by
  refine ⟨fun option dropt => ?_, fun input keyword value nonempty _ tight => findOptValue_iff nonempty tight,
    fun options state after processed => ?_⟩
  · by_cases named : ∃ function pin, Names option function pin
    · obtain ⟨function, pin, names⟩ := named
      refine ⟨iff_of_true (by rw [optparse_of_names names]) ⟨function, pin, names⟩, fun _ _ names => ?_, ?_⟩
      · rw [optparse_of_names names]
      · rw [optparse_of_names names]
        nofun
    · rw [optparse_of_not_names named]
      exact ⟨iff_of_false nofun named, fun function pin names => absurd ⟨function, pin, names⟩ named, fun _ => rfl⟩
  · obtain ⟨lines, named⟩ := argsProcessAll_parsedLines processed
    refine ⟨named, fun function => ⟨fun unnamed => ?_, fun earlier option later pin split names last => ?_⟩⟩
    · rw [lines, parsedLines_of_unnamed unnamed]
    · rw [lines, split, parsedLines_of_named names last]

/-- "KEY=Rts" swaps the key to RTS. -/
theorem pin_option_in_capitals :
    (optparse [byte 'K', byte 'E', byte 'Y', byte '=', byte 'R', byte 't', byte 's'] ⟨TIOCM_DTR, 0#32⟩).2 =
      ⟨TIOCM_RTS, 0#32⟩ :=
  (pin_options_are_parsed_exactly.1 _ _).2.1 .key TIOCM_RTS
    ⟨[byte 'K', byte 'E', byte 'Y'], [byte 'R', byte 't', byte 's'], [byte 'r', byte 't', byte 's'], rfl,
      by decide, by decide, by decide⟩

end Cwdaemon
