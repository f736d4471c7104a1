import Mathlib.Data.List.Basic
import Mathlib.Data.List.TakeWhile
import Mathlib.Tactic.Simps.Basic

/-! # C strings and the buffers that hold them

A C string is the part of a byte array before its first NUL.  A `Buffer size` is
an array of `size` bytes whose content is read as a C string: the terminating NUL
always fits, so a buffer that is not terminated cannot be built.  Writing either
truncates, as `snprintf()` does, or reports that it would run past the array, as
`strncpy()` followed by an explicit terminator may.
-/

namespace CString

/-- The C string at the start of an array of bytes. -/
def cstr (bytes : List UInt8) : List UInt8 := bytes.takeWhile (· ≠ 0)

theorem zero_not_mem_cstr (bytes : List UInt8) : 0 ∉ cstr bytes := by
  intro member
  have nonzero := List.mem_takeWhile_imp member
  simp at nonzero

theorem cstr_length_le (bytes : List UInt8) : (cstr bytes).length ≤ bytes.length :=
  (List.takeWhile_prefix _).length_le

/-- A string without NUL is its own C string. -/
theorem cstr_of_nul_free {bytes : List UInt8} (nulFree : 0 ∉ bytes) : cstr bytes = bytes := by
  rw [cstr, List.takeWhile_eq_self_iff]
  intro byte member
  simpa using fun zero : byte = 0 => nulFree (zero ▸ member)

/-- What is behind the first NUL does not belong to the string. -/
theorem cstr_append_nul {text : List UInt8} (nulFree : 0 ∉ text) (rest : List UInt8) :
    cstr (text ++ 0 :: rest) = text := by
  have own := cstr_of_nul_free nulFree
  rw [cstr, List.takeWhile_eq_self_iff] at own
  rw [cstr, List.takeWhile_append_of_pos own]
  simp

/-! ## Buffers -/

/-- An array of `size` bytes, read as the C string it holds. -/
@[ext] structure Buffer (size : Nat) where
  bytes : List UInt8
  nul_free : 0 ∉ bytes
  fits : bytes.length < size

namespace Buffer

variable {size : Nat}

/-- A zero-initialised array. -/
@[simps] def empty (nonempty : 0 < size) : Buffer size := ⟨[], List.not_mem_nil, nonempty⟩

/-- `buffer[0] = '\0'`. -/
def clear (buffer : Buffer size) : Buffer size := empty (Nat.zero_lt_of_lt buffer.fits)

/-- `snprintf(buffer + strlen(buffer), size - strlen(buffer), "%s", text)`. -/
def append (buffer : Buffer size) (text : List UInt8) : Buffer size where
  bytes := (buffer.bytes ++ cstr text).take (size - 1)
  nul_free := by
    intro member
    rcases List.mem_append.mp (List.mem_of_mem_take member) with old | new
    · exact buffer.nul_free old
    · exact zero_not_mem_cstr text new
  fits := by
    have := buffer.fits
    rw [List.length_take]
    omega

/-- `strncpy(buffer, text, n); buffer[n] = '\0'` with `n = strlen(text)`, or
nothing when byte `n` lies past the end of the array. -/
def copy? (size : Nat) (text : List UInt8) : Option (Buffer size) :=
  if fits : (cstr text).length < size then some ⟨cstr text, zero_not_mem_cstr text, fits⟩ else none

/-- `buffer[index] = byte` for a byte of the string. -/
def poke (buffer : Buffer size) (index : Nat) (byte : UInt8) (nonzero : byte ≠ 0) : Buffer size where
  bytes := buffer.bytes.set index byte
  nul_free := by
    intro member
    rcases List.mem_or_eq_of_mem_set member with old | new
    · exact buffer.nul_free old
    · exact nonzero new.symm
  fits := by simpa using buffer.fits

/-- `buffer[index] = '\0'`. -/
def cut (buffer : Buffer size) (index : Nat) : Buffer size where
  bytes := buffer.bytes.take index
  nul_free member := buffer.nul_free (List.mem_of_mem_take member)
  fits := Nat.lt_of_le_of_lt (List.length_take_le' index buffer.bytes) buffer.fits

@[simp] theorem clear_bytes (buffer : Buffer size) : buffer.clear.bytes = [] := rfl

@[simp] theorem poke_bytes (buffer : Buffer size) (index : Nat) (byte : UInt8) (nonzero : byte ≠ 0) :
    (buffer.poke index byte nonzero).bytes = buffer.bytes.set index byte := rfl

@[simp] theorem cut_bytes (buffer : Buffer size) (index : Nat) :
    (buffer.cut index).bytes = buffer.bytes.take index := rfl

theorem append_bytes (buffer : Buffer size) (text : List UInt8) :
    (buffer.append text).bytes = (buffer.bytes ++ cstr text).take (size - 1) := rfl

/-- An append that leaves room for the terminator is not truncated. -/
theorem append_bytes_of_fits (buffer : Buffer size) {text : List UInt8} (nulFree : 0 ∉ text)
    (fits : buffer.bytes.length + text.length < size) :
    (buffer.append text).bytes = buffer.bytes ++ text := by
  rw [append_bytes, cstr_of_nul_free nulFree, List.take_of_length_le]
  rw [List.length_append]
  omega

theorem copy?_bytes (size : Nat) {text : List UInt8} (nulFree : 0 ∉ text) (fits : text.length < size) :
    ∃ buffer : Buffer size, copy? size text = some buffer ∧ buffer.bytes = text := by
  have same := cstr_of_nul_free nulFree
  refine ⟨⟨text, nulFree, fits⟩, ?_, rfl⟩
  simp [copy?, same, fits]

end Buffer

/-! ## Printing -/

/-- `INT_MAX` of a 32-bit `int`. -/
def intMax : Nat := 0x7FFFFFFF

/-- `snprintf(memory, size, "%s", text)`: what it returns, and the memory after the call.
A length that is not an `int` is reported as an error (`EOVERFLOW`). -/
def snprintf (memory : List UInt8) (size : Nat) (text : List UInt8) : Int × List UInt8 :=
  let written := if size = 0 then [] else text.take (size - 1) ++ [0]
  (if text.length ≤ intMax then text.length else -1, written ++ memory.drop written.length)

section Printing

variable {memory text : List UInt8} {size : Nat}

/-- What is in the memory is the text, cut off so that it fits with its NUL. -/
theorem cstr_snprintf (nulFree : 0 ∉ text) (room : 0 < size) (memory : List UInt8) :
    cstr (snprintf memory size text).2 = text.take (size - 1) := by
  simp only [snprintf, if_neg (Nat.pos_iff_ne_zero.mp room), List.append_assoc]
  exact cstr_append_nul (fun member => nulFree (List.mem_of_mem_take member)) _

theorem snprintf_written (room : 0 < size) :
    ∃ written, (snprintf memory size text).2 = written ++ memory.drop written.length ∧
      written.length ≤ size ∧ 0 ∈ written := by
  refine ⟨text.take (size - 1) ++ [0], ?_, ?_, by simp⟩
  · simp only [snprintf, if_neg (Nat.pos_iff_ne_zero.mp room)]
  · rw [List.length_append, List.length_take, List.length_singleton]
    omega

/-- A NUL is within the first `size` bytes, and all behind them is left as it was. -/
theorem snprintf_within (room : 0 < size) (long : size ≤ memory.length) :
    (0 : UInt8) ∈ (snprintf memory size text).2.take size ∧
      (snprintf memory size text).2.drop size = memory.drop size ∧
      (snprintf memory size text).2.length = memory.length := by
  obtain ⟨written, equal, short, nul⟩ := @snprintf_written memory text size room
  rw [equal]
  refine ⟨?_, ?_, ?_⟩
  · rw [List.take_append, List.take_of_length_le short]
    exact List.mem_append_left _ nul
  · rw [List.drop_append, List.drop_eq_nil_of_le short, List.nil_append, List.drop_drop,
      Nat.add_sub_cancel' short]
  · rw [List.length_append, List.length_drop]
    omega

end Printing

/-! ## Numbers -/

/-- `isspace()` in the C locale. -/
def isspace (byte : UInt8) : Bool := byte == 32 || (9 ≤ byte && byte ≤ 13)

/-- `isdigit()` in the C locale. -/
def isdigit (byte : UInt8) : Bool := 48 ≤ byte && byte ≤ 57

/-- The number a string of decimal digits denotes. -/
def decimal (digits : List UInt8) : Nat :=
  digits.foldl (fun value digit => 10 * value + (digit.toNat - 48)) 0

/-- `LONG_MAX` and `LONG_MIN` of a 64-bit `long`. -/
def longMax : Int := 0x7FFFFFFFFFFFFFFF
def longMin : Int := -0x8000000000000000

/-- What `strtol()` reports: the value, the string at `*endptr`, and whether
`errno` is `ERANGE`. -/
structure Strtol where
  value : Int
  rest : List UInt8
  erange : Bool

/-- The optional sign of a number: whether it is a minus, and what follows it. -/
def splitSign : List UInt8 → Bool × List UInt8
  | 43 :: text => (false, text)
  | 45 :: text => (true, text)
  | text => (false, text)

/-- `strtol(text, &ep, 10)`. -/
def strtol (text : List UInt8) : Strtol :=
  let (negative, unsigned) := splitSign (text.dropWhile isspace)
  let digits := unsigned.takeWhile isdigit
  let rest := unsigned.dropWhile isdigit
  let value : Int := if negative then -(decimal digits : Int) else decimal digits
  if digits.isEmpty then ⟨0, text, false⟩
  else if value > longMax then ⟨longMax, rest, true⟩
  else if value < longMin then ⟨longMin, rest, true⟩
  else ⟨value, rest, false⟩

/-! ## Comparison -/

/-- `tolower()` in the C locale. -/
def tolower (byte : UInt8) : UInt8 := if 65 ≤ byte ∧ byte ≤ 90 then byte + 32 else byte

/-- `strcasecmp(left, right) == 0`. -/
def strcaseeq (left right : List UInt8) : Bool := left.map tolower == right.map tolower

end CString
