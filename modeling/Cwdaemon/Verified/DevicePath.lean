import Cwdaemon.Daemon.Devices

/-! # Device paths are built exactly or refused

The two branches of `build_full_device_path()` print one path, the full path of the
device, so what is true of `snprintf()` is true of both.
-/

namespace Cwdaemon

open CString

/-- The full path of a device. -/
def fullDevicePath (input : Bytes) : Bytes := if devDir.isPrefixOf input then input else devDir ++ input

theorem isPrefixOf_fullDevicePath (input : Bytes) : devDir.isPrefixOf (fullDevicePath input) = true := by
  unfold fullDevicePath
  split
  case isTrue absolute => exact absolute
  case isFalse => exact List.isPrefixOf_iff_prefix.mpr (List.prefix_append devDir input)

/-- A full path is its own full path. -/
theorem fullDevicePath_idem (input : Bytes) : fullDevicePath (fullDevicePath input) = fullDevicePath input :=
  if_pos (isPrefixOf_fullDevicePath input)

theorem fullDevicePath_nul_free {input : Bytes} (nulFree : 0 ∉ input) : 0 ∉ fullDevicePath input := by
  unfold fullDevicePath
  split
  · exact nulFree
  · intro member
    rcases List.mem_append.mp member with directory | name
    · exact absurd directory (by decide)
    · exact nulFree name

theorem fullDevicePath_length (input : Bytes) : 0 < (fullDevicePath input).length :=
  Nat.lt_of_lt_of_le (by decide) (List.isPrefixOf_iff_prefix.mp (isPrefixOf_fullDevicePath input)).length_le

/-- Both branches print the full path. -/
theorem buildFullDevicePathIn_eq {size : Nat} (room : 0 < size) (result input : Bytes) :
    buildFullDevicePathIn result size input =
      (if (fullDevicePath input).length < size ∧ (fullDevicePath input).length ≤ intMax then 0 else -ENAMETOOLONG,
        (snprintf result size (fullDevicePath input)).2) := by
  have printed (text : Bytes) (positive : 0 < text.length) :
      (if (snprintf result size text).1 ≤ 0 ∨ (snprintf result size text).1.toNat ≥ size then
          (-ENAMETOOLONG, (snprintf result size text).2)
        else (0, (snprintf result size text).2)) =
        (if text.length < size ∧ text.length ≤ intMax then 0 else -ENAMETOOLONG, (snprintf result size text).2) := by
    have returned : (snprintf result size text).1 = if text.length ≤ intMax then (text.length : Int) else -1 := rfl
    rw [returned]
    by_cases short : text.length ≤ intMax
    · by_cases fits : text.length < size
      · rw [if_pos short, if_neg (by omega), if_pos ⟨fits, short⟩]
      · rw [if_pos short, if_pos (by omega), if_neg (by omega)]
    · rw [if_neg short, if_pos (by omega), if_neg (by omega)]
  have positive := fullDevicePath_length input
  unfold buildFullDevicePathIn fullDevicePath at *
  rw [if_neg (Nat.pos_iff_ne_zero.mp room)]
  split
  case isTrue absolute =>
    rw [if_pos absolute] at positive
    exact printed input positive
  case isFalse relative =>
    rw [if_neg relative] at positive
    exact printed (devDir ++ input) positive

/-- What was in the buffer does not matter to a probe. -/
theorem buildFullDevicePath_iff {size : Nat} (room : 0 < size) {input : Bytes} (nulFree : 0 ∉ input)
    (result path : Bytes) :
    buildFullDevicePath size input = some path ↔
      (buildFullDevicePathIn result size input).1 = 0 ∧ cstr (buildFullDevicePathIn result size input).2 = path := by
  have held (memory : Bytes) := cstr_snprintf (fullDevicePath_nul_free nulFree) room memory
  simp only [buildFullDevicePath, buildFullDevicePathIn_eq room, held]
  by_cases fits : (fullDevicePath input).length < size ∧ (fullDevicePath input).length ≤ intMax
  · simp [if_pos fits]
  · simp [if_neg fits, ENAMETOOLONG]

/-- The path is built exactly if it fits with its NUL, and its length is an `int`, which
is what `snprintf()` can report; and else it is refused and cut off.  The buffer always
ends in a NUL and nothing behind it is written, and a path that was built is built again
from itself. -/
theorem device_path_is_built_or_refused (result : Bytes) {size : Nat} (room : 0 < size) (long : size ≤ result.length)
    {input : Bytes} (nulFree : 0 ∉ input) :
    ((buildFullDevicePathIn result size input).1 = 0 ↔
      (fullDevicePath input).length + 1 ≤ size ∧ (fullDevicePath input).length ≤ intMax) ∧
    ((buildFullDevicePathIn result size input).1 = 0 →
      cstr (buildFullDevicePathIn result size input).2 = fullDevicePath input) ∧
    ((buildFullDevicePathIn result size input).1 ≠ 0 →
      (buildFullDevicePathIn result size input).1 = -ENAMETOOLONG ∧
      cstr (buildFullDevicePathIn result size input).2 = (fullDevicePath input).take (size - 1)) ∧
    (0 : UInt8) ∈ (buildFullDevicePathIn result size input).2.take size ∧
    (buildFullDevicePathIn result size input).2.drop size = result.drop size ∧
    (buildFullDevicePathIn result size input).2.length = result.length ∧
    ((buildFullDevicePathIn result size input).1 = 0 → ∀ other : Bytes,
      (buildFullDevicePathIn other size (cstr (buildFullDevicePathIn result size input).2)).1 = 0 ∧
      cstr (buildFullDevicePathIn other size (cstr (buildFullDevicePathIn result size input).2)).2 =
        cstr (buildFullDevicePathIn result size input).2) := by
  have nulFree' := fullDevicePath_nul_free nulFree
  have held := cstr_snprintf nulFree' room result
  obtain ⟨nul, behind, length⟩ := @snprintf_within result (fullDevicePath input) size room long
  have refused : -ENAMETOOLONG ≠ 0 := by decide
  rw [buildFullDevicePathIn_eq room]
  by_cases fits : (fullDevicePath input).length < size ∧ (fullDevicePath input).length ≤ intMax
  · have whole : (fullDevicePath input).take (size - 1) = fullDevicePath input :=
      List.take_of_length_le (by omega)
    simp only [if_pos fits, held, whole]
    refine ⟨iff_of_true trivial fits, fun _ => trivial, by simp, nul, behind, length, fun _ other => ?_⟩
    rw [buildFullDevicePathIn_eq room, fullDevicePath_idem, if_pos fits, cstr_snprintf nulFree' room, whole]
    exact ⟨rfl, rfl⟩
  · simp only [if_neg fits, held]
    refine ⟨iff_of_false refused fits, ?_, fun _ => ⟨trivial, trivial⟩, nul, behind, length, ?_⟩
    · exact fun accepted => absurd accepted refused
    · exact fun accepted => absurd accepted refused

/-- "ttyS0" is built in a buffer of 11 bytes, which it fills. -/
theorem device_path_fills_buffer :
    (buildFullDevicePathIn (List.replicate 12 0xff) 11 [byte 't', byte 't', byte 'y', byte 'S', byte '0']).1 = 0 :=
  (device_path_is_built_or_refused _ (by decide) (by decide) (by decide)).1.mpr (by decide)

/-- The name `aa...a`. -/
theorem fullDevicePath_replicate (count : Nat) :
    (fullDevicePath (List.replicate count (byte 'a'))).length = count + 5 := by
  have relative : devDir.isPrefixOf (List.replicate count (byte 'a')) = false := by cases count <;> rfl
  rw [fullDevicePath, if_neg (by simp [relative]), List.length_append, List.length_replicate]
  exact Nat.add_comm 5 count

/-- A path of 2^31 bytes is refused even when there is room for it. -/
theorem device_path_of_2_gib_is_refused :
    ¬ ∀ (result : Bytes) (size : Nat) (input : Bytes), 0 < size → size ≤ result.length → 0 ∉ input →
      ((buildFullDevicePathIn result size input).1 = 0 ↔ (fullDevicePath input).length + 1 ≤ size) := by
  intro built
  have exact := built (List.replicate 2147483649 0) 2147483649 (List.replicate 2147483643 (byte 'a')) (by decide)
    (by rw [List.length_replicate]) (fun member => absurd (List.eq_of_mem_replicate member) (by decide))
  have length := fullDevicePath_replicate 2147483643
  have accepted := exact.mpr (by omega)
  rw [buildFullDevicePathIn_eq (by decide), if_neg (by rw [intMax]; omega)] at accepted
  exact absurd accepted (by decide)

end Cwdaemon
