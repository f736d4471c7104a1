import Cwdaemon.Daemon.State

/-! # The path of a device

`build_full_device_path()` with the buffer that it writes to, which is the start of
some memory.
-/

namespace Cwdaemon

open CString

def EINVAL : Int := 22
def ENAMETOOLONG : Int := 36

/-- The directory of `build_full_device_path()`. -/
def devDir : Bytes := [byte '/', byte 'd', byte 'e', byte 'v', byte '/']

/-- `build_full_device_path()` for pointers that are not `NULL`: what it returns, and the
memory at `result` after the call. -/
def buildFullDevicePathIn (result : Bytes) (size : Nat) (input : Bytes) : Int × Bytes :=
  if size = 0 then (-EINVAL, result)
  else if devDir.isPrefixOf input then
    let (n, result) := snprintf result size input
    if n ≤ 0 ∨ n.toNat ≥ size then (-ENAMETOOLONG, result) else (0, result)
  else
    let (n, result) := snprintf result size (devDir ++ input)
    if n ≤ 0 ∨ n.toNat ≥ size then (-ENAMETOOLONG, result) else (0, result)

end Cwdaemon
