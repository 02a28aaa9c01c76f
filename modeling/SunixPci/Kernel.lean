import Mathlib.Data.Int.Notation
import Mathlib.Data.Nat.Notation
import SunixPci.Support.BitFlags

/-!
# Kernel

What the driver takes from the kernel and from C: the fixed-width words, the error numbers, the
ways in which a function of the driver can go wrong, and the two build-time facts that its
arithmetic depends on.
-/

namespace SunixPci

/-- `unsigned char`. -/
abbrev UChar := BitVec 8

/-- `unsigned int`. -/
abbrev U32 := BitVec 32

/-- `unsigned long` of a 64-bit kernel. -/
abbrev U64 := BitVec 64

/-- A step of the code that C leaves undefined, that the CPU traps, or that never ends. -/
inductive Fault where
  | nullTty
  | nullBuf
  | divideByZero
  | outOfBounds
  | endlessLoop
  | nullPtr
deriving DecidableEq, Repr

/-- `CONFIG_HZ` and the architecture's `irq_canonicalize`. -/
class Kernel where
  HZ : U32
  irq_canonicalize : U32 → U32

/-- An x86 kernel with `CONFIG_HZ=250`: interrupt 2 is the cascade, delivered as 9. -/
@[reducible] def Kernel.x86 : Kernel where
  HZ := 250
  irq_canonicalize irq := if irq = 2 then 9 else irq

/-! ### Error numbers -/

def EPERM : ℤ := 1
def EINTR : ℤ := 4
def EIO : ℤ := 5
def ENXIO : ℤ := 6
def EAGAIN : ℤ := 11
def ENOMEM : ℤ := 12
def EFAULT : ℤ := 14
def EBUSY : ℤ := 16
def ENODEV : ℤ := 19
def EINVAL : ℤ := 22
def ERESTARTSYS : ℤ := 512

end SunixPci
