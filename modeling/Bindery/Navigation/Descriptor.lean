import Bindery.Navigation.Basic

namespace Bindery.Descriptor

/-- Why the bytes of a descriptor file hold no navigation. -/
inductive Fault
  /-- They are refused, for the given reason. -/
  | refused (reason : Text)
  /-- A string in them is not text. -/
  | notText
  deriving DecidableEq, Repr

/-- The wording of a fault. A string that is not text has none. -/
def Fault.message : Fault → Text
  | .refused reason => reason
  | .notText => []

/-- The decoder of descriptor files. -/
class Decoder where
  decode : List UInt8 → Except Fault Navigation

end Bindery.Descriptor
