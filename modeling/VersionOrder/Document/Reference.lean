import VersionOrder.Document.Value
import VersionOrder.Registry

/-!
# Values that stand for versions and schemes

A text in a document may be a version, or the code of a scheme; no other value is either.
-/

namespace VersionOrder

/-- The version that a value writes; the value has to be a text. -/
def Version.ofValue : Value → Except Fault Version
  | .text s => .ok (.ofString s)
  | other => .error (.refusal (.versionNotText other.kind))

/-- What a value refers to: a text refers to the scheme with that code. -/
def SchemeRef.ofValue : Value → SchemeRef
  | .text word => .code word
  | value => .other value.kind

/-- Whether a value is the code of a registered scheme. -/
def Registry.holds (registry : Registry) : Value → Bool
  | .text code => registry.contains code
  | _ => false

end VersionOrder
