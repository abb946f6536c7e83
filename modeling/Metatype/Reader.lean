import Metatype.Recognizer
import Metatype.Report

/-!
# Readers

What an extraction is made with: the source of types, the recognizer of extension markers, the
options, the earliest revision a schema may declare, and the packages of the platform.
-/

namespace Metatype

/-- The options of an extraction. -/
structure Options where
  /-- Whether members may return interfaces. -/
  nested : Bool := false
  deriving DecidableEq, Repr, Inhabited

/-- The packages that are taken for the platform's unless told otherwise. -/
def defaultPlatform : List String := ["java."]

/-- The set-up of an extraction. -/
structure Reader where
  source : Source
  recognizer : Recognizer := .none
  options : Options := {}
  floor : Revision := .v1_2
  platform : List String := defaultPlatform

end Metatype
