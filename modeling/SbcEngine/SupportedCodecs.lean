/-
The codec set the engine negotiates, in negotiation priority order.
-/
import Mathlib.Data.Nat.Notation
import Mathlib.Tactic.Common

namespace SbcEngine

/-- One codec the SBC can negotiate, identified by its static payload type. -/
structure SupportedCodec where
  name : String
  payloadType : ℕ
  clockRate : ℕ
  rtpClockRate : ℕ
  deriving DecidableEq, Repr

def supportedCodecs : List SupportedCodec :=
  [ { name := "G722", payloadType := 9, clockRate := 16000, rtpClockRate := 8000 },
    { name := "PCMU", payloadType := 0, clockRate := 8000, rtpClockRate := 8000 },
    { name := "PCMA", payloadType := 8, clockRate := 8000, rtpClockRate := 8000 } ]

/-- Case-sensitive lookup by name. -/
def findSupportedCodecByName (name : String) : Option SupportedCodec :=
  supportedCodecs.find? (·.name = name)

end SbcEngine
