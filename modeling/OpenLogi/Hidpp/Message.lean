import Mathlib.Data.List.Basic
/-!
# Message — the two report widths a HID++ channel carries

The addressing header both widths share, and the re-framing of a short message on a channel that exposes only the long
report.
-/
namespace OpenLogi
namespace Hidpp

/-- Device index, feature index (or sub id) and function/software id (or register address). -/
abbrev CorrelationKey := UInt8 × UInt8 × UInt8

inductive HidppMessage where
  | short (payload : Vector UInt8 6)
  | long (payload : Vector UInt8 19)
  deriving DecidableEq

namespace HidppMessage

def header : HidppMessage → CorrelationKey
  | .short payload => (payload[0], payload[1], payload[2])
  | .long payload => (payload[0], payload[1], payload[2])

/-- A short message with its payload zero-padded to the long one. -/
def widened : HidppMessage → HidppMessage
  | .short payload => .long (payload ++ Vector.replicate 13 (0 : UInt8))
  | .long payload => .long payload

theorem header_widened : ∀ msg : HidppMessage, msg.widened.header = msg.header
  | .short payload => by
    have h : ∀ i (hi : i < 6), (payload ++ Vector.replicate 13 (0 : UInt8))[i] = payload[i] := fun i hi =>
      Vector.getElem_append_left hi
    simp only [widened, header]
    rw [Prod.mk.injEq, Prod.mk.injEq]
    exact ⟨h 0 (by decide), h 1 (by decide), h 2 (by decide)⟩
  | .long _ => rfl

end HidppMessage

end Hidpp
end OpenLogi
