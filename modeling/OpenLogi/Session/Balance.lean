import OpenLogi.Session.KeyboardEdges
import OpenLogi.Session.MouseEdges
/-!
# Balance — the edges of capture sessions over reconnects

What a session sends of each button goes down and up in turn, no press outlives a reconnect, and a button held after
one is pressed again, exactly when every reconnect that finds a press held is reported.  The spied buttons of a mouse
and the gaming cluster of a keyboard report theirs; the `0x1b04` controls and the grid keys do not.
-/
namespace OpenLogi
namespace Session

open Lib

/-- **When the edges of a session are balanced**: of a mouse, when no reconnect comes while a `0x1b04` control is held
and no spied button is; of a keyboard, when the gaming cluster reports every reconnect that finds a control or a grid
key held, and no report of their kind comes after it. -/
theorem edges_balanced (m : MouseWiring) (es : List MouseReport) (k : KeyboardWiring) (rs : List KeyboardReport) :
    (Balanced (m.turns {} es) ↔ Along m.step m.Timely {} es) ∧
      (Balanced (k.start.turns rs) ↔ Along KeyboardTrack.step KeyboardTrack.Timely { session := k.start } rs) :=
  ⟨MouseWiring.balanced_iff es, KeyboardTrack.balanced_iff k rs⟩

/-- A mouse whose Back button is rebound. -/
def backMouse : MouseWiring where
  armed := ⟨[], [], [], [(0x0053, .back)], []⟩
  captured := []
  gestureCids := by decide
  buttonCids := by decide
  standard := by decide
  apart := by decide

/-- A keyboard with one rebound key. -/
def oneControl : KeyboardWiring where
  controls := (∅ : ButtonMap UInt16).insert 0x00c7 (.control 0x00c7)
  grid := ∅
  features := ⟨none, none, none⟩
  gRow := false
  modeKeys := fun _ => false
  apart := by decide +kernel

/-- Back held over a reconnect stays pressed; and a key held over one sends nothing when it is held again. -/
theorem press_outlives_reconnect :
    ¬Balanced (backMouse.turns {} [.divertedButtons [0x0053] 0, .reconnect]) ∧
      (backMouse.turns {} [.divertedButtons [0x0053] 0, .reconnect]).map Turn.sent = [[.buttonDown .back], []] ∧
      ¬Balanced (oneControl.start.turns [.divertedButtons [0x00c7], .reconnect]) ∧
      (oneControl.start.turns [.divertedButtons [0x00c7], .reconnect, .divertedButtons [0x00c7]]).map Turn.sent =
        [[.buttonDown (.control 0x00c7)], [], []] := by
  refine ⟨fun h => ?_, by decide +kernel, fun h => ?_, by decide +kernel⟩
  · exact absurd (h .back) (by decide +kernel)
  · exact absurd (h (.control 0x00c7)) (by decide +kernel)

end Session
end OpenLogi
