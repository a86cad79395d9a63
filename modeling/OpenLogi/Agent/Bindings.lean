import OpenLogi.Agent.Settings
/-!
# Bindings — the maps a device's inputs resolve against

The stored bindings of a device laid over the defaults, for an application, and the direction maps of its gesture
buttons.
-/
namespace OpenLogi
namespace Agent

open OpenLogi.Core
open Lib (Map)

/-- What decides the bindings of a device, besides the configuration. -/
structure Context where
  platform : AppPlatform
  key : String
  app : Option String
  layout : Option GamingLayout

namespace Config

variable (config : Config)

def effective (c : Context) : Map ButtonId Binding := config.effectiveBindings c.platform c.key c.app

/-- The page actions of a keypad with more than one page. -/
def keypadPagingDefaults : List (ButtonId × Binding) :=
  [(.control 0x01a1, .single .previousKeypadPage), (.control 0x01a2, .single .nextKeypadPage)]

/-- The defaults of the standard buttons and the G buttons. -/
def stockBindings (layout : Option GamingLayout) : Map ButtonId Binding :=
  (ButtonId.all ++ ButtonId.gButtons).foldl
    (fun out button => out.put button (.single (defaultBindingOn layout button))) .empty

/-- What the buttons of a device do until the user binds them. -/
def seededBindings (c : Context) : Map ButtonId Binding :=
  if KeypadPage.first < config.keypadPages c.key then
    keypadPagingDefaults.foldl (fun out (button, binding) => out.put button binding) (stockBindings c.layout)
  else stockBindings c.layout

/-- A gesture binding with a click. -/
def withClick (layout : Option GamingLayout) (button : ButtonId) : Binding → Binding
  | .gesture directions => .gesture (Function.update directions .click
      (some ((directions .click).getD (defaultBindingOn layout button))))
  | binding => binding

def buttonBindingsFor (c : Context) : Map ButtonId Binding :=
  (config.effective c).rows.foldr (fun (button, binding) out => out.put button (withClick c.layout button binding))
    (config.seededBindings c)

/-- The direction map of a HID++ gesture source, when it is in gesture mode. -/
def hidppGestureMapsFor (c : Context) (button : ButtonId) : Option (GestureDirection → Option Action) :=
  if button.isHidppGestureSource then
    (((config.effective c).get button).getD (defaultBindingFor button)).fillGestureDefaults.directions?
  else none

/-- The direction map of an OS-hook button, when it is in gesture mode. -/
def oshookGesturesFor (c : Context) (button : ButtonId) : Option (GestureDirection → Option Action) :=
  if button.isOsHookButton then ((config.effective c).get button).bind Binding.directions? else none

/-- The gesture maps that device-owned HID++ capture may take over; macOS and Windows only. -/
def hidppSideGestureMapsFor (c : Context) (button : ButtonId) : Option (GestureDirection → Option Action) :=
  if c.platform = .linux || !config.appSettings.captureMouseEvents then none else config.oshookGesturesFor c button

def shiftBindingsFor (key : String) (button : ButtonId) : Option Binding :=
  ((config.gshiftOverrides key).get button).map .single

/-- The buttons bound unlike the focused application while the pointer selects the bindings of another. -/
def buttonsUnlikeFocus (platform : AppPlatform) (key : Option String) (hovered focused : Option String) :
    Finset ButtonId :=
  match key.filter fun _ => hovered ≠ focused with
  | some key =>
    let here := config.effectiveBindings platform key hovered
    let there := config.effectiveBindings platform key focused
    ((here.keys ++ there.keys).filter fun button => here.get button ≠ there.get button).toFinset
  | none => ∅

end Config

/-! ## What a lookup finds -/

theorem get_foldr_put {κ α β : Type} [DecidableEq κ] (f : κ → α → β) (base : Map κ β) (k : κ) :
    ∀ rows : List (κ × α), (rows.map Prod.fst).Nodup →
      (rows.foldr (fun p out => out.put p.1 (f p.1 p.2)) base).get k =
        match rows.find? fun p => p.1 = k with
        | some p => some (f p.1 p.2)
        | none => base.get k
  | [], _ => rfl
  | p :: rows, h => by
    rw [List.map_cons, List.nodup_cons] at h
    rw [List.foldr_cons, Map.get_put, List.find?_cons]
    by_cases hk : p.1 = k
    · simp [hk]
    · simp [hk, get_foldr_put f base k rows h.2]

namespace Config

variable {config : Config} {c : Context}

/-- A stored binding wins over the seed. -/
theorem get_buttonBindingsFor (button : ButtonId) :
    (config.buttonBindingsFor c).get button =
      match (config.effective c).get button with
      | some binding => some (withClick c.layout button binding)
      | none => (config.seededBindings c).get button := by
  unfold buttonBindingsFor
  rw [get_foldr_put (withClick c.layout) _ _ _ (config.effective c).nodup]
  unfold Map.get Lib.Table.get?
  cases hf : (config.effective c).rows.find? fun p => decide (p.1 = button) with
  | none => rfl
  | some p =>
    have hp : p.1 = button := by simpa using List.find?_some hf
    simp [hp]

end Config

end Agent
end OpenLogi
