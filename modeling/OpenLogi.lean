import OpenLogi.WriteOrder.Admission
import OpenLogi.Hidpp.Wakeup
import OpenLogi.Hidpp.Attribution
import OpenLogi.Button.LongPress
import OpenLogi.Button.Generation
import OpenLogi.Hook.Pairing
import OpenLogi.Pointer.Restore
import OpenLogi.Pointer.HostMode
import OpenLogi.Debounce.Stream
import OpenLogi.Flow.Agreement
import OpenLogi.Flow.Ending
import OpenLogi.Flow.Margin
import OpenLogi.HostSwitch.Requests
import OpenLogi.Config.Targets
import OpenLogi.Config.Saving
import OpenLogi.WriteOrder.DisableKeys
import OpenLogi.Capture.Ownership
import OpenLogi.Flow.Tie
import OpenLogi.Lights.Settled
import OpenLogi.Registry.Publication
import OpenLogi.Pairing.Unifying
import OpenLogi.Cookies.Runs
import OpenLogi.Session.HostKeys
import OpenLogi.Session.Balance
import OpenLogi.Session.Retarget
import OpenLogi.Agent.Refresh
import OpenLogi.Scroll.Cancellation
import OpenLogi.Pairing.Ownership
import OpenLogi.Inventory.Duplicates
import OpenLogi.Inventory.Replacement
import OpenLogi.Probe.Memo
import OpenLogi.Desktop.Rollback
import OpenLogi.Desktop.Recovery
import OpenLogi.Desktop.Backlight
import OpenLogi.Hook.Wheel
import OpenLogi.Hook.CallbackWatchdog
import OpenLogi.Inject.Keystroke
import OpenLogi.Flow.Frame
import OpenLogi.Bindings.Thumbwheel
import OpenLogi.Bindings.OwnerLock
import OpenLogi.Bindings.Profiles
import OpenLogi.Flow.Deadline
import OpenLogi.Flow.Contact
import OpenLogi.Config.Reconcile
import OpenLogi.Haptic.Restore
import OpenLogi.HostSwitch.Names
import OpenLogi.Inventory.Schedule
import OpenLogi.Session.Attribution
import OpenLogi.KeyDisplay.Loop
import OpenLogi.Inventory.Retention
import OpenLogi.Scroll.Distance
import OpenLogi.Agent.Budgets
import OpenLogi.Desktop.LightSettled
import OpenLogi.Core.SwipeChecked
import OpenLogi.Core.DeviceKeys
import OpenLogi.Rgb.HandBack
