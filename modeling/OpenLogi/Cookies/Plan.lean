import Mathlib.Data.List.Sort
import OpenLogi.Config.Identity
/-!
# Plan — the cookie writes of linked pointing devices

A pointing device follows the keyboards whose byte its cookies hold.  `devices.rs` plans the writes a config change or a
reconnect asks for, from the clears it holds back and the bytes it has seen.  The maps of `FollowerCookieState` are
functions here; a missing row of `held` is an empty one.
-/
namespace OpenLogi
namespace Cookies

open Hid
open OpenLogi.Config (BTreeMap Config)

variable {V : Type}

/-- The byte that names a keyboard; zero reads as "not linked". -/
structure LeadCookie where
  byte : UInt8
  nonzero : byte ≠ 0
  deriving DecidableEq

/-- One digit into the hash: `(hash ^ digit).rotate_left(3)`. -/
def hashDigit (hash : UInt8) (digit : Char) : UInt8 :=
  let mixed := hash ^^^ digit.toUInt8
  mixed <<< 3 ||| mixed >>> 5

def LeadCookie.forUnitId (unitId : Flow.Bytes 4) : Option LeadCookie :=
  let serial := Flow.fromBeBytes unitId
  if serial = 0 then none
  else
    let hash := (Nat.toDigits 10 serial.toNat).foldl hashDigit 0
    if h : hash ≠ 0 then some ⟨hash, h⟩ else none

/-- The part of `AgentDevice` a cookie plan reads. -/
structure LinkDevice where
  configKey : String
  unitId : Flow.Bytes 4
  online : Bool
  route : Option DeviceRoute
  deriving DecidableEq

/-- The cookie writes of one linked pointing device; the clears run first. -/
structure FollowerCookieWrite where
  key : String
  follower : DeviceRoute
  release : List LeadCookie
  link : List LeadCookie
  deriving DecidableEq

/-- A vector that takes each lead once. -/
def pushNew (leads : List LeadCookie) (lead : LeadCookie) : List LeadCookie :=
  if lead ∈ leads then leads else leads ++ [lead]

@[simp] theorem mem_pushNew {leads : List LeadCookie} {lead b : LeadCookie} :
    b ∈ pushNew leads lead ↔ b ∈ leads ∨ b = lead := by
  unfold pushNew
  split
  · rename_i h
    exact ⟨.inl, fun hb => hb.elim id fun heq => heq ▸ h⟩
  · rw [List.mem_append, List.mem_singleton]

/-- Each keyboard and device a config links, in their order and once. -/
def hostSwitchPairs (config : Config V) : List (String × String) :=
  config.devices.toList.flatMap fun (keyboard, settings) =>
    ((settings.hostSwitchTargets.filter (· ≠ keyboard)).dedup.insertionSort (· ≤ ·)).map fun target =>
      (keyboard, target)

/-- `Config::device_enabled`. -/
def deviceEnabled (config : Config V) (key : String) : Bool := config.devices[key]?.all (·.enabled)

def leadCookie (devices : List LinkDevice) (keyboard : String) : Option LeadCookie :=
  (devices.find? fun device => device.configKey = keyboard).bind fun device => LeadCookie.forUnitId device.unitId

/-- The route of a follower that can be written to now. -/
def writableFollower (config : Config V) (devices : List LinkDevice) (follower : String) : Option DeviceRoute :=
  if !deviceEnabled config follower then none
  else (devices.find? fun device => device.configKey = follower && device.online).bind (·.route)

/-! ## What is kept between plans -/

/-- The clears held back for a device, and the last byte seen for a keyboard. -/
structure FollowerCookieState where
  held : String → List LeadCookie
  known : String → Option LeadCookie

namespace FollowerCookieState

def default : FollowerCookieState := ⟨fun _ => [], fun _ => none⟩

def rememberLeads (state : FollowerCookieState) (devices : List LinkDevice) : FollowerCookieState :=
  devices.foldl (fun state device =>
    match LeadCookie.forUnitId device.unitId with
    | some lead => { state with known := Function.update state.known device.configKey (some lead) }
    | none => state) state

/-- The byte that names a keyboard: the one it reports, or else the last one seen. -/
def lead (state : FollowerCookieState) (devices : List LinkDevice) (keyboard : String) : Option LeadCookie :=
  (leadCookie devices keyboard).or (state.known keyboard)

def linkedLeads (state : FollowerCookieState) (pairs : List (String × String)) (devices : List LinkDevice)
    (follower : String) : List LeadCookie :=
  (pairs.filter fun pair => pair.2 = follower).filterMap fun pair => state.lead devices pair.1

def add (state : FollowerCookieState) (follower : String) (lead : LeadCookie) : FollowerCookieState :=
  { state with held := Function.update state.held follower (pushNew (state.held follower) lead) }

def forget (state : FollowerCookieState) (follower : String) (lead : LeadCookie) : FollowerCookieState :=
  { state with held := Function.update state.held follower ((state.held follower).filter (· ≠ lead)) }

def requeue (state : FollowerCookieState) (follower : String) (leads : List LeadCookie) : FollowerCookieState :=
  leads.foldl (fun state lead => state.add follower lead) state

def take (state : FollowerCookieState) (follower : String) : List LeadCookie × FollowerCookieState :=
  (state.held follower, { state with held := Function.update state.held follower [] })

end FollowerCookieState

/-! ## Plans -/

/-- The writes of one plan, one a device. -/
abbrev CookiePlan := BTreeMap FollowerCookieWrite

namespace CookiePlan

def entry (plan : CookiePlan) (follower : String) (route : DeviceRoute) : FollowerCookieWrite :=
  plan[follower]?.getD ⟨follower, route, [], []⟩

def release (plan : CookiePlan) (follower : String) (route : DeviceRoute) (lead : LeadCookie) : CookiePlan :=
  let write := plan.entry follower route
  plan.insert follower { write with release := pushNew write.release lead }

def link (plan : CookiePlan) (follower : String) (route : DeviceRoute) (lead : LeadCookie) : CookiePlan :=
  let write := plan.entry follower route
  plan.insert follower { write with link := pushNew write.link lead }

/-- The held clears of a device that can be written to again, then a link for each keyboard linked to it.  A held clear
for a keyboard that is linked again is dropped. -/
def followerOnline (plan : CookiePlan) (pairs : List (String × String)) (devices : List LinkDevice)
    (follower : String) (route : DeviceRoute) (state : FollowerCookieState) : CookiePlan × FollowerCookieState :=
  let linked := state.linkedLeads pairs devices follower
  let (taken, state) := state.take follower
  let plan := taken.foldl (fun plan lead =>
    if lead ∈ linked then plan else plan.release follower route lead) plan
  let plan := linked.foldl (fun plan lead => plan.link follower route lead) plan
  (plan, state)

def intoWrites (plan : CookiePlan) : List FollowerCookieWrite := plan.toList.map Prod.snd

end CookiePlan

section Changed

variable (after : List (String × String)) (config : Config V) (devices : List LinkDevice)

/-- A link the config removed: cleared, held back, or left to a keyboard that shares its byte. -/
def changedRemoved (plan : CookiePlan) (state : FollowerCookieState) (pair : String × String) :
    CookiePlan × FollowerCookieState :=
  match state.lead devices pair.1 with
  | none => (plan, state)
  | some lead =>
    if lead ∈ state.linkedLeads after devices pair.2 then (plan, state)
    else
      match writableFollower config devices pair.2 with
      | some route => (plan.release pair.2 route lead, state)
      | none => (plan, state.add pair.2 lead)

/-- A link the config added. -/
def changedAdded (plan : CookiePlan) (state : FollowerCookieState) (pair : String × String) :
    CookiePlan × FollowerCookieState :=
  match state.lead devices pair.1 with
  | none => (plan, state)
  | some lead =>
    let state := state.forget pair.2 lead
    match writableFollower config devices pair.2 with
    | some route => (plan.link pair.2 route lead, state)
    | none => (plan, state)

/-- A device the config enabled again. -/
def changedEnabled (previous : Config V) (plan : CookiePlan) (state : FollowerCookieState) (device : LinkDevice) :
    CookiePlan × FollowerCookieState :=
  if deviceEnabled previous device.configKey then (plan, state)
  else
    match writableFollower config devices device.configKey with
    | some route => plan.followerOnline after devices device.configKey route state
    | none => (plan, state)

end Changed

/-- The cookie writes a config change asks for. -/
def changedFollowerCookies (previous config : Config V) (devices : List LinkDevice) (state : FollowerCookieState) :
    List FollowerCookieWrite × FollowerCookieState :=
  let before := hostSwitchPairs previous
  let after := hostSwitchPairs config
  let removed := (before.filter (· ∉ after)).foldl (fun acc pair =>
    changedRemoved after config devices acc.1 acc.2 pair) ((∅ : CookiePlan), state)
  let added := (after.filter (· ∉ before)).foldl (fun acc pair =>
    changedAdded config devices acc.1 acc.2 pair) removed
  let enabled := devices.foldl (fun acc device =>
    changedEnabled after config devices previous acc.1 acc.2 device) added
  (enabled.1.intoWrites, enabled.2)

/-- A keyboard that comes online fills the cookies of a device it links. -/
def reconnectLink (config : Config V) (devices : List LinkDevice) (key : String) (state : FollowerCookieState)
    (plan : CookiePlan) (pair : String × String) : CookiePlan :=
  if pair.1 ≠ key then plan
  else
    match state.lead devices pair.1, writableFollower config devices pair.2 with
    | some lead, some route => plan.link pair.2 route lead
    | _, _ => plan

/-- What a device that comes online is itself written. -/
def reconnectOnline (config : Config V) (devices : List LinkDevice) (key : String) (state : FollowerCookieState) :
    CookiePlan × FollowerCookieState :=
  match writableFollower config devices key with
  | some route => CookiePlan.followerOnline ∅ (hostSwitchPairs config) devices key route state
  | none => (∅, state)

/-- The cookie writes a device that comes online asks for. -/
def reconnectFollowerCookies (config : Config V) (devices : List LinkDevice) (device : LinkDevice)
    (state : FollowerCookieState) : List FollowerCookieWrite × FollowerCookieState :=
  let (plan, state) := reconnectOnline config devices device.configKey state
  let plan := (hostSwitchPairs config).foldl (reconnectLink config devices device.configKey state) plan
  (plan.intoWrites, state)

end Cookies
end OpenLogi
