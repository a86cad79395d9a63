import OpenLogi.Inventory.Ledger
import OpenLogi.Lib.Table
import OpenLogi.Registry.Election
/-!
# Pass — one enumeration pass over the open channels

A node's channel serves until it is retired, then drains until nothing else holds it, and a later pass may open the node
again.  One pass retires what capture reported dead, sorts the listing, opens, retires what is absent, probes, and
settles every node in the ledger.  Channels are connections, told apart as `Arc::ptr_eq` does.
-/
namespace OpenLogi
namespace Inventory

open Hid (DeviceRoute)
open Registry (NodeRegistry)

variable {K C I : Type}

/-! ## The open channels -/

inductive ChannelState (C : Type) where
  | active (channel : C)
  | retiring (channel : C)
  deriving DecidableEq

structure ChannelCache (K C : Type) where
  channels : Lib.Map K (ChannelState C)

namespace ChannelCache

def empty : ChannelCache K C := ⟨Lib.Map.empty⟩

def activeIter (cache : ChannelCache K C) : List (K × C) :=
  cache.channels.rows.filterMap fun row =>
    match row.2 with
    | .active channel => some (row.1, channel)
    | .retiring _ => none

variable [DecidableEq K]

def get (cache : ChannelCache K C) (node : K) : Option C :=
  match cache.channels.get node with
  | some (.active channel) => some channel
  | some (.retiring _) => none
  | none => none

def insert (cache : ChannelCache K C) (node : K) (channel : C) : ChannelCache K C :=
  match cache.channels.get node with
  | some (.active _) => ⟨cache.channels.put node (.active channel)⟩
  -- the fresh open is dropped
  | some (.retiring _) => cache
  | none => ⟨cache.channels.put node (.active channel)⟩

def retireNode (cache : ChannelCache K C) (node : K) : ChannelCache K C :=
  match cache.channels.get node with
  | some (.active channel) => ⟨cache.channels.put node (.retiring channel)⟩
  | some (.retiring _) => cache
  | none => cache

/-- Whether the node may be opened now.  A quiescent retirement is dropped, and opening stays deferred. -/
def prepareOpen (cache : ChannelCache K C) (node : K) (isQuiescent : C → Bool) : Bool × ChannelCache K C :=
  match cache.channels.get node with
  | some (.retiring channel) => (false, if isQuiescent channel then ⟨cache.channels.erase node⟩ else cache)
  | some (.active _) => (true, cache)
  | none => (true, cache)

def retireAbsent (cache : ChannelCache K C) (seen : List K) : ChannelCache K C :=
  ((cache.activeIter.map Prod.fst).filter (· ∉ seen)).foldl retireNode cache

def reapAbsent (cache : ChannelCache K C) (seen : List K) (isQuiescent : C → Bool) : ChannelCache K C :=
  ⟨cache.channels.filter fun row =>
    match row.2 with
    | .active _ => true
    | .retiring channel => decide (row.1 ∈ seen) || !isQuiescent channel⟩

/-- The channels of absent nodes that have drained. -/
def reaped (cache : ChannelCache K C) (seen : List K) (isQuiescent : C → Bool) : List (K × C) :=
  cache.channels.rows.filterMap fun row =>
    match row.2 with
    | .active _ => none
    | .retiring channel => if row.1 ∉ seen ∧ isQuiescent channel then some (row.1, channel) else none

end ChannelCache

/-! ## The enumerator -/

inductive ProbeVerdict where
  | failed
  | aliveButIncomplete
  | deferred
  | healthy (complete : Bool)
  deriving DecidableEq

def ProbeVerdict.isHealthy : ProbeVerdict → Bool
  | .healthy _ => true
  | .failed => false
  | .aliveButIncomplete => false
  | .deferred => false

/-- What `open_hidpp` answers: `Ok(Some)`, `Ok(None)` or an error. -/
inductive OpenResult (C : Type) where
  | opened (channel : C)
  | notHidpp
  | failed
  deriving DecidableEq

structure Enumerator (K C I : Type) where
  channels : ChannelCache K C
  ledger : NodeLedger K I
  registry : Option (NodeRegistry K C)
  evictedNodes : K → Bool
  replacedLastTick : List K

/-- What a pass meets: who else holds a channel, what was reported dead, what the backend lists and answers, and what
each node's probe says. -/
structure Surroundings (K C I : Type) where
  reported : List C
  isHeld : C → Bool
  listing : List K
  openHidpp : K → OpenResult C
  isConnected : C → Bool
  probe : K → ProbeVerdict × Option I
  routes : I → List DeviceRoute

/-- A pass under way: the enumerator, the lists it collects, and what it did. -/
structure Pass (K C I : Type) extends Enumerator K C I where
  active : List (K × C) := []
  toOpen : List K := []
  openFailures : List K := []
  retiring : List K := []
  replaced : List K := []
  inventories : List (K × I) := []
  opened : List (K × C) := []
  released : List (K × C) := []
  retired : List (K × C) := []
  settled : List K := []

namespace Pass

variable [DecidableEq K] [DecidableEq C]

def published (registry : Option (NodeRegistry K C)) (channel : C) : Bool :=
  registry.any fun registry => registry.containsChannel channel

/-- `Arc::strong_count(&cached.channel) == 1`. -/
def isQuiescent (env : Surroundings K C I) (p : Pass K C I) (channel : C) : Bool :=
  !env.isHeld channel && !published p.registry channel

def removeNode (p : Pass K C I) (node : K) : Pass K C I :=
  { p with registry := p.registry.map fun registry => (registry.removeNode node).2 }

/-- Unpublish the node's channel and retire it, to be reopened once it has drained. -/
def evict (p : Pass K C I) (node : K) : Pass K C I :=
  { p with
    registry := p.registry.map fun registry => (registry.removeNode node).2
    channels := p.channels.retireNode node
    retired := p.retired ++ ((p.channels.get node).map fun channel => (node, channel)).toList
    evictedNodes := Function.update p.evictedNodes node true }

def retireReportedChannels (env : Surroundings K C I) (p : Pass K C I) : Pass K C I :=
  match p.registry with
  | none => p
  | some _ =>
    ((p.channels.activeIter.filter fun row => env.reported.contains row.2).map Prod.fst).foldl evict p

def prepareNode (env : Surroundings K C I) (p : Pass K C I) (node : K) : Pass K C I :=
  let (mayOpen, channels) := p.channels.prepareOpen node (p.isQuiescent env)
  if !mayOpen then
    { p with
      channels := channels
      retiring := p.retiring ++ [node]
      released := p.released ++
        match p.channels.channels.get node with
        | some (.retiring channel) => if p.isQuiescent env channel then [(node, channel)] else []
        | _ => [] }
  else
    match channels.get node with
    | some channel => { p with active := p.active ++ [(node, channel)] }
    -- the opens are folded in later, so a node listed twice would be queued twice
    | none => if node ∈ p.toOpen then p else { p with toOpen := p.toOpen ++ [node] }

def foldOpened (env : Surroundings K C I) (p : Pass K C I) (node : K) : Pass K C I :=
  match env.openHidpp node with
  | .opened channel =>
    let ledger := p.ledger.resetChannelFailuresAfterOpen node
    { p with
      ledger := ledger
      replaced := if p.evictedNodes node && (ledger.lastGood node).isSome then p.replaced ++ [node] else p.replaced
      evictedNodes := Function.update p.evictedNodes node false
      channels := p.channels.insert node channel
      active := p.active ++ [(node, channel)]
      opened := p.opened ++ [(node, channel)] }
  | .notHidpp => p
  | .failed => { p with openFailures := p.openFailures ++ [node] }

/-- The cached channels this listing omitted that are still connected. -/
def liveCached (env : Surroundings K C I) (p : Pass K C I) : List (K × C) :=
  p.channels.activeIter.filter fun row => decide (row.1 ∉ env.listing) && env.isConnected row.2

def appendLiveCachedChannels (env : Surroundings K C I) (p : Pass K C I) : Pass K C I :=
  { p with active := p.active ++ p.liveCached env }

/-- The nodes valid for this pass: what is listed, and what is still connected. -/
def retainedNodes (env : Surroundings K C I) (p : Pass K C I) : List K :=
  env.listing ++ (p.liveCached env).map Prod.fst

def retainPublished (seen : List K) (p : Pass K C I) : Pass K C I :=
  { p with registry := p.registry.map fun registry => (registry.retainNodes seen).2 }

def retireAbsent (seen : List K) (p : Pass K C I) : Pass K C I :=
  { p with
    channels := p.channels.retireAbsent seen
    retired := p.retired ++ p.channels.activeIter.filter (·.1 ∉ seen) }

def reapAbsent (env : Surroundings K C I) (seen : List K) (p : Pass K C I) : Pass K C I :=
  { p with
    channels := p.channels.reapAbsent seen (p.isQuiescent env)
    released := p.released ++ p.channels.reaped seen (p.isQuiescent env) }

def forgetAbsent (seen : List K) (p : Pass K C I) : Pass K C I :=
  { p with
    ledger := p.ledger.retainNodes (· ∈ seen)
    evictedNodes := fun node => p.evictedNodes node && decide (node ∈ seen) }

/-- What is absent is withdrawn, retired, reaped once quiescent, and forgotten. -/
def retainSeen (env : Surroundings K C I) (seen : List K) (p : Pass K C I) : Pass K C I :=
  (((p.retainPublished seen).retireAbsent seen).reapAbsent env seen).forgetAbsent seen

def prepareListed (env : Surroundings K C I) (p : Pass K C I) : Pass K C I := env.listing.foldl (prepareNode env) p

def openQueued (env : Surroundings K C I) (p : Pass K C I) : Pass K C I := p.toOpen.foldl (foldOpened env) p

def retainNodes (env : Surroundings K C I) (p : Pass K C I) : Pass K C I :=
  (p.appendLiveCachedChannels env).retainSeen env (p.retainedNodes env)

/-- The enumerator as a pass finds it. -/
def begin (e : Enumerator K C I) : Pass K C I := { toEnumerator := e }

def prepareNodes (env : Surroundings K C I) (e : Enumerator K C I) : Pass K C I :=
  (((begin e |>.retireReportedChannels env).prepareListed env).openQueued env).retainNodes env

def settleProbe (ledger : NodeLedger K I) (node : K) (verdict : ProbeVerdict) (inventory : Option I) :
    SettledNode I × NodeLedger K I :=
  match verdict with
  | .deferred => (ledger.defer node, ledger)
  | .aliveButIncomplete => ledger.settleArrivalReplayFailure node
  | .failed => ledger.settle node ProbeVerdict.failed.isHealthy inventory
  | .healthy complete => ledger.settle node (ProbeVerdict.healthy complete).isHealthy inventory

/-- The node was settled: its inventory joins the pass's. -/
def recordSettled (p : Pass K C I) (node : K) (settled : SettledNode I × NodeLedger K I) : Pass K C I :=
  { p with
    ledger := settled.2
    settled := p.settled ++ [node]
    inventories := p.inventories ++ (settled.1.inventory.map fun inventory => (node, inventory)).toList }

/-- A replacement that has nothing to show surfaces the node offline. -/
def confirmReplaced (p : Pass K C I) (node : K) (settled : SettledNode I) : Pass K C I :=
  { p with replaced := p.replaced.filter fun reopened => decide (reopened ≠ node) || settled.inventory.isSome }

def replaceNode (env : Surroundings K C I) (p : Pass K C I) (node : K) (inventory : I) (channel : C) : Pass K C I :=
  { p with registry := p.registry.map fun registry => (registry.replaceNode node (env.routes inventory) channel).2 }

/-- The channel is evicted, or the node published with it or withdrawn. -/
def publishSettled (env : Surroundings K C I) (p : Pass K C I) (row : K × C) (settled : SettledNode I) : Pass K C I :=
  if settled.evictChannel then p.evict row.1
  else
    match settled.inventory with
    | none => p.removeNode row.1
    | some inventory => p.replaceNode env row.1 inventory row.2

/-- Fold one probe in. -/
def settleActive (env : Surroundings K C I) (p : Pass K C I) (row : K × C) : Pass K C I :=
  let settled := settleProbe p.ledger row.1 (env.probe row.1).1 (env.probe row.1).2
  ((p.recordSettled row.1 settled).confirmReplaced row.1 settled.1).publishSettled env row settled.1

def settleUnhealthyNode (p : Pass K C I) (node : K) : Pass K C I := p.recordSettled node (p.ledger.settle node false none)

def settleProbed (env : Surroundings K C I) (p : Pass K C I) : Pass K C I := p.active.foldl (settleActive env) p

def settleRetiring (p : Pass K C I) : Pass K C I := p.retiring.foldl settleUnhealthyNode p

def settleOpenFailures (p : Pass K C I) : Pass K C I := p.openFailures.foldl settleUnhealthyNode p

/-- `enumerate_reporting_completeness`, over a listing the backend returned. -/
def enumerate (env : Surroundings K C I) (e : Enumerator K C I) : Pass K C I :=
  let p := (((prepareNodes env e).settleProbed env).settleRetiring).settleOpenFailures
  { p with replacedLastTick := p.replaced }

end Pass

end Inventory
end OpenLogi
