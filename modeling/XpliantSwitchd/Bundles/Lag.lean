import XpliantSwitchd.Vlan.Membership

/-!
# LAGs

This module embeds `ops-xp-lag.c`.  None of its functions touches the table of
the VLAN manager.
-/

namespace XpliantSwitchd
namespace Bundles

open Vlans

/-- `ops_xp_lag_create`.  The first component is the interface id written. -/
def lagCreate (xdk : Xdk) (dev : Dev) : Option Nat × Dev :=
  let lagId := xdk.lagCreate dev.calls
  let (created, dev) := dev.call xdk fun hw => { hw with lags := (lagId, []) :: hw.lags }
  if created then (some lagId, dev) else (none, dev)

/-- The ports of a LAG of the hardware. -/
def lagPortIntfList (dev : Dev) (lagId : Nat) : List Nat :=
  ((dev.hw.lags.find? (·.1 == lagId)).map Prod.snd).getD []

/-- `lag_is_port_attached`. -/
def lagIsPortAttached (xdk : Xdk) (dev : Dev) (lagId ifId : Nat) : Bool × Dev :=
  let isMember := decide (ifId ∈ lagPortIntfList dev lagId)
  let (answered, dev) := dev.call xdk id
  (answered && isMember, dev)

/-- Change the ports of a LAG of the hardware. -/
def onLag (lagId : Nat) (change : List Nat → List Nat) (hw : Hw) : Hw :=
  { hw with
    lags := KeyedList.rewrite Prod.fst lagId (fun lag => (lag.1, change lag.2)) hw.lags }

/-- `lag_detach_port_on_hw`.  Its callers ignore the return code. -/
def lagDetachPortOnHw (env : Env) (xdk : Xdk) (dev : Dev) (lagId ifId : Nat) : Dev :=
  let (attached, dev) := lagIsPortAttached xdk dev lagId ifId
  if !attached then dev
  else
    let (removed, dev) := dev.call xdk (onLag lagId (List.erase · ifId))
    if !removed then dev
    else
      let (deployed, dev) := dev.call xdk id
      if !deployed then dev
      else
        let (unbound, dev) := dev.call xdk id
        if !unbound then dev
        else if env.netdevFromPortNum ifId then (dev.call xdk id).2
        else dev

/-- The search of `lag_attach_port_on_hw` for a LAG that has the port.  The flag
says that the port is attached to the LAG already. -/
def lagSearch (env : Env) (xdk : Xdk) (lagId ifId : Nat) :
    List Nat → Dev → Bool × Dev
  | [], dev => (false, (dev.call xdk id).2)
  | foundLagId :: lagIds, dev =>
      let (answered, dev) := dev.call xdk id
      if !answered then (false, dev)
      else
        let (attached, dev) := lagIsPortAttached xdk dev foundLagId ifId
        if attached then
          if lagId = foundLagId then (true, dev)
          else (false, lagDetachPortOnHw env xdk dev foundLagId ifId)
        else lagSearch env xdk lagId ifId lagIds dev

/-- `lag_attach_port_on_hw`.  Its caller ignores the return code.  The calls
around the attachment set and unset the control interface of the port. -/
def lagAttachPortOnHw (env : Env) (xdk : Xdk) (dev : Dev) (lagId ifId : Nat) : Dev :=
  let (already, dev) := lagSearch env xdk lagId ifId (dev.hw.lags.map Prod.fst) dev
  if already then dev
  else if !env.netdevFromPortNum ifId then dev
  else
    let (controlled, dev) := dev.call xdk id
    if !controlled then dev
    else
      let (added, dev) := dev.call xdk (onLag lagId (· ++ [ifId]))
      if !added then (dev.call xdk id).2
      else
        let (deployed, dev) := dev.call xdk id
        if !deployed then (dev.call xdk id).2 else dev

/-- One round of the second loop of `ops_xp_lag_attach_ports`. -/
def lagEnsureAttached (env : Env) (xdk : Xdk) (lagId : Nat) (dev : Dev) (ifId : Nat) :
    Dev :=
  let (attached, dev) := lagIsPortAttached xdk dev lagId ifId
  if attached then dev else lagAttachPortOnHw env xdk dev lagId ifId

/-- `ops_xp_lag_attach_ports`. -/
def lagAttachPorts (env : Env) (xdk : Xdk) (dev : Dev) (lagId : Nat)
    (ifList : List Nat) : Option Errno × Dev :=
  let hwIfList := lagPortIntfList dev lagId
  let (answered, dev) := dev.call xdk id
  if !answered then (some .EFAULT, dev)
  else
    let dev := (hwIfList.filter (· ∉ ifList)).foldl
      (fun dev ifId => lagDetachPortOnHw env xdk dev lagId ifId) dev
    (none, ifList.foldl (lagEnsureAttached env xdk lagId) dev)

/-- `ops_xp_lag_destroy`. -/
def lagDestroy (env : Env) (xdk : Xdk) (dev : Dev) (lagId : Nat) : Dev :=
  let ifList := lagPortIntfList dev lagId
  let (answered, dev) := dev.call xdk id
  if !answered then dev
  else
    let dev := ifList.foldl
      (fun dev ifId => lagDetachPortOnHw env xdk dev lagId ifId) dev
    let (_, dev) := dev.call xdk id
    let (_, dev) := dev.call xdk fun hw =>
      { hw with lags := KeyedList.remove Prod.fst lagId hw.lags }
    dev

/-! ## The table of the VLAN manager -/

variable (env : Env) (xdk : Xdk) (dev : Dev) (lagId ifId : Nat)

@[simp] theorem lagCreate_table : (lagCreate xdk dev).2.table = dev.table := by
  unfold lagCreate
  simp only
  split <;> simp

@[simp] theorem lagIsPortAttached_table :
    (lagIsPortAttached xdk dev lagId ifId).2.table = dev.table := by
  simp [lagIsPortAttached]

@[simp] theorem lagDetachPortOnHw_table :
    (lagDetachPortOnHw env xdk dev lagId ifId).table = dev.table := by
  unfold lagDetachPortOnHw
  simp only
  split
  · simp
  split
  · simp
  split
  · simp
  split
  · simp
  split <;> simp

@[simp] theorem lagSearch_table (lagIds : List Nat) :
    (lagSearch env xdk lagId ifId lagIds dev).2.table = dev.table := by
  induction lagIds generalizing dev with
  | nil => simp [lagSearch]
  | cons foundLagId lagIds inductionHypothesis =>
      unfold lagSearch
      simp only
      split
      · simp
      split
      · split <;> simp
      · simp [inductionHypothesis]

@[simp] theorem lagAttachPortOnHw_table :
    (lagAttachPortOnHw env xdk dev lagId ifId).table = dev.table := by
  unfold lagAttachPortOnHw
  simp only
  split
  · simp
  split
  · simp
  split
  · simp
  split
  · simp
  split <;> simp

@[simp] theorem lagEnsureAttached_table :
    (lagEnsureAttached env xdk lagId dev ifId).table = dev.table := by
  unfold lagEnsureAttached
  simp only
  split <;> simp

/-- A loop keeps the table when its body does. -/
theorem foldl_table
    {Item : Type*}
    {body : Dev → Item → Dev}
    (keeps : ∀ dev item, (body dev item).table = dev.table)
    (items : List Item) :
    (items.foldl body dev).table = dev.table := by
  induction items generalizing dev with
  | nil => rfl
  | cons item items inductionHypothesis =>
      rw [List.foldl_cons, inductionHypothesis, keeps]

@[simp] theorem lagAttachPorts_table (ifList : List Nat) :
    (lagAttachPorts env xdk dev lagId ifList).2.table = dev.table := by
  unfold lagAttachPorts
  simp only
  split
  · simp
  · rw [foldl_table _ (by simp), foldl_table _ (by simp), call_table]

@[simp] theorem lagDestroy_table :
    (lagDestroy env xdk dev lagId).table = dev.table := by
  unfold lagDestroy
  simp only
  split
  · simp
  · rw [call_table, call_table, foldl_table _ (by simp), call_table]

end Bundles
end XpliantSwitchd
