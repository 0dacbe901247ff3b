import Mathlib.Data.Fintype.Basic
import LightCtrl.Core.Contract

/-!
`systems/light.system`: the six protection domains with their priorities, and
the channels between them. A channel has an identifier of its own at each end.
-/

namespace LightCtrl

inductive ProtectionDomain where
  | scheduler
  | gpio
  | lightctl
  | commandin
  | faultmg
  | vehicleState
  deriving DecidableEq, Repr

instance : Fintype ProtectionDomain where
  elems := {.scheduler, .gpio, .lightctl, .commandin, .faultmg, .vehicleState}
  complete := by
    intro domain
    cases domain <;> decide

def ProtectionDomain.priority : ProtectionDomain → Nat
  | .scheduler => 253
  | .gpio => 252
  | .lightctl => 200
  | .commandin => 250
  | .faultmg => 210
  | .vehicleState => 245

/-- `<end pd="…" id="…"/>`. -/
abbrev ChannelEnd := ProtectionDomain × MicrokitChannel

/-- The `<channel>` elements, in the order of the file. -/
def channelTable : List (ChannelEnd × ChannelEnd) :=
  [((.gpio, 1), (.lightctl, 2)),
    ((.commandin, 3), (.scheduler, 4)),
    ((.faultmg, 5), (.lightctl, 6)),
    ((.faultmg, 7), (.gpio, 8)),
    ((.scheduler, 9), (.lightctl, 10)),
    ((.commandin, 11), (.faultmg, 12)),
    ((.scheduler, 13), (.faultmg, 14)),
    ((.scheduler, 15), (.vehicleState, 16)),
    ((.commandin, 17), (.vehicleState, 18)),
    ((.lightctl, 20), (.gpio, 20)),
    ((.lightctl, 21), (.gpio, 21)),
    ((.lightctl, 22), (.gpio, 22)),
    ((.lightctl, 23), (.gpio, 23)),
    ((.lightctl, 24), (.gpio, 24)),
    ((.lightctl, 25), (.gpio, 25)),
    ((.lightctl, 26), (.gpio, 26)),
    ((.lightctl, 27), (.gpio, 27)),
    ((.lightctl, 28), (.gpio, 28)),
    ((.lightctl, 29), (.gpio, 29)),
    ((.lightctl, 30), (.gpio, 30)),
    ((.lightctl, 31), (.gpio, 31))]

/-- `<irq irq="33" id="0"/>`, the interrupt of the UART. -/
def interruptTable : List ChannelEnd := [(.commandin, 0)]

/-- The end a notification on a channel of the domain arrives at. -/
def channelPeer (domain : ProtectionDomain) (channel : MicrokitChannel) :
    Option ChannelEnd :=
  channelTable.findSome? fun (left, right) =>
    if left = (domain, channel) then some right
    else if right = (domain, channel) then some left
    else none

/-- Every end of the system description. -/
def channelEnds : List ChannelEnd :=
  interruptTable ++ channelTable.flatMap fun (left, right) => [left, right]

end LightCtrl
