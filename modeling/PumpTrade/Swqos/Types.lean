import Mathlib.Data.List.Defs

/-!
# Service and trade types

The enumerations of `swqos/mod.rs`.
-/

namespace PumpTrade

/-- The kind of trade a transaction makes. -/
inductive TradeType where
  | create | createAndBuy | buy | sell
  deriving DecidableEq, Repr

/-- The services a transaction can be sent through. -/
inductive SwqosType where
  | jito | nextBlock | zeroSlot | temporal | bloxroute | node1 | flashBlock | blockRazor | astralane
  | stellium | lightspeed | soyas | speedlanding | helius | default
  deriving DecidableEq, Repr

/-- All services, in the order of the source. -/
def SwqosType.values : List SwqosType :=
  [.jito, .nextBlock, .zeroSlot, .temporal, .bloxroute, .node1, .flashBlock, .blockRazor, .astralane,
    .stellium, .lightspeed, .soyas, .speedlanding, .helius, .default]

@[simp] theorem SwqosType.mem_values (t : SwqosType) : t ∈ values := by cases t <;> decide

theorem SwqosType.values_nodup : values.Nodup := by decide

end PumpTrade
