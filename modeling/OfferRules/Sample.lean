import OfferRules.Value.Literal

/-!
# Sample players and rules

Players and rules for trying out an engine, as they appear in documents.

## Main definitions

* `Sample.player`, `Sample.players` — a player, and a spread of them.
* `Sample.rule`, `Sample.document` — a rule, and a small rule set.
-/

namespace OfferRules.Sample

/-! ### Players -/

/-- A player of some name with attributes, which may give another name. -/
def player (id : String) (attributes : Entries) : Value :=
  .map (Entries.override [(.text "playerId", .text id)] attributes)

/-- A new player, one who spends much, and one who has not bought for a while. -/
def players : List Value :=
  [.record [("playerId", .text "player-new"), ("level", .int 1), ("daysSinceRegistration", .int 1),
      ("totalSpent", .int 0), ("country", .text "US")],
    .record [("playerId", .text "player-vip"), ("level", .int 50), ("spendTier", .text "platinum"),
      ("daysSinceLastPurchase", .int 10), ("totalSpent", .int 12000),
      ("country", .text "INVALID")],
    .record [("playerId", .text "player-lapsed"), ("level", .int 22),
      ("daysSinceLastPurchase", .int 45), ("totalSpent", .int 300), ("country", .text "FR"),
      ("profile", .record [("tier", .text "silver")])]]

/-! ### Rules -/

/-- A rule with further attributes.  Without conditions it has none, and without a promotion it has
one that is named after it. -/
def rule (id priority conditions promotion : Value) (extra : Entries := []) : Value :=
  .map (Entries.override
    [(.text "id", id), (.text "priority", priority),
      (.text "conditions", if conditions.isTruthy then conditions else .list []),
      (.text "promotion", if promotion.isNull then
        .record [("type", .text (id.display ++ "_bonus"))] else promotion)]
    extra)

/-- The condition that a player has reached the first level. -/
def hasLevel : Value :=
  .record [("field", .text "level"), ("operator", .text "gte"), ("value", .int 1)]

/-- A promotion of some type and amount. -/
def bonus (type : String) (amount : Int) : Value :=
  .record [("type", .text type), ("amount", .int amount)]

/-- Two rules for players with a level, and one for all. -/
def document : Value :=
  .record [("rules", .list [
    rule (.text "low_priority") (.int 10) (.list [hasLevel]) (bonus "low_bonus" 100),
    rule (.text "high_priority") (.int 90) (.list [hasLevel]) (bonus "high_bonus" 1000),
    rule (.text "fallback") (.int 0) .null (bonus "daily_bonus" 10)])]

end OfferRules.Sample
