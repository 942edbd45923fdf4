/-!
# The standard rule set

The rules that a service starts with when no other file of rules is configured, as a file in
YAML.
-/

namespace OfferRules.RuleSet

/-- The lines of the standard file of rules. -/
def standardLines : List String :=
  [ "rules:",
    "  - id: vip_platinum_reload",
    "    priority: 100",
    "    logic: AND",
    "    conditions:",
    "      - field: spendTier",
    "        operator: eq",
    "        value: platinum",
    "      - field: daysSinceLastPurchase",
    "        operator: lte",
    "        value: 14",
    "    promotion:",
    "      type: reload_bonus",
    "      amount: 500",
    "      currency: USD",
    "      description: Platinum reload bonus",
    "  - id: new_player_welcome",
    "    priority: 90",
    "    logic: AND",
    "    conditions:",
    "      - field: daysSinceRegistration",
    "        operator: lte",
    "        value: 7",
    "      - field: totalSpent",
    "        operator: eq",
    "        value: 0",
    "    promotion:",
    "      type: welcome_bonus",
    "      amount: 100",
    "      currency: USD",
    "      description: Welcome bonus for new players",
    "  - id: lapsed_player_winback",
    "    priority: 70",
    "    logic: AND",
    "    conditions:",
    "      - field: daysSinceLastPurchase",
    "        operator: gte",
    "        value: 30",
    "      - field: totalSpent",
    "        operator: gt",
    "        value: 50",
    "    promotion:",
    "      type: winback_free_spins",
    "      amount: 50",
    "      description: Free spins to welcome back lapsed players",
    "  - id: regional_launch",
    "    priority: 60",
    "    logic: OR",
    "    conditions:",
    "      - field: country",
    "        operator: in",
    "        value: [US, UK, CA]",
    "      - field: profile.tier",
    "        operator: eq",
    "        value: gold",
    "    promotion:",
    "      type: deposit_match",
    "      amount: 200",
    "      percentage: 50",
    "      description: Regional deposit match",
    "  - id: email_vip_club",
    "    priority: 50",
    "    conditions:",
    "      - field: email",
    "        operator: regex",
    "        value: '@vipclub\\.example$'",
    "    promotion:",
    "      type: cashback",
    "      percentage: 10",
    "      description: Cashback for VIP club members",
    "  - id: winter_festival",
    "    priority: 40",
    "    conditions:",
    "      - field: level",
    "        operator: gte",
    "        value: 10",
    "    timeWindow:",
    "      start: '2024-12-01T00:00:00Z'",
    "      end: '2025-01-07T23:59:59Z'",
    "    promotion:",
    "      type: seasonal_bonus",
    "      amount: 250",
    "      description: Winter festival bonus",
    "  - id: default_daily_bonus",
    "    priority: 0",
    "    conditions: []",
    "    promotion:",
    "      type: daily_bonus",
    "      amount: 10",
    "      description: Daily login bonus"
  ]

/-- The bytes of the standard file of rules. -/
def standardBytes : List UInt8 :=
  ("\n".intercalate standardLines ++ "\n").toUTF8.toList

end OfferRules.RuleSet
