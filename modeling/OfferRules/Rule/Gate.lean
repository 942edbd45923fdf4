import OfferRules.Digest.Md5
import OfferRules.Log.Traced
import OfferRules.Rule.Basic
import OfferRules.Value.Literal

/-!
# Gates

A gate admits a rule whose conditions hold for a player, or rejects it.  A window gate looks at
the time in which the rule is active.  A bucket gate puts each player, for each rule, into one of
a number of buckets, and admits the rule if its promotion lists that bucket; a rule that lists
none is admitted.  A gate from outside may also put another rule in the place of the one it admits.

## Main definitions

* `TimeWindow.admits` — whether a moment lies in a window.
* `Digest`, `Digest.md5` — numbers drawn from texts.
* `bucketOf` — the bucket of a player for a rule.
* `Gate`, `Gate.admits` — the gates, and whether they admit a rule.
* `Gate.apply` — what a gate makes of a rule.
-/

namespace OfferRules

/-- Whether a moment lies in a window; a reading without an offset is one of universal time. -/
def TimeWindow.admits (w : TimeWindow) (now : DateTime) : Bool :=
  (w.start.all fun t => t.instant ≤ now.instant) && w.finish.all fun t => now.instant ≤ t.instant

/-- A number drawn from a text, which may not have one. -/
abbrev Digest := Text → Except Fault Nat

/-- The number of the MD5 digest of the bytes of a text; a torn text has no bytes. -/
def Digest.md5 : Digest := fun t => (t.utf8.map Md5.number).mapError .tornText

/-- The text from which the bucket of a player for a rule is drawn. -/
def bucketKey (ruleId : Text) (player : Value) : Text := ruleId ++ ":" ++ player.display

/-- The bucket, of a number of them, of a player for a rule; the name of the player must have a
display. -/
def bucketOf (digest : Digest) (count : Nat) (ruleId : Text) (player : Value) : Except Fault Nat :=
  if player.isWritable then (digest (bucketKey ruleId player)).map (· % count)
  else .error .longInteger

/-- The bucket is the remainder of the number that is drawn. -/
theorem bucketOf_eq_ok {digest : Digest} {count : Nat} {ruleId : Text} {player : Value}
    {bucket : Nat} :
    bucketOf digest count ruleId player = .ok bucket ↔ player.isWritable = true ∧
      ∃ n, digest (bucketKey ruleId player) = .ok n ∧ n % count = bucket := by
  unfold bucketOf
  cases player.isWritable with
  | false => simp
  | true => cases digest (bucketKey ruleId player) <;> simp [Except.map]

/-- Where a gate takes the time from. -/
inductive Clock where
  /-- The time at which it is asked. -/
  | running
  /-- Always the same time. -/
  | fixed (t : DateTime)
deriving DecidableEq

/-- What a clock shows at a time. -/
def Clock.read (now : DateTime) : Clock → DateTime
  | running => now
  | fixed t => t

/-- A gate. -/
inductive Gate where
  /-- Rejects rules outside their window. -/
  | window (clock : Clock)
  /-- Admits every rule. -/
  | pass
  /-- Rejects the rules of some names. -/
  | reject (ids : List Text)
  /-- Admits the rules that list the bucket of the player under a key of their promotion. -/
  | buckets (count : Nat) (key : Text) (count_pos : 0 < count := by decide)
      (digest : Digest := .md5)
  /-- Makes of a rule what a function from outside does: a rule, none, or a fault. -/
  | outside (hook : DateTime → Rule → Value → Except Fault (Option Rule))

namespace Gate

/-- The gate with a number of buckets, which must not be zero. -/
def buckets? (count : Int) (key : Text) : Except Fault Gate :=
  if h : 0 < count.toNat then .ok (.buckets count.toNat key h) else .error .bucketCount

/-- The key under which promotions list their buckets. -/
def bucketsKey : String := "abBuckets"

/-- Whether a value of a list of buckets names a bucket. -/
def namesBucket (bucket : Nat) (v : Value) : Bool :=
  match v with
  | .atom a => a.number?.any fun n => n.eq (.int bucket)
  | _ => false

/-- The buckets that a rule lists under a key, if it lists any. -/
def listed? (r : Rule) (key : Text) : Option (List Value) :=
  match Entries.get? (.text key) r.promotion with
  | some (.list items) => some items
  | _ => none

/-- Whether a gate admits a rule for a player at a time. -/
def admits (now : DateTime) (r : Rule) (player : Value) : Gate → Traced Bool
  | window clock =>
    return match r.window with
      | none => true
      | some w => w.admits (clock.read now)
  | pass => return true
  | reject ids => return !ids.contains r.id
  | buckets count key _ digest =>
    match listed? r key with
    | none => return true
    | some items => do
      let bucket ← Traced.ofExcept
        (bucketOf digest count r.id ((player.get? "playerId").getD .null))
      if items.any (namesBucket bucket) then return true
      else do
        Traced.tell (.outsideBuckets r.id bucket)
        return false
  | outside hook => Traced.ofExcept ((hook now r player).map Option.isSome)

/-- What a gate makes of a rule for a player at a time: none if it rejects the rule. -/
def apply (now : DateTime) (r : Rule) (player : Value) : Gate → Traced (Option Rule)
  | outside hook => Traced.ofExcept (hook now r player)
  | g => do return if ← g.admits now r player then some r else none

end Gate
end OfferRules
