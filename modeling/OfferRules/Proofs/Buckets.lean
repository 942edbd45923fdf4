import OfferRules.Proofs.DoublePlace
import OfferRules.Proofs.GateOrder
import OfferRules.Proofs.StrictEquality

/-!
# Buckets part the players

A bucket gate draws one bucket for a player and a rule from the two names alone, so rules of one
name that share the buckets out among them share out the players.  A list names a bucket by any
value that counts as its number: a whole number, a double that is one, or a truth value for zero and
one.

## Main definitions

* `Value.CountsAs` — a value counts as a whole number.

## Main results

* `Gate.namesBucket_iff` — a value names a bucket when it counts as its number.
* `Gate.apply_buckets` — what a bucket gate makes of a rule that lists buckets.
* `bucketOf_of_dvd` — the bucket among fewer of them that divide the number of all.
* `Gate.buckets_partition` — **buckets part the players.**
-/

namespace OfferRules

open Traced

attribute [local irreducible] Magnitude.bound Magnitude.perOne

/-! ### Values that count as whole numbers -/

/-- A value counts as a whole number. -/
inductive Value.CountsAs : Value → Int → Prop where
  /-- A whole number. -/
  | int (n : Int) : CountsAs (.number (.int n)) n
  /-- A double that is whole. -/
  | double (d : Double) (n : Int) (h : d.toInt? = some n) : CountsAs (.number (.double d)) n
  /-- What is false counts as zero. -/
  | falsity : CountsAs (.bool false) 0
  /-- What is true counts as one. -/
  | truth : CountsAs (.bool true) 1

/-- Whole numbers are equal when they are at one place. -/
theorem Number.int_eq_int {m n : Int} : (Number.int m).eq (.int n) = true ↔ m = n := by
  rw [Number.eq_iff]
  constructor
  · rintro ⟨p, hm, hn⟩
    have hunits := Place.units.inj (Option.some.inj (hm.trans hn.symm))
    exact Int.eq_of_mul_eq_mul_right (Int.natCast_ne_zero_iff_pos.mpr Magnitude.perOne_pos) hunits
  · rintro rfl
    exact ⟨_, rfl, rfl⟩

theorem Number.double_eq_int {d : Double} {n : Int} :
    (Number.double d).eq (.int n) = true ↔ d.toInt? = some n := by
  rw [Number.eq_iff]
  constructor
  · rintro ⟨p, hd, hn⟩
    exact Double.toInt?_of_place? (hn.trans hd.symm)
  · intro h
    exact ⟨_, Double.place?_of_toInt? h, rfl⟩

/-! ### What a gate makes of a rule -/

namespace Gate

variable {count : Nat} {key : Text} {pos : 0 < count} {digest : Digest} {now : DateTime}
  {player : Value} {r : Rule}

theorem namesBucket_atom {bucket : Nat} {a : Atom} :
    namesBucket bucket (.atom a) = true ↔
      ∃ n, a.number? = some n ∧ n.eq (.int bucket) = true :=
  Option.any_eq_true _ _

/-- A value names a bucket when it counts as its number. -/
theorem namesBucket_iff {bucket : Nat} {v : Value} :
    namesBucket bucket v = true ↔ v.CountsAs bucket := by
  constructor
  · intro h
    cases v with
    | atom a =>
      obtain ⟨x, hx, h⟩ := namesBucket_atom.mp h
      cases a with
      | bool b =>
        -- a truth value is compared as the whole number that it counts as
        obtain rfl := Option.some.inj hx
        rw [Number.int_eq_int] at h
        cases b with
        | false => exact h ▸ .falsity
        | true => exact h ▸ .truth
      | number n =>
        obtain rfl := Option.some.inj hx
        cases n with
        | int n => exact Number.int_eq_int.mp h ▸ .int n
        | double d => exact .double d bucket (Number.double_eq_int.mp h)
      | _ => exact nomatch hx
    | _ => exact nomatch h
  · intro h
    generalize hn : (bucket : Int) = n at h
    cases h with
    | int => exact namesBucket_atom.mpr ⟨_, rfl, Number.int_eq_int.mpr hn.symm⟩
    | double d _ h => exact namesBucket_atom.mpr ⟨_, rfl, Number.double_eq_int.mpr (hn ▸ h)⟩
    | falsity => exact namesBucket_atom.mpr ⟨.int 0, rfl, Number.int_eq_int.mpr hn.symm⟩
    | truth => exact namesBucket_atom.mpr ⟨.int 1, rfl, Number.int_eq_int.mpr hn.symm⟩

instance (v : Value) (bucket : Nat) : Decidable (v.CountsAs bucket) :=
  decidable_of_iff _ namesBucket_iff

/-- A bucket gate keeps a rule that lists buckets where one of them is the one of the player, and
meets a fault where there is none. -/
theorem apply_buckets {items : List Value} (h : listed? r key = some items) :
    ((Gate.buckets count key pos digest).apply now r player).outcome
      = (bucketOf digest count r.id (playerId player)).map fun bucket =>
          if items.any (namesBucket bucket) then some r else none := by
  rw [apply_outcome rfl, admits_buckets h, bind_outcome, ofExcept_outcome]
  cases bucketOf digest count r.id (playerId player) with
  | error f => rfl
  | ok bucket =>
    dsimp only [Except.map, Bind.bind, Except.bind]
    cases items.any (namesBucket bucket) <;> rfl

end Gate

/-! ### Buckets -/

theorem bucketOf_lt {digest : Digest} {count : Nat} (pos : 0 < count) {ruleId : Text}
    {player : Value} {bucket : Nat} (h : bucketOf digest count ruleId player = .ok bucket) :
    bucket < count := by
  obtain ⟨-, n, -, rfl⟩ := bucketOf_eq_ok.mp h
  exact Nat.mod_lt _ pos

/-- The bucket among fewer of them that divide the number of all. -/
theorem bucketOf_of_dvd {digest : Digest} {m count : Nat} (hm : m ∣ count) {ruleId : Text}
    {player : Value} {bucket : Nat} (h : bucketOf digest count ruleId player = .ok bucket) :
    bucketOf digest m ruleId player = .ok (bucket % m) := by
  obtain ⟨hw, n, hn, rfl⟩ := bucketOf_eq_ok.mp h
  exact bucketOf_eq_ok.mpr ⟨hw, n, hn, (Nat.mod_mod_of_dvd n hm).symm⟩

/-- **Buckets part the players.**  Of rules of one name whose lists of buckets share out all
buckets, whatever else is in their promotions, a gate keeps one for a player and rejects all others;
it depends on nothing of the player but its name.  The gate may draw its numbers in any way from the
text of the two names, which must have a number: a text without surrogates has one by MD5.  The name
must be one that can be written, as it is for every player that is read from a JSON document.  Where
there is no number, or the name cannot be written, the gate meets the same fault on each of the
rules.  The bucket of the player is one of those that there are, and among fewer of them that divide
their number it is the remainder, so players who share a bucket also share the coarser one. -/
theorem Gate.buckets_partition {count : Nat} (pos : 0 < count) {key id : Text} {ι : Type}
    {lists : ι → List Value} {rules : ι → Rule}
    (hlists : ∀ bucket < count, ∃! i, ∃ v ∈ lists i, v.CountsAs bucket)
    (hid : ∀ i, (rules i).id = id)
    (hrules : ∀ i, Entries.get? (.text key) (rules i).promotion = some (.list (lists i))) :
    (∀ (digest : Digest) player n, (playerId player).isWritable = true →
      digest (bucketKey id (playerId player)) = .ok n → ∃ i, ∀ now,
      ((Gate.buckets count key pos digest).apply now (rules i) player).outcome
        = .ok (some (rules i)) ∧
      ∀ j, j ≠ i →
        ((Gate.buckets count key pos digest).apply now (rules j) player).outcome = .ok none) ∧
    (∀ s : String, ∃ n, Digest.md5 s = .ok n) ∧
    (∀ ps player, Json.read? ps = some player → (playerId player).isWritable = true) ∧
    (∀ (digest : Digest) player f, bucketOf digest count id (playerId player) = .error f →
      ∀ now i,
        ((Gate.buckets count key pos digest).apply now (rules i) player).outcome = .error f) ∧
    ∀ (digest : Digest) name bucket, bucketOf digest count id name = .ok bucket →
      bucket < count ∧ ∀ m, m ∣ count → bucketOf digest m id name = .ok (bucket % m) := by
  have hlisted : ∀ i, listed? (rules i) key = some (lists i) := by
    intro i
    rw [listed?, hrules i]
  refine ⟨?_, fun s => ⟨_, rfl⟩, fun ps player => isWritable_playerId_of_read?, ?_,
    fun digest name bucket h => ⟨bucketOf_lt pos h, fun m hm => bucketOf_of_dvd hm h⟩⟩
  · intro digest player n hw hn
    have hbucket : bucketOf digest count id (playerId player) = .ok (n % count) :=
      bucketOf_eq_ok.mpr ⟨hw, n, hn, rfl⟩
    -- the list that names the bucket of the player
    obtain ⟨i, hnamed, honly⟩ := hlists _ (bucketOf_lt pos hbucket)
    have happly : ∀ j now,
        ((Gate.buckets count key pos digest).apply now (rules j) player).outcome
          = .ok (if ∃ v ∈ lists j, v.CountsAs ↑(n % count) then some (rules j) else none) := by
      intro j now
      rw [apply_buckets (hlisted j), hid j, hbucket]
      simp only [Except.map, List.any_eq_true, namesBucket_iff]
    refine ⟨i, fun now => ⟨?_, ?_⟩⟩
    · rw [happly, if_pos hnamed]
    · intro j hj
      rw [happly, if_neg (fun hnamed' => hj (honly j hnamed'))]
  · intro digest player f hf now i
    rw [apply_buckets (hlisted i), hid i, hf]
    rfl

/-- Three buckets shared out between two lists, one of which names its buckets by a double and by a
truth value. -/
theorem Gate.buckets_partition_mixed :
    let lists : Bool → List Value := fun b =>
      if b then [.bool true, .text "none", .number (.double (Double.ofNat 2))] else [.int 0, .null]
    let rules : Bool → Rule := fun b =>
      { id := "r", promotion := [(.text "type", .bool b), (.text "lots", .list (lists b))] }
    let player : Value := .record [("playerId", .int 7)]
    (∀ bucket : Nat, bucket < 3 → ∃! b, ∃ v ∈ lists b, v.CountsAs bucket) ∧
      (playerId player).isWritable = true ∧
      ∃ b, ((Gate.buckets 3 "lots").apply Sample.noon (rules b) player).outcome
          = .ok (some (rules b)) ∧
        ((Gate.buckets 3 "lots").apply Sample.noon (rules !b) player).outcome = .ok none := by
  intro lists rules player
  have hlists : ∀ bucket : Nat, bucket < 3 → ∃! b, ∃ v ∈ lists b, v.CountsAs bucket := by
    unfold ExistsUnique
    decide +kernel
  have hw : (playerId player).isWritable = true := by decide +kernel
  have hid : ∀ b, (rules b).id = "r" := fun b => rfl
  have hrules : ∀ b, Entries.get? (.text "lots") (rules b).promotion = some (.list (lists b)) :=
    fun b => rfl
  obtain ⟨hpart, hmd5, -⟩ := Gate.buckets_partition (by decide : 0 < 3) hlists hid hrules
  obtain ⟨n, hn⟩ := hmd5 "r:7"
  obtain ⟨b, hb⟩ := hpart .md5 player n hw hn
  obtain ⟨hkept, hothers⟩ := hb Sample.noon
  exact ⟨hlists, hw, b, hkept, hothers (!b) (Bool.not_ne_self b)⟩

end OfferRules
