import OfferRules.Text.Lowercase

/-!
# Caseless comparison of characters

Two characters are the same without regard to case when their lower-case forms are, or when
those are forms of one letter that have a capital in common.

## Main definitions

* `caseSiblings` — the other lower-case forms that share a capital.
* `caseVariants` — all characters that are the same without regard to case.
-/

namespace OfferRules

/-- The lower-case code points that share a capital with another one, with those others. -/
def siblingTable : Array (Nat × List Nat) := #[
  (105, [305]), (115, [383]), (181, [956]), (305, [105]), (383, [115]), (837, [953, 8126]),
  (912, [8147]), (944, [8163]), (946, [976]), (949, [1013]), (952, [977]), (953, [837, 8126]),
  (954, [1008]), (956, [181]), (960, [982]), (961, [1009]), (962, [963]), (963, [962]),
  (966, [981]), (976, [946]), (977, [952]), (981, [966]), (982, [960]), (1008, [954]),
  (1009, [961]), (1013, [949]), (1074, [7296]), (1076, [7297]), (1086, [7298]), (1089, [7299]),
  (1090, [7300, 7301]), (1098, [7302]), (1123, [7303]), (7296, [1074]), (7297, [1076]),
  (7298, [1086]), (7299, [1089]), (7300, [1090, 7301]), (7301, [1090, 7300]), (7302, [1098]),
  (7303, [1123]), (7304, [42571]), (7777, [7835]), (7835, [7777]), (8126, [837, 953]),
  (8147, [912]), (8163, [944]), (42571, [7304]), (64261, [64262]), (64262, [64261])]

/-- The other lower-case forms that share a capital with a lower-case form. -/
def caseSiblings (c : Char) : List Char :=
  match siblingTable.find? fun e => e.1 == c.toNat with
  | some e => e.2.map Char.ofNat
  | none => []

/-- The code points whose lower-case form is a given one. -/
def capitalsOf (n : Nat) : List Nat :=
  let found := caseRuns.toList.filterMap fun r =>
    let m := ((n : Int) - r.shift).toNat
    if lowerCode m = n && m ≠ n then some m else none
  (if n = 0x69 then [0x130] else []) ++ (if lowerCode n = n then n :: found else found)

/-- The code points that are the same as a character without regard to case. -/
def caseVariants (c : Char) : List Nat :=
  let low := lowerChar c
  (low :: caseSiblings low).flatMap fun d => capitalsOf d.toNat

end OfferRules
