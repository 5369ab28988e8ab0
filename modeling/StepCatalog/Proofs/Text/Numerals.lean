import Mathlib
import StepCatalog.Proofs.Outcome
import StepCatalog.Text.Integer

namespace StepCatalog.Text

theorem decimalValue?_lt (h : Unicode.decimalValue? c = some n) : n < 10 := by
  have ⟨_, _, he⟩ := Option.map_eq_some_iff.mp h
  exact he ▸ Nat.mod_lt _ (by decide)

theorem lt_of_mem_numeralDigits? (h : numeralDigits? s = some ds) : ∀ n ∈ ds, n < 10 := by
  -- A digit is read off the front, with or without an underscore behind it.
  have cons {c : Char} {s : List Char} {ds : List Nat}
      (hi : ∀ {ds}, numeralDigits? s = some ds → ∀ n ∈ ds, n < 10)
      (h : (do return (← Unicode.decimalValue? c.toNat) :: (← numeralDigits? s)) = some ds) :
      ∀ n ∈ ds, n < 10 := by
    simp only [Option.bind_eq_bind, Option.bind_eq_some_iff, Option.pure_def,
      Option.some.injEq] at h
    obtain ⟨m, hm, _, hs, rfl⟩ := h
    exact List.forall_mem_cons.mpr ⟨decimalValue?_lt hm, hi hs⟩
  induction s using numeralDigits?.induct generalizing ds
  case case1 => contradiction
  case case2 c =>
    rw [numeralDigits?] at h
    have ⟨m, hm, he⟩ := Option.map_eq_some_iff.mp h
    exact he ▸ List.forall_mem_singleton.mpr (decimalValue?_lt hm)
  case case3 c cs hi =>
    rw [numeralDigits?] at h
    exact cons hi h
  case case4 c cs h₁ h₂ hi =>
    rw [numeralDigits?.eq_4 _ _ h₁ h₂] at h
    exact cons hi h

theorem ofDigits_eq (ds : List Nat) : ofDigits ds = Nat.ofDigits 10 ds.reverse := by
  rw [Nat.ofDigits_eq_foldr, List.foldr_reverse, ofDigits]
  simp [Nat.add_comm]

theorem ofDigits_lt (h : ∀ n ∈ ds, n < 10) : ofDigits ds < 10 ^ ds.length := by
  rw [ofDigits_eq, ← List.length_reverse]
  exact Nat.ofDigits_lt_base_pow_length (by decide) <| by simpa using h

theorem readNatural_lt (h : readNatural s = .ok n) : n < 10 ^ maxDigits := by
  unfold readNatural at h
  split at h
  case h_1 => contradiction
  case h_2 ds hd =>
    split_ifs at h with hl
    cases h
    refine (ofDigits_lt <| lt_of_mem_numeralDigits? hd).trans_le ?_
    exact Nat.pow_le_pow_right (by decide) <| Nat.not_lt.mp hl

-- The numerals that are converted have no more digits than that, whatever they are written with.
theorem readInteger_natAbs_lt (h : readInteger s = .ok n) : n.natAbs < 10 ^ maxDigits := by
  unfold readInteger at h
  split at h
  case h_1 ds _ =>
    cases hr : readNatural ds <;> rw [hr] at h <;> cases h
    case ok m => simpa using readNatural_lt hr
  case h_2 | h_3 =>
    have ⟨m, hm, he⟩ := map_eq_ok_iff.mp h
    exact he ▸ readNatural_lt hm

end StepCatalog.Text
