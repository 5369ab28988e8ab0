import Mathlib
import StepCatalog.Proofs.Settings.Editing

namespace StepCatalog.Settings

variable {s : Settings}

/-! ### What can be loaded -/

theorem textItems?_eq_some_iff : textItems? items = some texts ↔ items = texts.map .text := by
  refine ⟨fun h => ?_, fun h => h ▸ Json.textItems?_map texts⟩
  induction items generalizing texts
  case nil =>
    rw [textItems?, Option.some.injEq] at h
    exact h ▸ rfl
  case cons v items hi =>
    cases v
    case text t =>
      rw [textItems?, Option.map_eq_some_iff] at h
      obtain ⟨_, h, he⟩ := h
      rw [hi h, ← he, List.map_cons]
    all_goals contradiction

theorem lookup_of_ofJson (h : ofJson origin payload = .ok s) (hn : s.excludePaths ≠ []) :
    ∃ members, payload = .object members ∧
      members.lookup "exclude_paths" = some (.list (s.excludePaths.map .text)) := by
  unfold ofJson at h
  split at h
  case h_2 => contradiction
  case h_1 members =>
    refine ⟨members, rfl, ?_⟩
    split at h
    case h_2 => contradiction
    case h_1 items hl =>
      split at h
      case h_2 => contradiction
      case h_1 texts ht =>
        have hi := textItems?_eq_some_iff.mp ht
        cases h
        cases hm : members.lookup "exclude_paths"
        case none =>
          rw [hm, Option.getD_none, Json.list.injEq] at hl
          exact absurd (List.map_eq_nil_iff.mp <| hi.symm.trans hl.symm) hn
        case some v =>
          rw [hm, Option.getD_some] at hl
          rw [hl, hi]

/-! ### How often an entry is in the list -/

theorem count_remove (s : Settings) (f e : String) : (s.remove f).2.excludePaths.count e =
    s.excludePaths.count e - if Text.strip f = e then 1 else 0 := by
  simp only [remove_eq, List.count_erase, beq_iff_eq]

-- Every removal takes one entry away.
theorem count_run_replicate [Runtime] (h : Text.strip e = e) (s : Settings) (n : Nat) :
    (run s <| List.replicate n (.remove e)).excludePaths.count e =
      s.excludePaths.count e - n := by
  induction n generalizing s
  case zero => rfl
  case succ n hi =>
    rw [List.replicate_succ, run, List.foldl_cons, ← run, hi, edit, count_remove, if_pos h]
    omega

theorem strip_ne (h : Text.strip e ≠ e) (f : String) : Text.strip f ≠ e :=
  fun he => h <| by rw [← he, Text.strip_strip]

-- What is added is trimmed.
theorem count_add (h : Text.strip e ≠ e) (s : Settings) (f : String) :
    (s.add f).2.excludePaths.count e = s.excludePaths.count e := by
  rw [add_eq]
  split
  case isTrue => rfl
  case isFalse =>
    have hn : ¬(Text.strip f == e) = true := by simpa using strip_ne h f
    rw [List.count_append, List.count_singleton, if_neg hn, Nat.add_zero]

-- No edit gets at an entry that is not trimmed.
theorem count_edit [Runtime] (h : Text.strip e ≠ e) (hx : x.IsKnown) (s : Settings) :
    (s.edit x).excludePaths.count e = s.excludePaths.count e := by
  cases x
  case add f => rw [edit, count_add h]
  case remove f => rw [edit, count_remove, if_neg <| strip_ne h f, Nat.sub_zero]
  case reload => rw [edit, reload_eq hx.left hx.right]

theorem count_run [Runtime] (h : Text.strip e ≠ e) {edits : List Edit} (hk : ∀ x ∈ edits, x.IsKnown)
    (s : Settings) : (run s edits).excludePaths.count e = s.excludePaths.count e := by
  induction edits generalizing s
  case nil => rfl
  case cons x edits hi =>
    have ⟨hx, hk⟩ := List.forall_mem_cons.mp hk
    rw [run, List.foldl_cons, ← run, hi hk, count_edit h hx]

/-! ### Removing entries -/

-- Asking for an entry to be removed is answered with yes, and it is gone.
def Removes (s : Settings) (e : String) : Prop :=
  (s.remove e).1 = true ∧ e ∉ (s.remove e).2.excludePaths

theorem removes_iff (he : e ∈ s.excludePaths) :
    s.Removes e ↔ Text.strip e = e ∧ s.excludePaths.count e = 1 := by
  have hp := List.count_pos_iff.mpr he
  rw [Removes, ← List.count_eq_zero, count_remove, remove_eq, decide_eq_true_iff]
  by_cases h : Text.strip e = e
  case pos =>
    simp only [h, if_true, he, true_and]
    omega
  case neg => simp [h, hp.ne']

-- The entries of a list that has been loaded can be removed if they are trimmed and are in it once.
-- Others take as many removals as there are of them, or stay whatever is done.
theorem removes_loaded_iff [Runtime] (h : ofJson origin payload = .ok s) (he : e ∈ s.excludePaths) :
    (∃ members, payload = .object members ∧
      members.lookup "exclude_paths" = some (.list (s.excludePaths.map .text))) ∧
    (s.Removes e ↔ Text.strip e = e ∧ s.excludePaths.count e = 1) ∧
    (Text.strip e = e → ∀ n, (run s <| List.replicate n (.remove e)).excludePaths.count e =
      s.excludePaths.count e - n) ∧
    (Text.strip e ≠ e → ∀ edits : List Edit, (∀ x ∈ edits, x.IsKnown) →
      (run s edits).excludePaths.count e = s.excludePaths.count e) :=
  ⟨lookup_of_ofJson h <| List.ne_nil_of_mem he, removes_iff he, fun ht => count_run_replicate ht s,
    fun ht _ hk => count_run ht hk s⟩

theorem removes_loaded_iff_repeated :
    Removes ⟨["b", "a", " b", "a"]⟩ "b" ∧
    ((run ⟨["b", "a", " b", "a"]⟩ [.remove "a", .remove "a"]).excludePaths.count "a" = 0) ∧
    (run ⟨["b", "a", " b", "a"]⟩ [.remove " b", .remove "b"]).excludePaths.count " b" = 1 := by
  have h : ofJson "s" (.object [("exclude_paths", .list [.text "b", .text "a", .text " b",
    .text "a"])]) = .ok ⟨["b", "a", " b", "a"]⟩ := rfl
  have ⟨_, hb, _⟩ := removes_loaded_iff h (e := "b") (by decide)
  have ⟨_, _, ha, _⟩ := removes_loaded_iff h (e := "a") (by decide)
  have ⟨_, _, _, hs⟩ := removes_loaded_iff h (e := " b") (by decide)
  refine ⟨hb.mpr <| by decide, ha (by decide) 2, hs (by decide) [.remove " b", .remove "b"] ?_⟩
  simp only [List.forall_mem_cons]
  exact ⟨trivial, trivial, List.forall_mem_nil _⟩

-- An entry with blanks around it is not found again.
theorem not_forall_removes : ¬∀ origin payload s e, ofJson origin payload = .ok s →
    e ∈ s.excludePaths → ¬Text.isBlankText e → s.Removes e := by
  intro h
  have hr := h "s" (.object [("exclude_paths", .list [.text " build "])]) ⟨[" build "]⟩ " build "
    rfl (by decide) (by decide)
  have ⟨ht, _⟩ := (removes_iff <| by decide).mp hr
  exact absurd ht <| by decide

end StepCatalog.Settings
