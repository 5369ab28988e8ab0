import Mathlib

namespace StepCatalog

/-! ### Steps that may fail -/

variable {x : Except ε α}

theorem map_eq_ok_iff : x.map f = .ok b ↔ ∃ a, x = .ok a ∧ f a = b := by
  cases x <;> simp [Except.map]

theorem mapError_eq_ok_iff : x.mapError f = .ok a ↔ x = .ok a := by
  cases x <;> simp [Except.mapError]

theorem bind_eq_ok_iff {f : α → Except ε β} : x >>= f = .ok b ↔ ∃ a, x = .ok a ∧ f a = .ok b := by
  cases x <;> simp [bind, Except.bind]

theorem pure_eq_ok_iff {a b : α} : (pure a : Except ε α) = .ok b ↔ a = b := by
  simp [pure, Except.pure]

theorem exists_of_isOk (h : x.isOk) : ∃ a, x = .ok a := by
  cases x
  case ok a => exact ⟨a, rfl⟩
  case error => contradiction

-- A traversal returns what each item of it comes to, in their order.
theorem mapM_eq_ok_iff {f : α → Except ε β} {l : List α} :
    l.mapM f = .ok bs ↔ List.Forall₂ (fun a b => f a = .ok b) l bs := by
  induction l generalizing bs
  case nil => simp [pure, Except.pure, eq_comm]
  case cons a l hi =>
    simp only [List.mapM_cons, bind_eq_ok_iff, pure_eq_ok_iff, hi, List.forall₂_cons_left_iff]
    constructor
    case mp =>
      rintro ⟨b, hb, bs, hbs, rfl⟩
      exact ⟨b, bs, hb, hbs, rfl⟩
    case mpr =>
      rintro ⟨b, bs, hb, hbs, rfl⟩
      exact ⟨b, hb, bs, hbs, rfl⟩

theorem exists_of_mem_mapM {f : α → Except ε β} {l : List α} (h : l.mapM f = .ok bs)
    (hb : b ∈ bs) : ∃ a ∈ l, f a = .ok b := by
  rw [mapM_eq_ok_iff] at h
  induction h
  case nil => contradiction
  case cons a _ l _ ha _ hi =>
    rcases List.mem_cons.mp hb with rfl | hb
    case inl => exact ⟨a, List.mem_cons_self, ha⟩
    case inr =>
      have ⟨x, hx, hf⟩ := hi hb
      exact ⟨x, List.mem_cons_of_mem a hx, hf⟩

theorem exists_mapM_iff {f : α → Except ε β} {l : List α} :
    (∃ bs, l.mapM f = .ok bs) ↔ ∀ a ∈ l, ∃ b, f a = .ok b := by
  induction l
  case nil => simp [pure, Except.pure]
  case cons a l hi =>
    rw [List.forall_mem_cons, ← hi, List.mapM_cons]
    cases f a <;> cases l.mapM f <;> simp [bind, Except.bind, pure, Except.pure]

theorem toOption_mapError {f : ε → δ} : (x.mapError f).toOption = x.toOption := by
  cases x <;> rfl

theorem toOption_bind {f : α → Except ε β} :
    (x.bind f).toOption = x.toOption.bind fun a => (f a).toOption := by
  cases x <;> rfl

theorem toOption_map : (x.map f).toOption = x.toOption.map f := by
  cases x <;> rfl

/-! ### Steps that fail -/

theorem bind_eq_error_iff {f : α → Except ε β} :
    x >>= f = .error e ↔ x = .error e ∨ ∃ a, x = .ok a ∧ f a = .error e := by
  cases x <;> simp [bind, Except.bind]

theorem mapError_eq_error_iff {f : ε → δ} :
    x.mapError f = .error d ↔ ∃ e, x = .error e ∧ f e = d := by
  cases x <;> simp [Except.mapError]

theorem map_eq_error_iff {f : α → β} : x.map f = .error e ↔ x = .error e := by
  cases x <;> simp [Except.map]

-- Whatever a step fails with is of some kind.
def Raises (x : Except ε α) (P : ε → Prop) : Prop :=
  ∀ e, x = .error e → P e

namespace Raises

theorem ok (a : α) (P : ε → Prop) : Raises (.ok a) P :=
  nofun

theorem pure (a : α) (P : ε → Prop) : Raises (pure a) P :=
  ok a P

theorem error {P : ε → Prop} (h : P e) : Raises (.error e : Except ε α) P :=
  fun _ he => Except.error.inj he ▸ h

theorem mono (h : Raises x P) (hp : ∀ e, P e → Q e) : Raises x Q :=
  fun e he => hp e <| h e he

theorem bind {f : α → Except ε β} (h : Raises x P) (hf : ∀ a, x = .ok a → Raises (f a) P) :
    Raises (x >>= f) P := by
  intro e he
  rcases bind_eq_error_iff.mp he with he | ⟨a, ha, he⟩
  case inl => exact h e he
  case inr => exact hf a ha e he

theorem mapM {f : α → Except ε β} {l : List α} (h : ∀ a ∈ l, Raises (f a) P) :
    Raises (l.mapM f) P := by
  induction l
  case nil => exact ok [] P
  case cons a l hi =>
    have ⟨ha, h⟩ := List.forall_mem_cons.mp h
    rw [List.mapM_cons]
    exact ha.bind fun _ _ => (hi h).bind fun _ _ => pure _ P

end Raises

/-! ### The first step that fails -/

-- A step fails, and the ones before it do not.
def FailsFirst (f : α → Except ε β) (l : List α) (e : ε) : Prop :=
  ∃ before a after, l = before ++ a :: after ∧ (∀ x ∈ before, ∃ b, f x = .ok b) ∧ f a = .error e

variable {f : α → Except ε β} {l : List α}

theorem not_failsFirst_nil : ¬FailsFirst f [] e := by
  rintro ⟨before, a, after, h, _⟩
  simp at h

theorem failsFirst_cons_iff :
    FailsFirst f (a :: l) e ↔ f a = .error e ∨ (∃ b, f a = .ok b) ∧ FailsFirst f l e := by
  constructor
  case mp =>
    rintro ⟨before, c, after, hl, hb, hc⟩
    cases before
    case nil =>
      have ⟨ha, _⟩ := List.cons.inj hl
      exact .inl <| ha ▸ hc
    case cons d before =>
      have ⟨ha, hl⟩ := List.cons.inj hl
      have ⟨hd, hb⟩ := List.forall_mem_cons.mp hb
      exact .inr ⟨ha ▸ hd, before, c, after, hl, hb, hc⟩
  case mpr =>
    rintro (ha | ⟨ha, before, c, after, rfl, hb, hc⟩)
    case inl => exact ⟨[], a, l, rfl, nofun, ha⟩
    case inr => exact ⟨a :: before, c, after, rfl, List.forall_mem_cons.mpr ⟨ha, hb⟩, hc⟩

theorem mapM_eq_error_iff : l.mapM f = .error e ↔ FailsFirst f l e := by
  induction l
  case nil => exact ⟨nofun, fun h => absurd h not_failsFirst_nil⟩
  case cons a l hi =>
    rw [List.mapM_cons, failsFirst_cons_iff, bind_eq_error_iff, ← hi]
    cases f a <;> cases l.mapM f <;> simp [bind, Except.bind, pure, Except.pure]

end StepCatalog
