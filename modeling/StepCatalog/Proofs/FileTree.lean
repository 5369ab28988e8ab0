import Mathlib
import StepCatalog.FileTree
import StepCatalog.Proofs.Outcome

namespace StepCatalog.FileTree

variable {t t' : FileTree}

/-! ### Reading what has been written -/

theorem lookup_filter_ne {entries : List (Path × Entry)} (h : place ≠ other) :
    (entries.filter fun x => x.1 != other).lookup place = entries.lookup place := by
  induction entries
  case nil => rfl
  case cons x entries hi =>
    rcases x with ⟨location, e⟩
    rw [List.filter_cons, List.lookup_cons]
    by_cases hx : location = other
    case pos => simp [hx, beq_false_of_ne h, hi]
    case neg => simp [hx, List.lookup_cons, hi]

theorem entry?_put_of_ne (h : place ≠ other) :
    entry? (t.put other e) place = t.entry? place := by
  unfold entry? put
  rw [List.lookup_cons, beq_false_of_ne h, lookup_filter_ne h]

theorem entry?_put (h : place.climbs = false) : entry? (t.put place e) place = some e := by
  simp [put, h, entry?]

-- No path changes its meaning where something is put in place of no directory.
theorem walk_put (h : t.walk path here parts = .ok other) (hp : t.entry? place ≠ some .directory) :
    (t.put place e).walk path here parts = .ok other := by
  induction parts generalizing here
  case nil => exact h
  case cons name rest hi =>
    by_cases hu : name = ".."
    case pos =>
      rw [hu, walk] at h ⊢
      exact hi h
    case neg =>
      rw [walk.eq_3 _ _ _ _ _ hu] at h ⊢
      split at h
      case isTrue => contradiction
      case isFalse hn =>
        rw [if_neg hn]
        split at h
        case isTrue hr => rwa [if_pos hr]
        case isFalse hr =>
          rw [if_neg hr]
          cases he : t.entry? (here.child name)
          case none => simp [he] at h
          case some x =>
            cases x
            case file => simp [he] at h
            case directory =>
              have hc : here.child name ≠ place := fun hc => hp <| hc ▸ he
              rw [entry?_put_of_ne hc]
              simp only [he] at h ⊢
              exact hi h

theorem locate_put (h : t.locate p = .ok other) (hp : t.entry? place ≠ some .directory) :
    (t.put place e).locate p = .ok other := by
  unfold locate at h ⊢
  split_ifs at h ⊢
  exact walk_put h hp

theorem locate_of_write (h : t.write p content = .ok t') :
    ∃ place, t.locate p = .ok place ∧ t.entry? place ≠ some .directory ∧
      t.put place (.file content) = t' := by
  have ⟨place, hl, h⟩ := bind_eq_ok_iff.mp h
  refine ⟨place, hl, ?_⟩
  split at h
  case h_1 => contradiction
  case h_2 hd => exact ⟨hd, pure_eq_ok_iff.mp h⟩

-- A file that has been written is there, and has what was written.
theorem read_write (h : t.write p content = .ok t') :
    t'.read p = .ok content ∧ t'.contains p = .ok true := by
  have ⟨place, hl, hd, ht⟩ := locate_of_write h
  have hc : place.climbs = false := by
    by_contra hc
    exact hd <| if_pos <| by simpa using hc
  have hl := locate_put (e := .file content) hl hd
  rw [ht] at hl
  have he : t'.entry? place = some (.file content) := ht ▸ entry?_put hc
  simp only [read, contains, hl, he]
  exact ⟨by simp [bind, Except.bind, he]; rfl, rfl⟩

theorem contains_of_read (h : t.read p = .ok content) : t.contains p = .ok true := by
  have ⟨place, hl, h⟩ := bind_eq_ok_iff.mp h
  simp only [contains, hl]
  cases he : t.entry? place
  case none => simp [he, throw, throwThe, MonadExceptOf.throw] at h
  case some => rfl

/-! ### Where files can be written -/

-- The directories that a path lies in are there or can be made, and nothing there is a directory.
def IsWritable (t : FileTree) (p : Path) : Prop :=
  ∃ t' place, t.makeDirectories p.parent = (.ok (), t') ∧ t'.locate p = .ok place ∧
    t'.entry? place ≠ some .directory

theorem write_of_locate (hl : t.locate p = .ok place) (hd : t.entry? place ≠ some .directory)
    (content : ByteArray) : t.write p content = .ok (t.put place (.file content)) := by
  refine bind_eq_ok_iff.mpr ⟨place, hl, ?_⟩
  split
  case h_1 h => exact absurd h hd
  case h_2 => rfl

end StepCatalog.FileTree
