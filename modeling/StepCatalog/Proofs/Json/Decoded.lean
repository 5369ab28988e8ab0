import Mathlib
import StepCatalog.Proofs.Json.Dialects
import StepCatalog.Proofs.Json.Order

namespace StepCatalog.Json

variable {d : Dialect}

/-! ### Words -/

-- The values that are no texts and have no values in them. The integers are the dialect's and have
-- no more digits than it converts, and the floats are bounded unless there are others in it.
inductive IsScalar (d : Dialect) : Json → Prop
  | null : IsScalar d .null
  | bool (b : Bool) : IsScalar d (.bool b)
  | int (hn : d.holds n) (hl : n.natAbs < 10 ^ Text.maxDigits) : IsScalar d (.int n)
  | float (hb : x.IsBounded) (hf : ∀ negative, x = .infinite negative → d.allowsNonFinite) :
    IsScalar d (.float x)

theorem Numeral.toFloat?_isScalar {n : Numeral} (h : n.toFloat? d = some v) : v.IsScalar d := by
  have hb : n.toFloat.IsBounded := Number.Binary64.ofDecimal_isBounded ..
  unfold toFloat? at h
  split at h
  case h_1 negative _ =>
    split at h
    case isTrue ha => cases h; exact .float trivial fun _ _ => ha
    case isFalse => contradiction
  case h_2 hx => cases h; exact .float hb fun negative hn => absurd hn <| hx negative

theorem Numeral.toJson?_isScalar {n : Numeral} (hd : ∀ c ∈ n.whole, c.isDigit)
    (h : n.toJson? d = some v) : v.IsScalar d := by
  unfold toJson? at h
  split at h
  case h_2 => exact toFloat?_isScalar h
  case h_1 =>
    have ha : (if n.negative then -(digits n.whole : Int) else digits n.whole).natAbs =
        digits n.whole := by
      split <;> simp
    dsimp only at h
    generalize (if n.negative then -(digits n.whole : Int) else digits n.whole) = value at h ha
    split at h
    case isTrue => exact toFloat?_isScalar h
    case isFalse hh =>
      split at h
      case isFalse => contradiction
      case isTrue hl =>
        cases h
        have := digits_lt hd
        exact .int (by simpa using hh) <| ha ▸ this.trans_le (Nat.pow_le_pow_right (by decide) hl)

theorem scalar?_isScalar (h : scalar? d w = some v) : v.IsScalar d := by
  unfold scalar? at h
  split_ifs at h with _ _ _ ha ha ha
  case neg =>
    have ⟨n, hr, hv⟩ := Option.bind_eq_some_iff.mp h
    exact Numeral.toJson?_isScalar (Numeral.whole_of_read? hr).left hv
  all_goals cases h
  case pos => exact .null
  case pos => exact .bool _
  case pos => exact .bool _
  all_goals exact .float trivial fun _ _ => by simp_all

/-! ### Tokens -/

theorem scalar_of_mem_tokens (h : .scalar v ∈ tokens d s) : v.IsScalar d := by
  rcases (Lexer.run_adds d {} s).exists_word <| List.mem_reverse.mp h with h | ⟨w, hw⟩
  case inl => exact absurd h List.not_mem_nil
  case inr => exact scalar?_isScalar hw

/-! ### Lists and objects -/

-- What a dialect reads inside of so many lists and objects.
inductive ReadBy (d : Dialect) : Nat → Json → Prop
  | scalar (h : v.IsScalar d) : ReadBy d n v
  | text (s : String) : ReadBy d n (.text s)
  | list (hn : n < d.maxDepth) (h : ∀ v ∈ items, ReadBy d (n + 1) v) : ReadBy d n (.list items)
  | object (hn : n < d.maxDepth) (h : ∀ m ∈ members, ReadBy d (n + 1) m.2) :
    ReadBy d n (.object members)

-- The values that a list or object has so far.
def Open.values : Open → List Json
  | list items => items
  | object members _ => members.map (·.2)

theorem mem_put (h : m ∈ put key value members) : m.2 = value ∨ m ∈ members := by
  induction members
  case nil => exact .inl <| List.mem_singleton.mp h ▸ rfl
  case cons x rest hi =>
    rw [put] at h
    split at h
    case isTrue =>
      rcases List.mem_cons.mp h with rfl | h
      case inl => exact .inl rfl
      case inr => exact .inr <| List.mem_cons_of_mem _ h
    case isFalse =>
      rcases List.mem_cons.mp h with rfl | h
      case inl => exact .inr List.mem_cons_self
      case inr => exact (hi h).imp_right <| List.mem_cons_of_mem _

namespace Reader

-- What is inside of the open lists and objects has been read, each in its place.
def IsRead (d : Dialect) : List Open → Prop
  | [] => True
  | o :: rest =>
    rest.length < d.maxDepth ∧ (∀ v ∈ o.values, ReadBy d (rest.length + 1) v) ∧ IsRead d rest

-- The same of a reader, and of the document if it has all of it.
structure Reads (d : Dialect) (r : Reader) : Prop where
  stack : IsRead d r.stack
  document : ∀ v, r.expecting = .nothing v → ReadBy d 0 v

variable {stack : List Open}

theorem complete_reads (h : IsRead d stack) (hv : ReadBy d stack.length v) :
    (complete v stack).Reads d := by
  cases stack
  case nil => exact ⟨trivial, fun _ he => Expecting.nothing.inj he ▸ hv⟩
  case cons o rest =>
    have ⟨hn, hs, hr⟩ := h
    cases o
    case list items => exact ⟨⟨hn, List.forall_mem_cons.mpr ⟨hv, hs⟩, hr⟩, nofun⟩
    case object members key =>
      refine ⟨⟨hn, ?_, hr⟩, nofun⟩
      intro u hu
      have ⟨m, hm, he⟩ := List.mem_map.mp hu
      rcases mem_put hm with hm | hm
      case inl => exact he ▸ hm ▸ hv
      case inr => exact hs u <| List.mem_map.mpr ⟨m, hm, he⟩

theorem openNew_reads (h : IsRead d stack) (ho : openNew d stack c = .ok r) : r.Reads d := by
  unfold openNew at ho
  split at ho
  case isTrue => contradiction
  case isFalse hn =>
    cases c <;> cases ho <;> exact ⟨⟨Nat.lt_of_not_le hn, nofun, h⟩, nofun⟩

theorem readValue_reads (h : IsRead d stack) (ht : ∀ v, t = .scalar v → v.IsScalar d)
    (hr : readValue d stack t = .ok r) : r.Reads d := by
  cases t <;> simp only [readValue, reduceCtorEq] at hr
  case listStart | objectStart => exact openNew_reads h hr
  case text s => cases hr; exact complete_reads h <| .text s
  case scalar v =>
    cases hr
    exact complete_reads h <| .scalar <| ht v rfl

theorem readKey_reads (h : IsRead d stack) (hr : readKey stack t = .ok r) : r.Reads d := by
  unfold readKey at hr
  split at hr
  case h_1 => cases hr; exact ⟨h, nofun⟩
  case h_2 => contradiction

theorem close_reads (h : IsRead d stack) (hr : close stack t = .ok r) : r.Reads d := by
  unfold close at hr
  split at hr
  case h_3 => contradiction
  case h_1 items rest =>
    cases hr
    have ⟨hn, hs, h⟩ := h
    refine complete_reads h <| .list hn ?_
    exact fun v hv => hs v <| List.mem_reverse.mp hv
  case h_2 members _ rest =>
    cases hr
    have ⟨hn, hs, h⟩ := h
    refine complete_reads h <| .object hn ?_
    exact fun m hm => hs m.2 <| List.mem_map.mpr ⟨m, hm, rfl⟩

theorem next_reads (h : IsRead d stack) (hr : next stack = .ok r) : r.Reads d := by
  unfold next at hr
  split at hr
  case h_3 => contradiction
  all_goals cases hr; exact ⟨h, nofun⟩

theorem step_reads {r : Reader} (h : r.Reads d) (ht : ∀ v, t = .scalar v → v.IsScalar d)
    (hr : r.step d t = .ok r') : r'.Reads d := by
  unfold step at hr
  split at hr
  case h_1 | h_9 => contradiction
  case h_2 | h_4 => exact readValue_reads h.stack ht hr
  case h_3 | h_5 | h_11 => exact close_reads h.stack hr
  case h_6 | h_7 => exact readKey_reads h.stack hr
  case h_8 => cases hr; exact ⟨h.stack, nofun⟩
  case h_10 => exact next_reads h.stack hr

theorem run_reads {r : Reader} (h : r.Reads d)
    (ht : ∀ v, .scalar v ∈ ts → v.IsScalar d) (hr : run d r ts = .ok r') :
    r'.Reads d := by
  induction ts generalizing r <;> simp only [run] at hr
  case nil => cases hr; exact h
  case cons t ts hi =>
    cases hs : r.step d t <;> simp only [hs, reduceCtorEq] at hr
    case ok q =>
      have hq := step_reads h (fun v hv => ht v <| hv ▸ List.mem_cons_self) hs
      exact hi hq (fun v hv => ht v <| List.mem_cons_of_mem t hv) hr

end Reader

theorem parse_readBy (h : parse d s = .ok v) : ReadBy d 0 v := by
  have ⟨r, hr, h⟩ := bind_eq_ok_iff.mp h
  have hs : (Reader.mk [] .value).Reads d := ⟨trivial, nofun⟩
  have hd := (Reader.run_reads hs (fun _ => scalar_of_mem_tokens) hr).document
  split at h
  case h_1 u hu => exact pure_eq_ok_iff.mp h ▸ hd u hu
  case h_2 => contradiction

theorem decode_readBy (h : decode d bytes = .ok v) : ReadBy d 0 v := by
  unfold decode at h
  split at h
  case h_1 => exact parse_readBy h
  case h_2 => contradiction

theorem ReadBy.depth_le (h : ReadBy d n v) (hn : n ≤ d.maxDepth) : v.depth + n ≤ d.maxDepth := by
  induction h
  case scalar h => cases h <;> simpa [depth] using hn
  case text => simpa [depth] using hn
  case list n items hl _ hi =>
    have : itemsDepth items ≤ d.maxDepth - (n + 1) := itemsDepth_le_iff.mpr fun v hv => by
      have := hi v hv hl
      omega
    simp only [depth]
    omega
  case object n members hl _ hi =>
    have : membersDepth members ≤ d.maxDepth - (n + 1) := membersDepth_le_iff.mpr fun m hm => by
      have := hi m hm hl
      omega
    simp only [depth]
    omega

/-! ### Depth -/

namespace Reader

-- A list or object too many is called so only in a dialect that reports it.
def IsReported (d : Dialect) (e : ReadFault) : Prop :=
  ∀ c, e = .tooDeep c → d.reportsDepth

variable {stack : List Open}

theorem malformed_isReported : Raises (.error .malformed : Reading α) (IsReported d) :=
  Raises.error nofun

theorem readValue_raises (t : Token) : Raises (readValue d stack t) (IsReported d) := by
  have opening (c : Container) : Raises (openNew d stack c) (IsReported d) := by
    unfold openNew
    split
    case isFalse => cases c <;> exact Raises.ok _ _
    case isTrue =>
      refine Raises.error ?_
      intro _ hc
      unfold depthFault at hc
      split at hc
      case isTrue h => exact h
      case isFalse => contradiction
  cases t <;> first | exact malformed_isReported | exact Raises.ok _ _ | exact opening _

theorem step_raises (r : Reader) (t : Token) : Raises (r.step d t) (IsReported d) := by
  unfold step
  split
  case h_2 | h_4 => exact readValue_raises _
  case h_8 => exact Raises.ok _ _
  case h_1 | h_9 => exact malformed_isReported
  case h_3 | h_5 | h_11 =>
    unfold close
    split <;> first | exact malformed_isReported | exact Raises.ok _ _
  case h_6 | h_7 =>
    unfold readKey
    split <;> first | exact malformed_isReported | exact Raises.ok _ _
  case h_10 =>
    unfold next
    split <;> first | exact malformed_isReported | exact Raises.ok _ _

theorem run_raises (r : Reader) (ts : List Token) : Raises (run d r ts) (IsReported d) := by
  induction ts generalizing r <;> simp only [run]
  case nil => exact Raises.ok _ _
  case cons t ts hi =>
    cases hs : r.step d t
    case error e => exact Raises.error <| step_raises r t e hs
    case ok q => exact hi q

end Reader

theorem decode_raises (d : Dialect) (bytes : ByteArray) :
    Raises (decode d bytes) (Reader.IsReported d) := by
  unfold decode
  split
  case h_2 => exact Reader.malformed_isReported
  case h_1 s _ =>
    refine (Reader.run_raises _ _).bind fun r _ => ?_
    split
    case h_1 => exact Raises.pure _ _
    case h_2 => exact Reader.malformed_isReported

end StepCatalog.Json
