import Mathlib
import StepCatalog.Regex.Matcher

namespace StepCatalog.Regex

/-! ### Settings -/

namespace Setting

-- No node tells one setting from the other: of what comes next only its character counts.
structure Agrees (s s' : Setting) : Prop where
  flags : s.flags = s'.flags
  inRound : s.inRound = s'.inRound
  nextChar : s.nextChar? = s'.nextChar?

theorem nextChar?_cons_of_isHollow (h : n.isHollow) (s : Setting) :
    nextChar? { s with next := (fs, n) :: s.next } = s.nextChar? := by
  simp [nextChar?, h]

theorem nextChar?_cons_of_not_isHollow (h : n.isHollow = false) (s s' : Setting) :
    nextChar? { s with next := (fs, n) :: s.next } =
      nextChar? { s' with next := (fs, n) :: s'.next } := by
  simp [nextChar?, h]

namespace Agrees

variable {s s' : Setting}

theorem last_eq (h : s.Agrees s') : s.last = s'.last := by
  simp [last, h.flags, h.inRound]

theorem push (h : s.Agrees s') (n : Flags × Node) :
    Agrees { s with next := n :: s.next } { s' with next := n :: s'.next } := by
  refine ⟨h.flags, h.inRound, ?_⟩
  cases hn : n.2.isHollow
  case true => rw [nextChar?_cons_of_isHollow hn, nextChar?_cons_of_isHollow hn, h.nextChar]
  case false => exact nextChar?_cons_of_not_isHollow hn s s'

theorem withFlags (h : s.Agrees s') (fs : Flags) :
    Agrees { s with flags := fs } { s' with flags := fs } :=
  ⟨rfl, h.inRound, h.nextChar⟩

end Agrees

end Setting

variable {text : Array Char} {r r' : Registers} {k k' : Rest} {m m' : Move}

theorem Node.run_congr [Runtime] (n : Node) (h : Setting.Agrees s s') :
    n.run text s = n.run text s' := by
  funext p r k
  induction n generalizing s s' p r k <;> simp only [Node.run]
  case char | anchor | backref => rw [h.flags]
  case seq a b ha hb =>
    rw [ha (h.push (s.flags, b)), h.flags]
    simp only [hb h]
  case alt a b ha hb => simp only [Move.alternative, h.flags, h.inRound, h.last_eq, hb h]
  case loop q a ha =>
    simp only [Move.repeatChar, h.flags, h.inRound, h.nextChar, h.last_eq]
  case capture | atomic => rw [h.last_eq]
  case «scoped» on off a ha => rw [ha (h.withFlags _), h.flags]
  case look => rw [h.last_eq, h.inRound]
  case conditional g yes no hy hn =>
    rw [hn h, h.last_eq]
    split
    case isFalse => rfl
    case isTrue =>
      split
      case h_1 => exact hy h ..
      case h_2 => rfl

/-! ### Registers -/

theorem Registers.moveTo_eq (h : r.bounds = r'.bounds) (p : Nat) :
    r.moveTo p = r'.moveTo p := by
  simp [moveTo, h]

theorem Registers.moveTo_bounds (h : r.bounds = r'.bounds) (p : Nat) :
    (r.moveTo p).bounds = (r'.moveTo p).bounds :=
  h

-- Trials that go alike and note the same bounds, with the cursor at whatever places.
structure Trial.Alike (t t' : Trial) : Prop where
  matched : t.matched = t'.matched
  bounds : t.registers.bounds = t'.registers.bounds

-- What is left to match takes no notice of the cursor.
def Rest.Alike (k k' : Rest) : Prop :=
  ∀ p r r', r.bounds = r'.bounds → (k p r).Alike (k' p r')

theorem Rest.Alike.moved (hk : Rest.Alike k k') (h : r.bounds = r'.bounds) (p q : Nat) :
    (k p (r.moveTo q)).Alike (k' p (r'.moveTo q)) :=
  hk p _ _ h

def Move.Alike (m m' : Move) : Prop :=
  ∀ p r r' k k', r.bounds = r'.bounds → Rest.Alike k k' → (m p r k).Alike (m' p r' k')

theorem Move.Alike.moved (hm : Move.Alike m m') (h : r.bounds = r'.bounds) (hk : Rest.Alike k k')
    (p q : Nat) : (m p (r.moveTo q) k).Alike (m' p (r'.moveTo q) k') :=
  hm p _ _ k k' h hk

namespace Trial.Alike

theorem failure (h : r.bounds = r'.bounds) : (Trial.failure r).Alike (Trial.failure r') :=
  ⟨rfl, h⟩

theorem test (h : r.bounds = r'.bounds) (hk : k.Alike k') (c : Prop) [Decidable c] (p : Nat) :
    (if c then k p r else .failure r).Alike (if c then k' p r' else .failure r') := by
  split
  case isTrue => exact hk p r r' h
  case isFalse => exact failure h

theorem orTry {t t' : Trial} {f f' : Registers → Trial} (h : t.Alike t')
    (hf : ∀ r r', r.bounds = r'.bounds → (f r).Alike (f' r')) :
    (t.orTry f).Alike (t'.orTry f') := by
  unfold Trial.orTry
  rw [← h.matched]
  split
  case isTrue => exact h
  case isFalse => exact hf _ _ h.bounds

theorem undo {now now' : Registers} (h : r.bounds = r'.bounds) (hn : now.bounds = now'.bounds)
    (inRound : Bool) : (r.undo inRound now).bounds = (r'.undo inRound now').bounds := by
  simp [Registers.undo, h, hn]

theorem stop (h : r.bounds = r'.bounds) (hk : k.Alike k') (inRound : Bool) (p : Nat) :
    (Move.stop inRound p r k).Alike (Move.stop inRound p r' k') :=
  (hk.moved h p p).orTry fun _ _ hn => failure <| undo h hn inRound

theorem alternative (h : r.bounds = r'.bounds) (hk : k.Alike k') (hm : m.Alike m') (s : Setting)
    (n : Node) (p : Nat) :
    (Move.alternative text s n m p r k).Alike (Move.alternative text s n m' p r' k') := by
  unfold Move.alternative
  split
  case isTrue => exact failure h
  case isFalse => exact (hm.moved h hk p p).orTry fun _ _ hn => failure <| undo h hn s.inRound

theorem giveBack (h : r.bounds = r'.bounds) (hk : k.Alike k') (inRound : Bool)
    (wanted : Option Nat) (low n : Nat) :
    (giveBack text inRound wanted k low n r).Alike (giveBack text inRound wanted k' low n r') := by
  have ht (p : Nat) (r r' : Registers) (h : r.bounds = r'.bounds) :
      (giveBack.tryAt text inRound wanted k p r).Alike
        (giveBack.tryAt text inRound wanted k' p r') := by
    unfold giveBack.tryAt
    split
    case isTrue => exact stop h hk inRound p
    case isFalse => exact failure h
  induction n generalizing r r' <;> simp only [Regex.giveBack]
  case zero => exact ht low r r' h
  case succ n hi => exact (ht _ r r' h).orTry fun _ _ => hi

theorem takeMore (h : r.bounds = r'.bounds) (hk : k.Alike k') (inRound compound : Bool)
    (passes : Nat → Bool) (n p : Nat) :
    (takeMore text inRound compound passes k n p r).Alike
      (takeMore text inRound compound passes k' n p r') := by
  induction n generalizing p r r'
  case zero =>
    rw [Regex.takeMore, Regex.takeMore]
    refine (stop h hk inRound p).orTry fun r r' h => ?_
    split <;> exact failure h
  case succ n hi =>
    rw [Regex.takeMore, Regex.takeMore]
    refine (stop h hk inRound p).orTry fun r r' h => ?_
    split
    case isTrue => exact hi (Registers.moveTo_bounds h _) _
    case isFalse => exact failure h

theorem repeatChar (h : r.bounds = r'.bounds) (hk : k.Alike k') (s : Setting) (q : Quantifier)
    (fs : Flags) (t : CharTest) (p : Nat) :
    (Move.repeatChar text s q fs t p r k).Alike (Move.repeatChar text s q fs t p r' k') := by
  simp only [Move.repeatChar]
  generalize passEnd text _ _ p = reached
  split
  case isTrue => exact failure h
  case isFalse =>
    split
    case isTrue => exact failure h
    case isFalse =>
      split
      case h_1 => exact giveBack (Registers.moveTo_bounds h _) hk ..
      case h_2 => exact takeMore (Registers.moveTo_bounds h _) hk ..
      case h_3 => exact hk.moved h ..

/-! #### Loops -/

theorem leaveLoop (h : r.bounds = r'.bounds) (hk : k.Alike k') (p : Nat) :
    (Move.leaveLoop p r k).Alike (Move.leaveLoop p r' k') :=
  (hk.moved h p p).orTry fun _ _ h => failure h

theorem greedy (hm : m.Alike m') (h : r.bounds = r'.bounds) (hk : k.Alike k') (n : Nat)
    (last : Option Nat) (p : Nat) :
    (Move.greedy m n last p r k).Alike (Move.greedy m' n last p r' k') := by
  induction n generalizing last p r r' <;> simp only [Move.greedy]
  case zero => exact leaveLoop h hk p
  case succ n hi =>
    split
    case isTrue => exact leaveLoop h hk p
    case isFalse =>
      have hr : Rest.Alike (fun q r => Move.greedy m n (some p) q r k)
          fun q r => Move.greedy m' n (some p) q r k' := fun q _ _ h => hi h (some p) q
      exact (hm.moved h hr p p).orTry fun _ _ _ => leaveLoop h hk p

theorem lazy (hm : m.Alike m') (h : r.bounds = r'.bounds) (hk : k.Alike k') (inRound : Bool)
    (n : Nat) (last : Option Nat) (p : Nat) :
    (Move.lazy m inRound n last p r k).Alike (Move.lazy m' inRound n last p r' k') := by
  induction n generalizing last p r r' <;> simp only [Move.lazy]
  case zero => exact (hk.moved h p p).orTry fun _ _ hn => failure <| undo h hn inRound
  case succ n hi =>
    have hr : Rest.Alike (fun q r => Move.lazy m inRound n (some p) q r k)
        fun q r => Move.lazy m' inRound n (some p) q r k' := fun q _ _ h => hi h (some p) q
    refine (hk.moved h p p).orTry fun now now' hn => ?_
    have hu := undo h hn inRound
    split
    case isTrue => exact failure hu
    case isFalse => exact (hm.moved hu hr p p).orTry fun _ _ h => failure h

theorem times {next next' : Move} (hm : m.Alike m') (hn : next.Alike next')
    (h : r.bounds = r'.bounds) (hk : k.Alike k') (n p : Nat) :
    (Move.times m next n p r k).Alike (Move.times m' next' n p r' k') := by
  induction n generalizing p r r' <;> simp only [Move.times]
  case zero => exact hn p _ _ k k' h hk
  case succ n hi =>
    have hr : Rest.Alike (fun q r => Move.times m next n q r k)
        fun q r => Move.times m' next' n q r k' := fun q _ _ h => hi h q
    exact (hm.moved h hr p p).orTry fun _ _ h => failure h

-- What is done once and for all starts from the cursor where it stands.
theorem possessive [Runtime] (m : Move) (h : r.bounds = r'.bounds) (hk : k.Alike k')
    (least extra p : Nat) :
    (Move.possessive m least extra p r k).Alike (Move.possessive m least extra p r' k') := by
  simp only [Move.possessive, Registers.moveTo_eq h p]
  split
  case isTrue => exact hk _ _ _ rfl
  case isFalse => exact failure rfl

theorem commit (m : Move) (h : r.bounds = r'.bounds) (hk : k.Alike k') (p : Nat) :
    (Move.commit m p r k).Alike (Move.commit m p r' k') := by
  simp only [Move.commit, Registers.moveTo_eq h p]
  split
  case isTrue => exact hk _ _ _ rfl
  case isFalse => exact failure rfl

-- The trial of what is looked at is the same one, so it is judged from the same registers.
theorem look (h : r.bounds = r'.bounds) (hk : k.Alike k') (negated inRound : Bool) (t : Trial)
    (p : Nat) :
    (if negated then
        if t.matched then .failure t.registers else k p (r.undo inRound t.registers)
      else if t.matched then k p t.registers else t).Alike
    (if negated then
        if t.matched then .failure t.registers else k' p (r'.undo inRound t.registers)
      else if t.matched then k' p t.registers else t) := by
  split
  case isTrue =>
    split
    case isTrue => exact failure rfl
    case isFalse => exact hk _ _ _ (undo h rfl _)
  case isFalse =>
    split
    case isTrue => exact hk _ _ _ rfl
    case isFalse => exact ⟨rfl, rfl⟩

theorem loop [Runtime] (hm : m.Alike m) (h : r.bounds = r'.bounds) (hk : k.Alike k') (greed : Greed)
    (inRound : Bool) (least extra p : Nat) :
    (Move.loop m greed inRound least extra p r k).Alike
      (Move.loop m greed inRound least extra p r' k') := by
  unfold Move.loop
  split
  case h_1 => exact times hm (fun p _ _ _ _ h hk => greedy hm h hk extra none p) h hk least p
  case h_2 =>
    exact times hm (fun p _ _ _ _ h hk => lazy hm h hk inRound extra none p) h hk least p
  case h_3 => exact possessive m h hk least extra p

end Trial.Alike

namespace Node

theorem span?_eq (h : r.bounds = r'.bounds) (n : Nat) : r.span? n = r'.span? n := by
  simp [Registers.span?, h]

theorem note_bounds (h : r.bounds = r'.bounds) (i p : Nat) :
    (r.note i p).bounds = (r'.note i p).bounds := by
  simp [Registers.note, h]

-- Where the cursor stands makes no difference to how a node is matched.
theorem run_alike [Runtime] (text : Array Char) (n : Node) (s : Setting) :
    Move.Alike (n.run text s) (n.run text s) := by
  intro p r r' k k' h hk
  induction n generalizing s p r r' k k' <;> simp only [run]
  case empty => exact hk p r r' h
  case char | anchor => exact .test h hk ..
  case seq a b ha hb => exact ha _ p r r' _ _ h fun q r r' h => hb s q r r' k k' h hk
  case alt a b ha hb =>
    refine (Trial.Alike.alternative h hk (fun p r r' k k' => ha _ p r r' k k') s a p).orTry ?_
    intro r r' h
    split
    case h_1 => exact hb s p r r' k k' h hk
    case h_2 => exact .alternative h hk (fun p r r' k k' => hb _ p r r' k k') s b p
  case loop q a ha =>
    split
    case h_1 => exact .repeatChar h hk ..
    case h_2 => exact .loop (fun p r r' k k' => ha _ p r r' k k') h hk ..
  case capture i a ha =>
    refine ha _ p _ _ _ _ (note_bounds h ..) fun q r r' h => ?_
    exact hk q _ _ (note_bounds h ..)
  case «scoped» on off a ha => exact ha _ p r r' k k' h hk
  case atomic a _ => exact .commit _ h hk p
  case look behind negated a _ =>
    rw [Registers.moveTo_eq h]
    split
    case isTrue => exact .test h hk ..
    case isFalse => exact .look h hk ..
  case backref i =>
    simp only [Move.again, span?_eq h]
    split
    case h_1 => exact .test h hk ..
    case h_2 => exact .failure h
  case conditional i yes no hy hn =>
    rw [span?_eq h]
    split
    case isTrue => exact hy _ p r r' k k' h hk
    case isFalse => exact hn _ p r r' k k' h hk

end Node

end StepCatalog.Regex
