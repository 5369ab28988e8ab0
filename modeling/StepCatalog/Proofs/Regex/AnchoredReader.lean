import Mathlib
import StepCatalog.Proofs.Regex.Anchoring

namespace StepCatalog.Regex

/-! ### Readers within anchors -/

-- The first of several alternatives begins at the start of a line.
def openFirst : List (List Node) → List (List Node)
  | [] => []
  | a :: rest => (.anchor .lineStart :: a) :: rest

namespace Anchoring

variable (w : Anchoring)

-- The frame of the whole pattern. Its first alternative is the current one or, once there are
-- others, the one that was complete first.
def base (f : Frame) : Frame :=
  if w.front = false then f
  else if f.done = [] then { f with pieces := f.pieces ++ [.item (.anchor .lineStart)] }
  else { f with done := (openFirst f.done.reverse).reverse }

-- A frame with others around it.
def frame (outer : List Frame) (f : Frame) : Frame :=
  match outer with
  | [] => w.base f
  | _ :: _ => { f with start := f.start + w.offset }

def frames : List Frame → List Frame
  | [] => []
  | f :: outer => w.frame outer f :: frames outer

def openSet (s : OpenSet) : OpenSet := { s with start := s.start + w.offset }

-- The reader that has read the anchor in front, and has the one at the end before it.
def reader (st : Reader) : Reader :=
  { st with
    frame := w.frame st.outer st.frame
    outer := w.frames st.outer
    openSet := st.openSet.map w.openSet
    tested := st.tested.map fun t => (t.1, t.2 + w.offset) }

-- What is known of the frame of the whole pattern. Without an anchor in front of it, the pattern
-- has one of its own.
structure IsBase (f : Frame) : Prop where
  opening : f.opening = .whole
  verbose : f.verbose = false
  nonempty : w.front = false → f.done ≠ [] ∨ f.pieces ≠ []

-- Frames that stand in each other, the innermost one first.
def Stands : Frame → List Frame → Prop
  | f, [] => w.IsBase f
  | f, g :: outer => f.opening ≠ .whole ∧ Stands g outer

-- What is known of a reader as long as no flags are set for the whole pattern.
structure Grounded (st : Reader) : Prop where
  flags : st.flags = stepFlags
  stands : w.Stands st.frame st.outer

-- A step is taken by either reader and leaves them side by side.
def ReadsIn (st st' : Reader) : Prop := w.Grounded st ∧ st' = w.reader st

def StepsIn (x y : Reader × List Token) : Prop :=
  w.ReadsIn x.1 y.1 ∧ y.2 = x.2 ++ w.tail

variable {w} {st : Reader} {f : Frame} {outer : List Frame}

theorem base_push (f : Frame) (p : Piece) : w.base (f.push p) = (w.base f).push p := by
  unfold base
  split
  case isTrue => rfl
  case isFalse =>
    show (if f.done = [] then _ else _) = _
    split <;> rfl

theorem frame_push (outer : List Frame) (f : Frame) (p : Piece) :
    w.frame outer (f.push p) = (w.frame outer f).push p := by
  cases outer
  case nil => exact base_push f p
  case cons => rfl

theorem reader_push (st : Reader) (n : Node) : w.reader (st.push n) = (w.reader st).push n := by
  simp only [reader, Reader.push, frame_push]

-- The alternative that comes to an end, and the one that begins then.
def nextOf (f : Frame) : Frame := { f with done := f.current :: f.done, pieces := [] }

theorem openFirst_append (h : as ≠ []) (bs : List (List Node)) :
    openFirst (as ++ bs) = openFirst as ++ bs := by
  cases as
  case nil => contradiction
  case cons => rfl

theorem base_nextOf (f : Frame) : w.base (nextOf f) = nextOf (w.base f) := by
  have hn : (nextOf f).done ≠ [] := List.cons_ne_nil _ _
  unfold base
  split
  case isTrue => rfl
  case isFalse =>
    split
    case isTrue hd => simp [nextOf, openFirst, Frame.current, Piece.nodes, hd]
    case isFalse hd =>
      have hr : f.done.reverse ≠ [] := by simpa using hd
      simp [nextOf, openFirst_append hr, Frame.current]

theorem base_eq (f : Frame) :
    w.base f = { f with done := (w.base f).done, pieces := (w.base f).pieces } := by
  unfold base
  split
  case isTrue => rfl
  case isFalse => split <;> rfl

@[simp]
theorem frame_opening (outer : List Frame) (f : Frame) :
    (w.frame outer f).opening = f.opening := by
  cases outer
  case nil => rw [frame, base_eq]
  case cons => rfl

theorem reader_frame_of_nil (h : st.outer = []) : (w.reader st).frame = w.base st.frame := by
  simp only [reader, h]
  rfl

theorem reader_frame_of_cons (h : st.outer = g :: outer) :
    (w.reader st).frame = { st.frame with start := st.frame.start + w.offset } := by
  simp only [reader, h]
  rfl

@[simp]
theorem reader_verbose (st : Reader) : (w.reader st).frame.verbose = st.frame.verbose := by
  cases ho : st.outer
  case nil => rw [reader_frame_of_nil ho, base_eq]
  case cons => rw [reader_frame_of_cons ho]

@[simp]
theorem reader_names (st : Reader) : (w.reader st).names = st.names := rfl

@[simp]
theorem reader_lookbehindFrom (st : Reader) :
    (w.reader st).lookbehindFrom = st.lookbehindFrom := rfl

theorem any_frames (p : Opening → Bool) (outer : List Frame) :
    (w.frames outer).any (fun f => p f.opening) = outer.any fun f => p f.opening := by
  induction outer
  case nil => rfl
  case cons f outer hi => simp [frames, hi]

theorem Stands.replace (h : w.Stands f outer) (ho : f'.opening = f.opening)
    (hv : f'.verbose = f.verbose) (hn : f'.done ≠ [] ∨ f'.pieces ≠ []) : w.Stands f' outer := by
  cases outer
  case nil => exact ⟨ho.trans h.opening, hv.trans h.verbose, fun _ => hn⟩
  case cons => exact ⟨ho ▸ h.left, h.right⟩

theorem Stands.push (h : w.Stands f outer) (p : Piece) : w.Stands (f.push p) outer :=
  h.replace rfl rfl <| .inr <| List.cons_ne_nil _ _

theorem Grounded.push (h : w.Grounded st) (n : Node) : w.Grounded (st.push n) :=
  ⟨h.flags, h.stands.push _⟩

theorem StepsIn.ok (h : w.Grounded st) :
    Lifts w.StepsIn (.ok (st, ts)) (.ok (w.reader st, ts ++ w.tail)) :=
  .ok ⟨⟨h, rfl⟩, rfl⟩

theorem ReadsIn.push (h : w.ReadsIn st st') (n : Node) : w.ReadsIn (st.push n) (st'.push n) :=
  ⟨h.left.push n, by rw [h.right, reader_push]⟩

theorem StepsIn.of_reads {x y : Except Refusal Reader} (h : Lifts w.ReadsIn x y) :
    Lifts w.StepsIn (do return (← x, ts)) (do return (← y, ts ++ w.tail)) :=
  h.bind fun _ _ hs => .ok ⟨hs, rfl⟩

theorem StepsIn.push (h : w.Grounded st) {n : Node} :
    Lifts w.StepsIn (.ok (st.push n, ts)) (.ok ((w.reader st).push n, ts ++ w.tail)) :=
  .ok ⟨ReadsIn.push ⟨h, rfl⟩ n, rfl⟩

end Anchoring

namespace Reader

variable {w : Anchoring} {st : Reader}

open Anchoring

theorem checkLookbehind_lifts (st : Reader) (n : Nat) (ts us : List Token) :
    Lifts Eq (st.checkLookbehind n ts) ((w.reader st).checkLookbehind n us) := by
  unfold checkLookbehind
  rw [reader_lookbehindFrom]
  cases st.lookbehindFrom
  case none => exact .ok rfl
  case some => exact .ite (fun _ => .error _ _) fun _ => .ite (fun _ => .error _ _) fun _ => .ok rfl

theorem backref_lifts (h : w.Grounded st) (n : Nat) (ts us : List Token) (i : Nat) :
    Lifts w.ReadsIn (st.backref n ts i) ((w.reader st).backref n us i) := by
  refine .ite (fun _ => .error _ _) fun _ => (checkLookbehind_lifts st n ts us).bind fun _ _ _ => ?_
  exact .ok <| ReadsIn.push ⟨h, rfl⟩ _

theorem openFrame_readsIn (h : w.Grounded st) {opening : Opening} (ho : opening ≠ .whole)
    (start : Nat) (verbose : Bool) :
    w.ReadsIn (st.openFrame opening start verbose)
      ((w.reader st).openFrame opening (start + w.offset) verbose) :=
  ⟨⟨h.flags, ho, h.stands⟩, rfl⟩

/-! ### Escapes -/

theorem readEscape_lifts (h : w.Grounded st) (c : Char) (ts : List Token) :
    Lifts w.StepsIn (st.readEscape c ts) ((w.reader st).readEscape c (ts ++ w.tail)) := by
  unfold readEscape
  cases Escape.anchor? c
  case some => exact StepsIn.push h
  case none =>
    cases Escape.category? c
    case some => exact StepsIn.push h
    case none =>
      cases Escape.controlCode? c
      case some => exact StepsIn.push h
      case none =>
        refine .ite (fun _ => ?_) fun _ => ?_
        case refine_1 =>
          refine (Escape.readDigits_lifts c ts).bind ?_
          rintro ⟨e, rest⟩ _ rfl
          cases e
          case octal => exact StepsIn.push h
          case reference digits =>
            exact .ite (fun _ => StepsIn.of_reads <| backref_lifts h _ rest _ _) fun _ => .error _ _
        case refine_2 =>
          refine (Escape.readCode_lifts c ts ?_).bind ?_
          case refine_1 =>
            exact .ite (fun _ => Escape.readOctal_lifts c ts) fun _ => Escape.readLiteral_lifts c ts
          case refine_2 =>
            rintro ⟨n, rest⟩ _ rfl
            exact StepsIn.push h

/-! ### Character sets -/

theorem closeSet_lifts (h : w.Grounded st) (s : OpenSet) (ts : List Token) :
    Lifts w.StepsIn (.ok (st.closeSet s, ts))
      (.ok ((w.reader st).closeSet (w.openSet s), ts ++ w.tail)) := by
  have h' : w.Grounded { st with openSet := none } := ⟨h.flags, h.stands⟩
  exact StepsIn.push h'

theorem stepInSet_lifts (h : w.Grounded st) (s : OpenSet) (t : Token) (ts : List Token) :
    Lifts w.StepsIn (st.stepInSet s t ts)
      ((w.reader st).stepInSet (w.openSet s) t (ts ++ w.tail)) := by
  obtain ⟨start, negated, items, _ | ⟨low, lowToken⟩⟩ := s
  case some =>
    refine .ite (fun _ => closeSet_lifts h _ ts) fun _ => (readMember_lifts t ts).bind ?_
    rintro ⟨high, rest⟩ _ rfl
    refine (rangeOf_lifts _ _ _ _ _ _).bind ?_
    rintro range _ rfl
    exact .ok ⟨⟨⟨h.flags, h.stands⟩, rfl⟩, rfl⟩
  case none =>
    refine .ite (fun _ => closeSet_lifts h _ ts) fun _ => (readMember_lifts t ts).bind ?_
    rintro ⟨item, rest⟩ _ rfl
    have h' (o : Option OpenSet) : w.Grounded { st with openSet := o } := ⟨h.flags, h.stands⟩
    dsimp only
    split
    case h_1 => exact StepsIn.ok <| h' _
    case h_2 hn =>
      split
      case h_1 he => exact absurd he <| append_ne_cons (by decide) hn
      case h_2 => exact StepsIn.ok <| h' _

/-! ### Loops -/

theorem repeatLast_lifts (h : w.Grounded st) (least : Nat) (most : Option Nat) (place place' : Nat)
    (ts : List Token) :
    Lifts w.StepsIn (st.repeatLast least most place ts)
      ((w.reader st).repeatLast least most place' (ts ++ w.tail)) := by
  obtain ⟨⟨opening, start, verbose, done, _ | ⟨last, pieces⟩⟩, outer⟩ := st
  case nil => exact .error _ _
  case cons =>
    have hf (p : Piece) : w.frame outer ⟨opening, start, verbose, done, p :: pieces⟩ =
        (w.frame outer ⟨opening, start, verbose, done, pieces⟩).push p :=
      frame_push outer ⟨opening, start, verbose, done, pieces⟩ p
    simp only [repeatLast, reader, hf, Frame.push, readGreed_append]
    refine .ite (fun _ => .error _ _) fun _ => .ite (fun _ => .error _ _) fun _ => .ok ?_
    refine ⟨⟨⟨h.flags, ?_⟩, ?_⟩, rfl⟩
    case refine_1 => exact h.stands.replace rfl rfl <| .inr <| List.cons_ne_nil _ _
    case refine_2 => simp only [reader, hf, Frame.push]

/-! ### Groups -/

theorem openScoped_lifts (h : w.Grounded st) (on off : List Flag) (start : Nat) (ts : List Token) :
    Lifts w.StepsIn (st.openScoped on off start ts)
      ((w.reader st).openScoped on off (start + w.offset) (ts ++ w.tail)) := by
  unfold openScoped
  rw [reader_verbose]
  refine .ite (fun _ => .error _ _) fun _ => .ite (fun _ => .error _ _) fun _ => ?_
  exact .ok ⟨openFrame_readsIn h (by nofun) start _, rfl⟩

theorem openCapture_readsIn (h : w.Grounded st) (start : Nat) :
    w.ReadsIn (st.openCapture start) ((w.reader st).openCapture (start + w.offset)) := by
  unfold openCapture
  rw [reader_verbose]
  have h' : w.Grounded { st with widths := st.widths ++ [none] } := ⟨h.flags, h.stands⟩
  exact openFrame_readsIn h' (by nofun) start _

theorem checkName_lifts (name : List Char) (ts us : List Token) :
    Lifts Eq (checkName name ts) (checkName name us) :=
  .ite (fun _ => .ok rfl) fun _ => .error _ _

theorem openNamed_lifts (h : w.Grounded st) (start : Nat) (ts : List Token) :
    Lifts w.StepsIn (st.openNamed start ts)
      ((w.reader st).openNamed (start + w.offset) (ts ++ w.tail)) := by
  unfold openNamed
  refine (readName_lifts _ _ ts).bind ?_
  rintro ⟨name, ts⟩ _ rfl
  refine (checkName_lifts name _ _).bind fun _ _ _ => ?_
  rw [reader_names]
  cases st.names.lookup name
  case some => exact .error _ _
  case none =>
    have h' : w.Grounded { st with names := (name, st.groupCount) :: st.names } :=
      ⟨h.flags, h.stands⟩
    exact .ok ⟨openCapture_readsIn h' start, rfl⟩

theorem namedBackref_lifts (h : w.Grounded st) (ts : List Token) :
    Lifts w.StepsIn (st.namedBackref ts) ((w.reader st).namedBackref (ts ++ w.tail)) := by
  unfold namedBackref
  refine (readName_lifts _ _ ts).bind ?_
  rintro ⟨name, ts⟩ _ rfl
  refine (checkName_lifts name _ _).bind fun _ _ _ => ?_
  rw [reader_names]
  cases st.names.lookup name
  case none => exact .error _ _
  case some n => exact StepsIn.of_reads <| backref_lifts h n _ _ _

theorem testedGroup_lifts (h : w.Grounded st) (name : List Char) (ts : List Token) :
    Lifts (fun x y => y.1 = x.1 ∧ w.ReadsIn x.2 y.2) (st.testedGroup name ts)
      ((w.reader st).testedGroup name (ts ++ w.tail)) := by
  unfold testedGroup
  refine .ite (fun _ => ?_) fun _ => ?_
  case refine_1 =>
    rw [reader_names]
    cases st.names.lookup name
    case none => exact .error _ _
    case some => exact .ok ⟨rfl, h, rfl⟩
  case refine_2 =>
    obtain _ | ⟨⟨_ | n⟩ | _⟩ := Text.readInteger name <;> try exact .error _ _
    case ok.ofNat.succ =>
      have ha : (w.reader st).tested.any (·.1 == n + 1) = st.tested.any (·.1 == n + 1) :=
        List.any_map
      refine .ite (fun _ => .error _ _) fun _ => ?_
      show Lifts _ _ (if (w.reader st).tested.any (·.1 == n + 1) then _ else _)
      rw [ha]
      refine .ite (fun _ => .ok ⟨rfl, h, rfl⟩) fun _ => .ok ⟨rfl, ⟨h.flags, h.stands⟩, ?_⟩
      have hp : Token.extent (ts ++ w.tail) + name.length + 1 =
          Token.extent ts + name.length + 1 + w.offset := extent_add ts (name.length + 1)
      simp only [reader, hp, List.map_append, List.map_cons, List.map_nil]

theorem openConditional_lifts (h : w.Grounded st) (start : Nat) (ts : List Token) :
    Lifts w.StepsIn (st.openConditional start ts)
      ((w.reader st).openConditional (start + w.offset) (ts ++ w.tail)) := by
  unfold openConditional
  refine (readName_lifts _ _ ts).bind ?_
  rintro ⟨name, ts⟩ _ rfl
  refine (testedGroup_lifts h name ts).bind ?_
  rintro ⟨n, st⟩ ⟨_, _⟩ ⟨hn, h, hs⟩
  dsimp only at hn h hs
  subst hn hs
  refine (checkLookbehind_lifts st _ _ _).bind fun _ _ _ => ?_
  dsimp only
  rw [reader_verbose]
  exact .ok ⟨openFrame_readsIn h (by nofun) start _, rfl⟩

theorem openBehind_readsIn (h : w.Grounded st) (negated : Bool) (start : Nat) :
    w.ReadsIn (st.openBehind negated start)
      ((w.reader st).openBehind negated (start + w.offset)) := by
  unfold openBehind
  rw [reader_verbose]
  have h' (o : Option Nat) : w.Grounded { st with lookbehindFrom := o } := ⟨h.flags, h.stands⟩
  exact openFrame_readsIn (h' _) (by nofun) start _

theorem skipComment_lifts (h : w.Grounded st) (start start' : Nat) (ts : List Token) :
    Lifts w.StepsIn (st.skipComment start ts)
      ((w.reader st).skipComment start' (ts ++ w.tail)) := by
  unfold skipComment
  rw [List.dropWhile_append]
  cases ts.dropWhile (· ≠ .plain ')')
  case nil => exact .error _ _
  case cons => exact StepsIn.ok h

end Reader

end StepCatalog.Regex
