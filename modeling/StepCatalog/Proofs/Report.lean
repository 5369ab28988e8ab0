import Mathlib
import StepCatalog.Proofs.Json.RoundTrip
import StepCatalog.Report

namespace StepCatalog

open Json

variable {d d' : Dialect}

namespace StepReference

theorem lexes_toJson {r : StepReference} (hn : d'.holds r.line)
    (hl : r.line.natAbs < 10 ^ Text.maxDigits) : Lexer.Lexes d d' r.toJson := by
  refine Lexer.lexes_object ?_
  simp only [List.forall_mem_cons]
  exact ⟨Lexer.lexes_text d d' r.text, Lexer.lexes_text d d' r.path, Lexer.lexes_int hn hl, nofun⟩

theorem rereads_toJson (d : Dialect) (r : StepReference) : Reader.Rereads d r.toJson := by
  refine Reader.rereads_object (show ["text", "source_path", "line"].Nodup by decide) ?_
  simp only [List.forall_mem_cons]
  exact ⟨Reader.rereads_of_isPlain d .text, Reader.rereads_of_isPlain d .text,
    Reader.rereads_scalar rfl, nofun⟩

theorem writeFault?_toJson_eq_none_iff (hd : d.Handles) (r : StepReference) :
    writeFault? d 1 r.toJson = none ↔ d.holds r.line := by
  have hn : depthFault? d 1 = none := depthFault?_eq_none hd (by decide)
  simp [toJson, writeFault?, hn, membersFault?]

end StepReference

namespace Report

variable {refs : List StepReference}

theorem depth_references_le (refs : List StepReference) : (references refs).depth ≤ 2 := by
  have h : itemsDepth (refs.map StepReference.toJson) ≤ 1 := by
    refine itemsDepth_le_iff.mpr ?_
    intro v hv
    have ⟨_, _, he⟩ := List.mem_map.mp hv
    exact he ▸ Nat.le_refl 1
  simp only [references, depth]
  omega

theorem writeFault?_references_eq_none_iff (hd : d.Handles) :
    writeFault? d 0 (references refs) = none ↔ ∀ r ∈ refs, d.holds r.line := by
  have hn : depthFault? d 0 = none := depthFault?_eq_none hd (by decide)
  simp [references, writeFault?, hn, itemsFault?_eq_none_iff,
    StepReference.writeFault?_toJson_eq_none_iff hd]

-- References are printed where the dialect holds all their lines, and only there.
theorem printed_references_eq_ok_iff [Runtime] (hd : d.Handles) :
    (references refs).printed d = .ok s ↔ (∀ r ∈ refs, d.holds r.line) ∧
      s = String.ofList (writeAt d 0 (references refs) ++ ['\n']) := by
  have hs : (references refs).checkDepth = .ok (references refs) := by
    have hn : (references refs).depth ≤ plainDepth := (depth_references_le refs).trans (by decide)
    exact if_pos <| Runtime.shows_of_depth_le _ hn
  simp only [printed, hs, bind_eq_ok_iff, mapError_eq_ok_iff, map_eq_ok_iff, Except.ok.injEq,
    exists_eq_left', ← writeFault?_references_eq_none_iff hd, write]
  cases writeFault? d 0 (references refs)
  case some e => simp
  case none => simp [String.ofList_append, eq_comm]

-- What has been printed is one document. Every dialect that holds the lines reads them back.
theorem decode_printed_references [Runtime] (hd : d.Handles) (hd' : d'.Handles)
    (h : (references refs).printed d = .ok s)
    (hl : ∀ r ∈ refs, d'.holds r.line ∧ r.line.natAbs < 10 ^ Text.maxDigits) :
    decode d' s.toUTF8 = .ok (references refs) := by
  have ⟨_, hs⟩ := (printed_references_eq_ok_iff hd).mp h
  have hx : Lexer.Lexes d d' (references refs) := Lexer.lexes_list <| by
    simpa using fun r hr => StepReference.lexes_toJson (hl r hr).left (hl r hr).right
  have hr : Reader.Rereads d' (references refs) := Reader.rereads_list <| by
    simpa using fun r _ => r.rereads_toJson d'
  have hn : (references refs).depth ≤ d'.maxDepth :=
    (depth_references_le refs).trans <| Nat.le_trans (by decide) hd'.reads
  rw [hs]
  exact decode_writeAt hx hr hn <| by simp [Lexer.isSpace]

end Report

end StepCatalog
