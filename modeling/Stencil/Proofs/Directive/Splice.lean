import Stencil.Directive
import Stencil.Proofs.Text.Boundary

/-!
# Directives replaced in their lines

A directive is replaced by its byte offsets. A line that it does not stand in should stay as it is, but only
the two offsets are checked, each by itself: if they are positions in the line and the wrong way round, what
is between them is there twice in the end.

* `Directive.InLine`, `Directive.Reversed`: the offsets delimit a part of the line, or do so the wrong way
  round.
* `Directive.toByteArray_splice`, `Directive.splice_eq_self`: what two positions give, and what other
  offsets give.
* `Directive.splice_bytes`: the main result.
-/

namespace Stencil.Directive

/-- The offsets delimit a part of the line. -/
structure InLine (d : Directive) (line : String) : Prop where
  start_le_stop : d.start ≤ d.stop
  stop_le : d.stop ≤ line.utf8ByteSize
  start_valid : (⟨d.start⟩ : String.Pos.Raw).IsValid line
  stop_valid : (⟨d.stop⟩ : String.Pos.Raw).IsValid line

/-- The offsets are positions in the line, the second one in front of the first. -/
structure Reversed (d : Directive) (line : String) : Prop where
  stop_lt_start : d.stop < d.start
  start_valid : (⟨d.start⟩ : String.Pos.Raw).IsValid line
  stop_valid : (⟨d.stop⟩ : String.Pos.Raw).IsValid line

instance (d : Directive) (line : String) : Decidable (d.InLine line) :=
  decidable_of_iff (d.start ≤ d.stop ∧ d.stop ≤ line.utf8ByteSize ∧
      (⟨d.start⟩ : String.Pos.Raw).IsValid line ∧ (⟨d.stop⟩ : String.Pos.Raw).IsValid line)
    ⟨fun h => ⟨h.1, h.2.1, h.2.2.1, h.2.2.2⟩, fun h => ⟨h.1, h.2, h.3, h.4⟩⟩

variable {d : Directive} {line text : String}

/-- Two positions are a part of the line, one way or the other. -/
theorem inLine_or_reversed (hstart : (⟨d.start⟩ : String.Pos.Raw).IsValid line)
    (hstop : (⟨d.stop⟩ : String.Pos.Raw).IsValid line) : d.InLine line ∨ d.Reversed line := by
  rcases Nat.lt_or_ge d.stop d.start with h | h
  · exact .inr ⟨h, hstart, hstop⟩
  · exact .inl ⟨h, hstop.le_utf8ByteSize, hstart, hstop⟩

/-- With two positions, the bytes before the first and from the second one on are kept. -/
theorem toByteArray_splice (hstart : (⟨d.start⟩ : String.Pos.Raw).IsValid line)
    (hstop : (⟨d.stop⟩ : String.Pos.Raw).IsValid line) (text : String) :
    (d.splice line text).toByteArray = line.toByteArray.extract 0 d.start ++ text.toByteArray ++
      line.toByteArray.extract d.stop line.utf8ByteSize := by
  obtain ⟨⟨before, rest⟩, hbefore⟩ :=
    Option.isSome_iff_exists.mp (Text.isBoundary_iff_isValid.mpr hstart)
  obtain ⟨⟨front, after⟩, hafter⟩ :=
    Option.isSome_iff_exists.mp (Text.isBoundary_iff_isValid.mpr hstop)
  rw [(Text.toByteArray_of_splitBytes? hbefore).1, (Text.toByteArray_of_splitBytes? hafter).2, splice,
    hbefore, hafter]
  simp only [String.ofList_append, String.ofList_toList, String.toByteArray_append]

/-- Another offset than a position leaves the line as it is. -/
theorem splice_eq_self (h : ¬ d.InLine line) (hnot : ¬ d.Reversed line) (text : String) :
    d.splice line text = line := by
  unfold splice
  split
  · rename_i hstart hstop
    have hstart := Text.isBoundary_iff_isValid.mp (Option.isSome_iff_exists.mpr ⟨_, hstart⟩)
    have hstop := Text.isBoundary_iff_isValid.mp (Option.isSome_iff_exists.mpr ⟨_, hstop⟩)
    exact absurd (inLine_or_reversed hstart hstop) (not_or.mpr ⟨h, hnot⟩)
  · rfl

/-- The bytes that are kept twice. -/
theorem Reversed.toByteArray_splice (h : d.Reversed line) (text : String) :
    let between := line.toByteArray.extract d.stop d.start
    (d.splice line text).toByteArray = line.toByteArray.extract 0 d.stop ++ between ++
      text.toByteArray ++ (between ++ line.toByteArray.extract d.start line.utf8ByteSize) := by
  intro between
  have hle := Nat.le_of_lt h.stop_lt_start
  have hsize := h.start_valid.le_utf8ByteSize
  rw [Directive.toByteArray_splice h.start_valid h.stop_valid,
    ByteArray.extract_eq_extract_append_extract d.stop (Nat.zero_le _) hle,
    ByteArray.extract_eq_extract_append_extract d.start hle hsize]

/-- So the line becomes longer. -/
theorem Reversed.splice_ne (h : d.Reversed line) (text : String) : d.splice line text ≠ line := by
  intro heq
  have hbytes := congrArg ByteArray.size (Directive.toByteArray_splice h.start_valid h.stop_valid text)
  have hlt := h.stop_lt_start
  have hstart : d.start ≤ line.utf8ByteSize := h.start_valid.le_utf8ByteSize
  rw [heq, ByteArray.size_append, ByteArray.size_append, ByteArray.size_extract, ByteArray.size_extract,
    String.size_toByteArray, String.size_toByteArray] at hbytes
  omega

/-- **Splicing.** A directive that stands in the line is replaced by the text: before and after it the bytes
of the line stay as they are. With any other offsets the line stays as it is, unless they are positions in
the line the wrong way round. Then, and only then, the line changes: the text stands in it at the first
offset, between two copies of what the offsets delimit. -/
theorem splice_bytes (d : Directive) (line text : String) :
    let bytes := line.toByteArray
    let between := bytes.extract d.stop d.start
    (d.InLine line → (d.splice line text).toByteArray =
      bytes.extract 0 d.start ++ text.toByteArray ++ bytes.extract d.stop line.utf8ByteSize) ∧
    (¬ d.InLine line → (d.splice line text = line ↔ ¬ d.Reversed line)) ∧
    (d.Reversed line → (d.splice line text).toByteArray =
      bytes.extract 0 d.stop ++ between ++ text.toByteArray ++
        (between ++ bytes.extract d.start line.utf8ByteSize)) := by
  intro bytes between
  refine ⟨fun h => toByteArray_splice h.start_valid h.stop_valid text, fun h => ?_, fun h =>
    h.toByteArray_splice text⟩
  exact ⟨fun heq hreversed => hreversed.splice_ne text heq, fun hnot => splice_eq_self h hnot text⟩

/-- The directive stands between characters of several bytes. An offset inside one of them changes nothing,
and the offsets the wrong way round repeat the directive. -/
theorem splice_bytes_wide :
    let d : Directive := ⟨"d", 3, 5, [some "d"]⟩
    let inside : Directive := ⟨"d", 2, 5, [some "d"]⟩
    let crossed : Directive := ⟨"d", 5, 3, [some "d"]⟩
    d.InLine "あ%dé" ∧ d.splice "あ%dé" "語" = "あ語é" ∧
      ¬ inside.InLine "あ%dé" ∧ ¬ inside.Reversed "あ%dé" ∧ inside.splice "あ%dé" "語" = "あ%dé" ∧
      crossed.Reversed "あ%dé" ∧ crossed.splice "あ%dé" "語" = "あ%d語%dé" := by
  intro d inside crossed
  have hin : d.InLine "あ%dé" := by decide +kernel
  have hinside : ¬ inside.InLine "あ%dé" := by decide +kernel
  have hreversed : ¬ inside.Reversed "あ%dé" := fun h => absurd h.stop_lt_start (by decide)
  have hcrossed : crossed.Reversed "あ%dé" := ⟨by decide, hin.stop_valid, hin.start_valid⟩
  refine ⟨hin, ?_, hinside, hreversed, ((splice_bytes inside _ _).2.1 hinside).mpr hreversed, hcrossed, ?_⟩
  · have hbytes := (splice_bytes d _ "語").1 hin
    exact String.toByteArray_inj.mp (hbytes.trans (by decide +kernel))
  · have hbytes := (splice_bytes crossed _ "語").2.2 hcrossed
    exact String.toByteArray_inj.mp (hbytes.trans (by decide +kernel))

/-- Two offsets the wrong way round put a character into the line a second time. -/
theorem splice_bytes_reversed :
    let d : Directive := ⟨"d", 2, 1, [some "d", none, some "x"]⟩
    ¬ d.InLine "abc" ∧ d.splice "abc" "X" = "abXbc" ∧ d.splice "abc" "X" ≠ "abc" := by
  decide +kernel

end Stencil.Directive
