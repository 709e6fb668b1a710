import RoomLayout.Placement.Alignment
import RoomLayout.Proofs.Lexing.Languages

/-!
# The codes of alignments

The codes are described three times: by the pattern that a script is cut with, by the reader and
by the writer. All three describe the same texts, those that are written for some alignment
(`Alignment.ofCode_eq_ok_iff`, `Pattern.accepts_alignment_iff`).
-/

namespace RoomLayout

theorem Axis.ofLetter?_eq_some_iff {letter : Char} {axis : Axis} :
    ofLetter? letter = some axis ↔ axis.letter = letter := by
  constructor
  · intro isAxis
    unfold ofLetter? at isAxis
    split at isAxis <;> cases isAxis <;> rfl
  · rintro rfl
    cases axis <;> rfl

theorem AxisAlignment.ofSuffix?_eq_some_iff {suffix : List Char} {align : AxisAlignment} :
    ofSuffix? suffix = some align ↔ align.suffix.toList = suffix := by
  constructor
  · intro isSuffix
    unfold ofSuffix? at isSuffix
    split at isSuffix <;> cases isSuffix <;> rfl
  · rintro rfl
    cases align <;> rfl

namespace Alignment

theorem toList_display (alignment : Alignment) :
    alignment.display.toList = alignment.axis.letter :: alignment.align.suffix.toList := by
  rw [display, String.toList_append, Char.toString_eq_singleton, String.toList_singleton,
    List.singleton_append]

/-- What can be read is what is written for some alignment. -/
theorem ofChars_eq_ok_iff {code : List Char} {alignment : Alignment} :
    ofChars code = .ok alignment ↔ alignment.display.toList = code := by
  constructor
  · intro isCode
    unfold ofChars at isCode
    split at isCode
    · cases isCode
    · split at isCode
      · cases isCode
      · next axis isAxis =>
        split at isCode
        · cases isCode
        · next align isSuffix =>
          obtain rfl := Except.ok.inj isCode
          rw [toList_display, Axis.ofLetter?_eq_some_iff.mp isAxis,
            AxisAlignment.ofSuffix?_eq_some_iff.mp isSuffix]
  · rintro rfl
    simp only [toList_display, ofChars, Axis.ofLetter?_eq_some_iff.mpr rfl,
      AxisAlignment.ofSuffix?_eq_some_iff.mpr rfl]

/-- An alignment is written in one way only, and read back from it. -/
theorem ofCode_eq_ok_iff {code : String} {alignment : Alignment} :
    ofCode code = .ok alignment ↔ alignment.display = code :=
  ofChars_eq_ok_iff.trans String.toList_inj

end Alignment

/-- The letters that the pattern of alignment codes begins with are those of the axes. -/
theorem Axis.exists_letter_iff {letter : Char} :
    (∃ axis : Axis, axis.letter = letter) ↔ letter ∈ ['x', 'y', 'z'] := by
  constructor
  · rintro ⟨axis, rfl⟩
    cases axis <;> decide
  · intro isLetter
    simp only [List.mem_cons, List.not_mem_nil, or_false] at isLetter
    rcases isLetter with rfl | rfl | rfl
    exacts [⟨.x, rfl⟩, ⟨.y, rfl⟩, ⟨.z, rfl⟩]

/-- The suffixes that the pattern of alignment codes ends with are those of the alignments. -/
theorem AxisAlignment.exists_suffix_iff {suffix : List Char} :
    (∃ align : AxisAlignment, align.suffix.toList = suffix)
      ↔ suffix ∈ Pattern.alignmentSuffixes := by
  constructor
  · rintro ⟨align, rfl⟩
    cases align <;> decide
  · intro isSuffix
    simp only [Pattern.alignmentSuffixes, List.mem_cons, List.not_mem_nil, or_false] at isSuffix
    rcases isSuffix with rfl | rfl | rfl | rfl | rfl
    exacts [⟨.center, rfl⟩, ⟨.minus, rfl⟩, ⟨.minusMinus, rfl⟩, ⟨.plus, rfl⟩, ⟨.plusPlus, rfl⟩]

/-- The pattern of alignment codes accepts what is written for some alignment. -/
theorem Pattern.accepts_alignment_iff {text : List Char} :
    Pattern.alignment.Accepts text ↔ ∃ written : Alignment, written.display.toList = text := by
  simp only [Accepts, ← Axis.exists_letter_iff, ← AxisAlignment.exists_suffix_iff]
  constructor
  · rintro ⟨_, _, rfl, ⟨axis, rfl⟩, ⟨align, rfl⟩⟩
    exact ⟨⟨axis, align⟩, Alignment.toList_display _⟩
  · rintro ⟨written, rfl⟩
    exact ⟨_, _, written.toList_display, ⟨_, rfl⟩, ⟨_, rfl⟩⟩

end RoomLayout
