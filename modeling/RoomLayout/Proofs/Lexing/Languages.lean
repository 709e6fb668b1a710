import Mathlib.Data.List.Infix
import RoomLayout.Proofs.Lexing.Lossless

/-!
# The languages of the patterns

What each pattern accepts, said without reference to how a buffer is held
against it. Every language is closed under nonempty beginnings as far as fitting
goes: a nonempty buffer that fits a pattern neither as a whole nor as a beginning
has no accepted text ahead of it (`fit_ne_mismatch_of_accepts_append`). That is
what allows a scan to stop.
-/

namespace RoomLayout

/-- A nonempty text whose characters all belong to a class. -/
def IsRunOf (test : Char → Bool) (text : List Char) : Prop :=
  text ≠ [] ∧ ∀ c ∈ text, test c = true

theorem IsRunOf.of_append {test : Char → Bool} {text more : List Char} (nonempty : text ≠ [])
    (run : IsRunOf test (text ++ more)) : IsRunOf test text :=
  ⟨nonempty, fun c member => run.2 c (List.mem_append_left more member)⟩

namespace Fitting

theorem whole_if_iff {condition : Prop} [Decidable condition] :
    (if condition then whole else mismatch) = whole ↔ condition := by
  split <;> simp [*]

theorem run_eq_whole_iff {test : Char → Bool} {text : List Char} :
    run test text = .whole ↔ IsRunOf test text := by
  refine whole_if_iff.trans ?_
  simp [IsRunOf]

theorem literal_eq_whole_iff {spelling : String} {text : List Char} :
    literal spelling text = .whole ↔ text = spelling.toList := by
  unfold literal
  split
  · next same => simp [same]
  · next other => split <;> simp [other]

theorem literal_ne_mismatch_of_append {spelling : String} {text more : List Char}
    (spelled : text ++ more = spelling.toList) : literal spelling text ≠ .mismatch := by
  have isBeginning : text.isPrefixOf spelling.toList = true :=
    List.isPrefixOf_iff_prefix.mpr ⟨more, spelled⟩
  rw [literal, if_pos isBeginning]
  split <;> simp

end Fitting

namespace Pattern

/-- The suffixes of an alignment code. -/
def alignmentSuffixes : List (List Char) := [[], ['-'], ['-', '-'], ['+'], ['+', '+']]

/-- What begins a suffix is a suffix. -/
theorem alignmentSuffixes_of_append {suffix more : List Char}
    (isSuffix : suffix ++ more ∈ alignmentSuffixes) : suffix ∈ alignmentSuffixes := by
  have allBeginnings : ∀ whole ∈ alignmentSuffixes, ∀ beginning ∈ whole.inits,
      beginning ∈ alignmentSuffixes := by
    decide
  exact allBeginnings _ isSuffix _ ((List.mem_inits _ _).mpr (List.prefix_append _ _))

/-- The texts that a pattern accepts. -/
def Accepts : Pattern → List Char → Prop
  | blanks, text => text ≠ [] ∧ IsBlankRun text
  | lineFeed, text => text = ['\n']
  | comment, text => IsCommentText text
  | keyword k, text => text = k.text.toList
  | mark m, text => text = m.text.toList
  | alignment, text =>
    ∃ axis suffix, text = axis :: suffix ∧ axis ∈ ['x', 'y', 'z'] ∧ suffix ∈ alignmentSuffixes
  | variableName, text =>
    ∃ first rest, text = '$' :: first :: rest ∧ isNameStart first = true
      ∧ ∀ c ∈ rest, isNameChar c = true
  | integer, text => ∃ digits, IsRunOf Char.isDigit digits ∧ (text = digits ∨ text = '-' :: digits)
  | percentage, text => ∃ digits, IsRunOf Char.isDigit digits ∧ text = digits ++ ['%']
  | word, text => IsRunOf isWordChar text

/-- A lone minus sign apart, a text fits the integers as what it is without its
sign fits the runs of digits. -/
theorem fitInteger_eq_whole_iff {text : List Char} :
    fitInteger text = .whole
      ↔ ∃ digits, IsRunOf Char.isDigit digits ∧ (text = digits ∨ text = '-' :: digits) := by
  unfold fitInteger
  split
  · next =>
    refine ⟨fun impossible => Fitting.noConfusion impossible, ?_⟩
    rintro ⟨digits, run, rfl | text⟩
    · exact absurd (run.2 '-' (List.mem_singleton_self _)) (by decide)
    · exact absurd (List.cons.inj text).2.symm run.1
  · next digits _ =>
    rw [Fitting.run_eq_whole_iff]
    refine ⟨fun run => ⟨digits, run, Or.inr rfl⟩, ?_⟩
    rintro ⟨others, run, rfl | text⟩
    · exact absurd (run.2 '-' List.mem_cons_self) (by decide)
    · exact (List.cons.inj text).2 ▸ run
  · next _ unsigned =>
    rw [Fitting.run_eq_whole_iff]
    refine ⟨fun run => ⟨text, run, Or.inl rfl⟩, ?_⟩
    rintro ⟨digits, run, rfl | signed⟩
    · exact run
    · exact absurd signed (unsigned digits)

/-- A text fits the percentages as a whole when it is a run of digits and a
percent sign. -/
theorem fitPercentage_eq_whole_iff {text : List Char} :
    fitPercentage text = .whole
      ↔ ∃ digits, IsRunOf Char.isDigit digits ∧ text = digits ++ ['%'] := by
  induction text using List.reverseRecOn with
  | nil => simp [fitPercentage]
  | append_singleton digits last _ =>
    by_cases isPercent : last = '%'
    · subst isPercent
      simp [fitPercentage, Fitting.run_eq_whole_iff]
    · have unfinished : ∀ others, digits ++ [last] ≠ others ++ ['%'] := fun others same =>
        isPercent (List.append_singleton_inj.mp same).2
      have notWhole : fitPercentage (digits ++ [last]) ≠ .whole := by
        simp only [fitPercentage]
        split
        · simp
        · simp only [List.getLast?_concat, Option.some.injEq, if_neg isPercent]
          split <;> simp
      exact ⟨fun whole => absurd whole notWhole,
        fun ⟨others, _, same⟩ => absurd same (unfinished others)⟩

/-- A text fits a pattern as a whole exactly when the pattern accepts it. -/
theorem fit_eq_whole_iff {pattern : Pattern} {text : List Char} :
    pattern.fit text = .whole ↔ pattern.Accepts text := by
  cases pattern with
  | blanks => exact fit_blanks_iff
  | lineFeed => exact fit_lineFeed_iff
  | comment => exact fit_comment_iff
  | keyword k => exact Fitting.literal_eq_whole_iff
  | mark m => exact Fitting.literal_eq_whole_iff
  | alignment =>
    cases text with
    | nil => simp [fit, fitAlignment, Accepts]
    | cons axis suffix =>
      have isSuffix : alignmentSuffixes.contains suffix = true ↔ suffix ∈ alignmentSuffixes :=
        List.contains_iff_mem
      have isAxis : (axis = 'x' || axis = 'y' || axis = 'z') = true ↔ axis ∈ ['x', 'y', 'z'] := by
        simp [or_assoc]
      refine Fitting.whole_if_iff.trans ?_
      rw [Bool.and_eq_true, isAxis]
      exact (and_congr_right' isSuffix).trans (by simp [Accepts])
  | variableName =>
    simp only [fit, fitVariable, Accepts]
    split
    · simp
    · next first rest => simp
    · next other =>
      refine ⟨fun impossible => Fitting.noConfusion impossible, ?_⟩
      rintro ⟨first, rest, rfl, _⟩
      exact absurd rfl (other first rest)
  | integer => exact fitInteger_eq_whole_iff
  | percentage => exact fitPercentage_eq_whole_iff
  | word => exact Fitting.run_eq_whole_iff

/-- A nonempty text fits every pattern that accepts a longer text beginning with
it. -/
theorem fit_ne_mismatch_of_accepts_append {pattern : Pattern} {text more : List Char}
    (nonempty : text ≠ []) (accepted : pattern.Accepts (text ++ more)) :
    pattern.fit text ≠ .mismatch := by
  -- Where the beginning is itself accepted, it fits as a whole.
  have of_accepts : pattern.Accepts text → pattern.fit text ≠ .mismatch := by
    intro accepts
    rw [fit_eq_whole_iff.mpr accepts]
    exact fun impossible => Fitting.noConfusion impossible
  cases pattern with
  | blanks =>
    exact of_accepts
      ⟨nonempty, fun c member => accepted.2 c (List.mem_append_left more member)⟩
  | lineFeed => exact Fitting.literal_ne_mismatch_of_append accepted
  | comment =>
    refine of_accepts ⟨?_, fun feed => accepted.2 (List.mem_append_left more feed)⟩
    rw [← accepted.1, List.head?_append_of_ne_nil _ nonempty]
  | keyword k => exact Fitting.literal_ne_mismatch_of_append accepted
  | mark m => exact Fitting.literal_ne_mismatch_of_append accepted
  | alignment =>
    obtain ⟨axis, suffix, spelled, isAxis, isSuffix⟩ := accepted
    obtain ⟨first, rest, rfl⟩ := List.exists_cons_of_ne_nil nonempty
    obtain ⟨rfl, rfl⟩ := List.cons.inj spelled
    refine of_accepts ⟨first, rest, rfl, isAxis, ?_⟩
    exact alignmentSuffixes_of_append isSuffix
  | variableName =>
    obtain ⟨first, rest, spelled, isStart, areNameChars⟩ := accepted
    rcases text with _ | ⟨sigil, _ | ⟨start, others⟩⟩
    · exact absurd rfl nonempty
    · obtain ⟨rfl, _⟩ := List.cons.inj spelled
      exact fun impossible => Fitting.noConfusion impossible
    · obtain ⟨rfl, named⟩ := List.cons.inj spelled
      obtain ⟨rfl, rfl⟩ := List.cons.inj named
      exact of_accepts ⟨start, others, rfl, isStart, fun c member =>
        areNameChars c (List.mem_append_left more member)⟩
  | integer =>
    obtain ⟨digits, run, rfl | signed⟩ := accepted
    · exact of_accepts ⟨text, run.of_append nonempty, Or.inl rfl⟩
    · rcases text with _ | ⟨sign, _ | ⟨digit, others⟩⟩
      · exact absurd rfl nonempty
      · obtain ⟨rfl, _⟩ := List.cons.inj signed
        exact fun impossible => Fitting.noConfusion impossible
      · obtain ⟨rfl, rfl⟩ := List.cons.inj signed
        exact of_accepts ⟨digit :: others, run.of_append (List.cons_ne_nil _ _), Or.inr rfl⟩
  | percentage =>
    obtain ⟨digits, run, spelled⟩ := accepted
    rcases List.eq_nil_or_concat more with rfl | ⟨middle, last, rfl⟩
    · exact of_accepts ⟨digits, run, by rw [← spelled, List.append_nil]⟩
    · -- The percent sign is still ahead, so the buffer holds digits only.
      rw [List.concat_eq_append, ← List.append_assoc, List.append_singleton_inj] at spelled
      obtain ⟨rfl, rfl⟩ := spelled
      have allDigits := (run.of_append nonempty).2
      have noPercent : text.getLast? ≠ some '%' := fun isLast =>
        absurd (allDigits '%' (List.mem_of_getLast? isLast)) (by decide)
      have isDigits : text.all Char.isDigit = true := List.all_eq_true.mpr allDigits
      simp [fit, fitPercentage, noPercent, nonempty, isDigits]
  | word => exact of_accepts (accepted.of_append nonempty)

end Pattern

end RoomLayout
