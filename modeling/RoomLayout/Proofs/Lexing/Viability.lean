import RoomLayout.Proofs.Lexing.LongestMatch

/-!
# Viable texts

A text held against the patterns is viable exactly when it can still become a lexeme: some longer
text that begins with it is one, or it is one itself. One direction is what lets a scan stop
(`isViable_of_accepts_append`); for the other, every beginning that a pattern reports has a
completion (`exists_accepts_append`). The empty text is told apart only here: most patterns take
it for a mismatch, though it begins all their lexemes, and it is viable for the keywords.
-/

namespace RoomLayout

/-! ### Beginnings and their completions -/

namespace Fitting

theorem whole_if_ne_beginning {condition : Prop} [Decidable condition] :
    (if condition then whole else mismatch) ≠ beginning := by
  split <;> simp

theorem run_ne_beginning {test : Char → Bool} {text : List Char} : run test text ≠ beginning :=
  whole_if_ne_beginning

/-- A text fits a literal exactly when the literal begins with it. -/
theorem literal_ne_mismatch_iff {spelling : String} {text : List Char} :
    literal spelling text ≠ mismatch ↔ text <+: spelling.toList := by
  refine ⟨fun fits => ?_, fun ⟨more, spelled⟩ => literal_ne_mismatch_of_append spelled⟩
  unfold literal at fits
  split at fits
  · next same => exact same ▸ List.prefix_refl text
  · split at fits
    · next begins => exact List.isPrefixOf_iff_prefix.mp begins
    · exact absurd rfl fits

end Fitting

namespace Pattern

theorem fitAlignment_ne_beginning {text : List Char} : fitAlignment text ≠ .beginning := by
  cases text with
  | nil => exact Fitting.noConfusion
  | cons axis suffix => exact Fitting.whole_if_ne_beginning

theorem fitVariable_eq_beginning {text : List Char} (begins : fitVariable text = .beginning) :
    text = ['$'] := by
  unfold fitVariable at begins
  split at begins
  · rfl
  · exact absurd begins Fitting.whole_if_ne_beginning
  · exact nomatch begins

theorem fitInteger_eq_beginning {text : List Char} (begins : fitInteger text = .beginning) :
    text = ['-'] := by
  unfold fitInteger at begins
  split at begins
  · rfl
  · exact absurd begins Fitting.run_ne_beginning
  · exact absurd begins Fitting.run_ne_beginning

theorem fitPercentage_eq_beginning {text : List Char} (begins : fitPercentage text = .beginning) :
    IsRunOf Char.isDigit text := by
  unfold fitPercentage at begins
  split at begins
  · exact nomatch begins
  · next nonempty =>
    split at begins
    · exact absurd begins Fitting.run_ne_beginning
    · split at begins
      · next areDigits => exact ⟨by simpa using nonempty, List.all_eq_true.mp areDigits⟩
      · exact nomatch begins

/-- The beginning of a lexeme can be completed. -/
theorem exists_accepts_append_of_beginning {pattern : Pattern} {text : List Char}
    (begins : pattern.fit text = .beginning) : ∃ more, pattern.Accepts (text ++ more) := by
  have fits : pattern.fit text ≠ .mismatch := fun mismatch => nomatch begins.symm.trans mismatch
  cases pattern with
  | lineFeed | keyword _ | mark _ => exact Fitting.literal_ne_mismatch_iff.mp fits
  | blanks | word => exact absurd begins Fitting.run_ne_beginning
  | comment => exact absurd begins Fitting.whole_if_ne_beginning
  | alignment => exact absurd begins fitAlignment_ne_beginning
  | variableName =>
    obtain rfl := fitVariable_eq_beginning begins
    exact ⟨['a'], 'a', [], rfl, rfl, nofun⟩
  | integer =>
    obtain rfl := fitInteger_eq_beginning begins
    exact ⟨['0'], ['0'], ⟨List.cons_ne_nil _ _, List.forall_mem_singleton.mpr rfl⟩, .inr rfl⟩
  | percentage => exact ⟨['%'], text, fitPercentage_eq_beginning begins, rfl⟩

/-- A text that a pattern does not exclude is a beginning of what the pattern accepts. -/
theorem exists_accepts_append {pattern : Pattern} {text : List Char}
    (fits : pattern.fit text ≠ .mismatch) : ∃ more, pattern.Accepts (text ++ more) := by
  cases fitting : pattern.fit text with
  | mismatch => exact absurd fitting fits
  | beginning => exact exists_accepts_append_of_beginning fitting
  | whole => exact ⟨[], (List.append_nil text).symm ▸ fit_eq_whole_iff.mp fitting⟩

end Pattern

/-- A text is viable exactly when it is the beginning of a lexeme, or all of it. -/
theorem isViable_iff {text : List Char} :
    (scan text).isViable = true
      ↔ ∃ longer lexeme, text <+: longer ∧ (scan longer).whole? = some lexeme := by
  constructor
  · intro viable
    obtain ⟨pattern, -, fits⟩ := List.any_eq_true.mp viable
    obtain ⟨more, accepted⟩ := Pattern.exists_accepts_append (by simpa using fits)
    obtain ⟨lexeme, whole⟩ := exists_scan_of_accepts accepted
    exact ⟨text ++ more, lexeme, List.prefix_append text more, whole⟩
  · rintro ⟨_, lexeme, ⟨more, rfl⟩, whole⟩
    obtain ⟨pattern, accepted, -⟩ := (scan_eq_some_iff.mp whole).exists_pattern
    by_cases isEmpty : text = []
    · subst isEmpty
      decide
    · exact isViable_of_accepts_append isEmpty accepted

/-- Holding a text against the patterns is exact. It is viable if and only if a text that begins
with it is a lexeme; and it is a lexeme itself, namely this one, if and only if the texts of the
first pattern whose regular expression describes it are such lexemes. -/
theorem scan_exact (text : List Char) :
    ((scan text).isViable = true
        ↔ ∃ longer lexeme, text <+: longer ∧ (scan longer).whole? = some lexeme)
      ∧ ∀ lexeme, (scan text).whole? = some lexeme
        ↔ ∃ pattern : Pattern, pattern.IsFirstFor text ∧ pattern.Denotes text lexeme :=
  ⟨isViable_iff, fun _ => scan_eq_some_iff⟩

/-- The spelling of a keyword and a hyphen is a word, and may still become a longer keyword. -/
example : scan "wall-".toList = ⟨some (.token (.word "wall-")), true⟩ := by decide

end RoomLayout
