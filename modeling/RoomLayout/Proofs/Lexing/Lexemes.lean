import RoomLayout.Proofs.Lexing.Expressions

/-!
# What a text is

A text is a lexeme if it belongs to the language of some pattern, and the first such pattern in
the order of the patterns says which. The order is given by ranks here, the languages by regular
expressions, and what the texts of a pattern are by a relation (`Pattern.Denotes`). The scan has
a list of patterns, a test for each and a table of its own; `scan_eq_some_iff` says that it finds
just what a text is.
-/

namespace RoomLayout

/-! ### The order of the patterns -/

namespace Pattern

/-- Where a pattern stands in the order of the patterns. All keywords stand in one place, and all
punctuation marks, since no two of them are spelled alike. -/
def rank : Pattern → Nat
  | blanks => 0
  | lineFeed => 1
  | comment => 2
  | keyword _ => 3
  | mark _ => 4
  | alignment => 5
  | variableName => 6
  | integer => 7
  | percentage => 8
  | word => 9

/-- The first pattern of the order to whose language a text belongs. -/
structure IsFirstFor (pattern : Pattern) (text : List Char) : Prop where
  inLanguage : text ∈ pattern.language
  first : ∀ other : Pattern, other.rank < pattern.rank → text ∉ other.language

theorem isFirstFor_iff_accepts {pattern : Pattern} {text : List Char} :
    pattern.IsFirstFor text ↔
      pattern.Accepts text
        ∧ ∀ other : Pattern, other.rank < pattern.rank → ¬ other.Accepts text := by
  simp only [accepts_iff_mem_language]
  constructor
  · exact fun isFirst => ⟨isFirst.inLanguage, isFirst.first⟩
  · exact fun isFirst => ⟨isFirst.1, isFirst.2⟩

end Pattern

theorem Keyword.mem_all (k : Keyword) : k ∈ all := by
  cases k <;> simp [all]

theorem Mark.mem_all (m : Mark) : m ∈ all := by
  cases m <;> simp [all]

theorem Keyword.text_injective : Function.Injective Keyword.text := by
  have distinct : (all.map text).Nodup := by decide
  exact fun k k' same => List.inj_on_of_nodup_map distinct k.mem_all k'.mem_all same

theorem Mark.text_injective : Function.Injective Mark.text := by
  have distinct : (all.map text).Nodup := by decide
  exact fun m m' same => List.inj_on_of_nodup_map distinct m.mem_all m'.mem_all same

namespace Pattern

/-- Every pattern is tried. -/
theorem mem_all (pattern : Pattern) : pattern ∈ all := by
  cases pattern with
  | keyword k => simp [all, k.mem_all]
  | mark m => simp [all, m.mem_all]
  | _ => simp [all]

/-- The patterns are tried in their order. -/
theorem pairwise_rank_all : all.Pairwise fun earlier later => earlier.rank ≤ later.rank := by
  decide

/-- A pattern that comes before another one is tried before it. -/
theorem mem_earlier {earlier later : List Pattern} {pattern other : Pattern}
    (order : all = earlier ++ pattern :: later) (before : other.rank < pattern.rank) :
    other ∈ earlier := by
  have ordered := pairwise_rank_all
  rw [order] at ordered
  have notLater : other ∉ pattern :: later := by
    intro member
    rcases List.mem_cons.mp member with rfl | inLater
    · exact absurd before (Nat.lt_irrefl _)
    · have after := List.rel_of_pairwise_cons (List.pairwise_append.mp ordered).2.1 inLater
      omega
  exact (List.mem_append.mp (order ▸ other.mem_all)).resolve_right notLater

/-- Patterns in one place of the order have no text in common. -/
theorem eq_of_rank_eq {pattern other : Pattern} {text : List Char}
    (sameRank : pattern.rank = other.rank) (accepted : pattern.Accepts text)
    (acceptedToo : other.Accepts text) : pattern = other := by
  cases pattern with
  | keyword k =>
    cases other with
    | keyword k' =>
      have sameText : k.text.toList = k'.text.toList := accepted.symm.trans acceptedToo
      rw [Keyword.text_injective (String.toList_inj.mp sameText)]
    | _ => exact nomatch sameRank
  | mark m =>
    cases other with
    | mark m' =>
      have sameText : m.text.toList = m'.text.toList := accepted.symm.trans acceptedToo
      rw [Mark.text_injective (String.toList_inj.mp sameText)]
    | _ => exact nomatch sameRank
  | _ => cases other <;> first | rfl | exact nomatch sameRank

theorem IsFirstFor.unique {pattern other : Pattern} {text : List Char}
    (isFirst : pattern.IsFirstFor text) (isFirstToo : other.IsFirstFor text) : pattern = other := by
  have sameRank : pattern.rank = other.rank := by
    have notBefore : ¬ pattern.rank < other.rank := fun before =>
      isFirstToo.first pattern before isFirst.inLanguage
    have notAfter : ¬ other.rank < pattern.rank := fun after =>
      isFirst.first other after isFirstToo.inLanguage
    omega
  exact eq_of_rank_eq sameRank (accepts_iff_mem_language.mpr isFirst.inLanguage)
    (accepts_iff_mem_language.mpr isFirstToo.inLanguage)

end Pattern

/-! ### The texts of the patterns -/

/-- The numbers of 64 bits with a sign. -/
def IsSigned64 (number : Int) : Prop :=
  -0x8000000000000000 ≤ number ∧ number < 0x8000000000000000

theorem inIntegerRange_iff {number : Int} : inIntegerRange number = true ↔ IsSigned64 number := by
  rw [inIntegerRange, Bool.and_eq_true, decide_eq_true_iff, decide_eq_true_iff]
  exact and_congr Iff.rfl Int.lt_add_one_iff.symm

/-- The number of 64 bits that a token carries for a number in the text: this number or, for a
number that has more bits, the largest one, whatever the sign. -/
inductive CarriedFor : Int → Int → Prop where
  | itself {number : Int} (inRange : IsSigned64 number) : CarriedFor number number
  | largest {number : Int} (outside : ¬ IsSigned64 number) : CarriedFor number 0x7fffffffffffffff

theorem carriedFor_iff {number value : Int} : CarriedFor number value ↔ value = saturated number := by
  rw [saturated]
  split
  · next inRange =>
    rw [inIntegerRange_iff] at inRange
    constructor
    · rintro (_ | outside)
      · rfl
      · exact absurd inRange outside
    · rintro rfl
      exact .itself inRange
  · next outside =>
    rw [inIntegerRange_iff] at outside
    constructor
    · rintro (inRange | _)
      · exact absurd inRange outside
      · rfl
    · rintro rfl
      exact .largest outside

/-- What the texts of a pattern are. Codes, names and words are kept as they are spelled, numbers
are those that the digits write in base ten. -/
inductive Pattern.Denotes : Pattern → List Char → Lexeme → Prop where
  | blanks {text : List Char} : Denotes .blanks text .blank
  | lineFeed {text : List Char} : Denotes .lineFeed text (.token .newline)
  | comment {text : List Char} : Denotes .comment text .comment
  | keyword {k : Keyword} {text : List Char} : Denotes (.keyword k) text (.token (.keyword k))
  | mark {m : Mark} {text : List Char} : Denotes (.mark m) text (.token (.mark m))
  | alignment (code : String) : Denotes .alignment code.toList (.token (.alignment code))
  | variableName (name : String) :
      Denotes .variableName ('$' :: name.toList) (.token (.variableName name))
  | natural {digits : List Char} {value : Int} (run : IsRunOf Char.isDigit digits)
      (carried : CarriedFor (Decimal.ofDigits digits) value) :
      Denotes .integer digits (.token (.integer value))
  | negative {digits : List Char} {value : Int} (run : IsRunOf Char.isDigit digits)
      (carried : CarriedFor (-Decimal.ofDigits digits) value) :
      Denotes .integer ('-' :: digits) (.token (.integer value))
  | percentage {digits : List Char} {value : Int} (run : IsRunOf Char.isDigit digits)
      (carried : CarriedFor (Decimal.ofDigits digits) value) :
      Denotes .percentage (digits ++ ['%']) (.token (.percentage value))
  | word (word : String) : Denotes .word word.toList (.token (.word word))

theorem integerValue_of_isRunOf {digits : List Char} (run : IsRunOf Char.isDigit digits) :
    integerValue digits = Decimal.ofDigits digits := by
  unfold integerValue
  split
  · exact absurd (run.2 '-' List.mem_cons_self) (by decide)
  · rfl

/-- The scan's table says of the texts of a pattern what they are. -/
theorem Pattern.denotes_iff {pattern : Pattern} {text : List Char} {lexeme : Lexeme}
    (accepted : pattern.Accepts text) :
    pattern.Denotes text lexeme ↔ pattern.lexeme text = lexeme := by
  constructor
  · rintro (_ | _ | _ | _ | _ | _ | _ | ⟨run, carried⟩ | ⟨run, carried⟩ | ⟨run, carried⟩ | _)
    case natural => rw [Pattern.lexeme, integerValue_of_isRunOf run, carriedFor_iff.mp carried]
    case negative => rw [carriedFor_iff.mp carried]; rfl
    case percentage => rw [Pattern.lexeme, List.dropLast_concat, carriedFor_iff.mp carried]
    case alignment | variableName | word => simp [Pattern.lexeme]
    all_goals rfl
  · rintro rfl
    cases pattern with
    | blanks => exact .blanks
    | lineFeed => exact .lineFeed
    | comment => exact .comment
    | keyword k => exact .keyword
    | mark m => exact .mark
    | alignment =>
      have spelled := Denotes.alignment (String.ofList text)
      rwa [String.toList_ofList] at spelled
    | variableName =>
      obtain ⟨first, rest, rfl, -⟩ := accepted
      have spelled := Denotes.variableName (String.ofList (first :: rest))
      rwa [String.toList_ofList] at spelled
    | integer =>
      obtain ⟨digits, run, rfl | rfl⟩ := accepted
      · rw [Pattern.lexeme, integerValue_of_isRunOf run]
        exact .natural run (carriedFor_iff.mpr rfl)
      · exact .negative run (carriedFor_iff.mpr rfl)
    | percentage =>
      obtain ⟨digits, run, rfl⟩ := accepted
      rw [Pattern.lexeme, List.dropLast_concat]
      exact .percentage run (carriedFor_iff.mpr rfl)
    | word =>
      have spelled := Denotes.word (String.ofList text)
      rwa [String.toList_ofList] at spelled

/-! ### Scanning -/

/-- What a text is: the lexeme that the first pattern for it takes its texts for. -/
def IsLexemeOf (text : List Char) (lexeme : Lexeme) : Prop :=
  ∃ pattern : Pattern, pattern.IsFirstFor text ∧ pattern.Denotes text lexeme

/-- Some pattern accepts a lexeme and makes it what it is, whatever its place in the order. -/
theorem IsLexemeOf.exists_pattern {text : List Char} {lexeme : Lexeme}
    (isLexeme : IsLexemeOf text lexeme) :
    ∃ pattern : Pattern, pattern.Accepts text ∧ pattern.lexeme text = lexeme := by
  obtain ⟨pattern, isFirst, denotes⟩ := isLexeme
  have accepted := Pattern.accepts_iff_mem_language.mpr isFirst.inLanguage
  exact ⟨pattern, accepted, (Pattern.denotes_iff accepted).mp denotes⟩

/-- A text is one lexeme at most. -/
theorem IsLexemeOf.unique {text : List Char} {lexeme lexeme' : Lexeme}
    (one : IsLexemeOf text lexeme) (other : IsLexemeOf text lexeme') : lexeme = lexeme' := by
  obtain ⟨pattern, isFirst, denotes⟩ := one
  obtain ⟨pattern', isFirst', denotes'⟩ := other
  obtain rfl := isFirst.unique isFirst'
  have denotes_iff {lexeme : Lexeme} : pattern.Denotes text lexeme ↔ pattern.lexeme text = lexeme :=
    Pattern.denotes_iff (Pattern.accepts_iff_mem_language.mpr isFirst.inLanguage)
  exact (denotes_iff.mp denotes).symm.trans (denotes_iff.mp denotes')

/-- What a scan finds is what the text is. -/
theorem isLexemeOf_of_scan {text : List Char} {lexeme : Lexeme}
    (found : (scan text).whole? = some lexeme) : IsLexemeOf text lexeme := by
  obtain ⟨pattern, first, named⟩ := Option.map_eq_some_iff.mp found
  obtain ⟨fits, earlier, later, order, noneEarlier⟩ := List.find?_eq_some_iff_append.mp first
  have accepted := Pattern.fit_eq_whole_iff.mp (eq_of_beq fits)
  refine ⟨pattern, Pattern.isFirstFor_iff_accepts.mpr ⟨accepted, fun other before acceptedToo => ?_⟩,
    (Pattern.denotes_iff accepted).mpr named⟩
  have notWhole := noneEarlier other (Pattern.mem_earlier order before)
  rw [Pattern.fit_eq_whole_iff.mpr acceptedToo] at notWhole
  exact absurd notWhole (by decide)

/-- A text is a lexeme as soon as one pattern accepts it. -/
theorem exists_scan_of_accepts {pattern : Pattern} {text : List Char}
    (accepted : pattern.Accepts text) : ∃ lexeme, (scan text).whole? = some lexeme := by
  have fits : (pattern.fit text == .whole) = true :=
    beq_iff_eq.mpr (Pattern.fit_eq_whole_iff.mpr accepted)
  have someFits : (Pattern.all.find? fun pattern => pattern.fit text == .whole).isSome = true :=
    List.find?_isSome.mpr ⟨pattern, pattern.mem_all, fits⟩
  obtain ⟨first, found⟩ := Option.isSome_iff_exists.mp someFits
  exact ⟨first.lexeme text, Option.map_eq_some_iff.mpr ⟨first, found, rfl⟩⟩

/-- A scan finds what the text is. -/
theorem scan_eq_some_iff {text : List Char} {lexeme : Lexeme} :
    (scan text).whole? = some lexeme ↔ IsLexemeOf text lexeme := by
  refine ⟨isLexemeOf_of_scan, fun isLexeme => ?_⟩
  obtain ⟨pattern, accepted, -⟩ := isLexeme.exists_pattern
  obtain ⟨lexeme', found⟩ := exists_scan_of_accepts accepted
  rwa [isLexeme.unique (isLexemeOf_of_scan found)]

end RoomLayout
