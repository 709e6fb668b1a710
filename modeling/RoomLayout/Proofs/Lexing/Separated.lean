import RoomLayout.Proofs.Lexing.Faults
import RoomLayout.Proofs.Lexing.Trailing

/-!
# Tokens apart

What is a token by itself is the same token in a script, wherever blanks set it apart from
its neighbours. No token but the line feed holds a separator, so a match that begins with a
token ends with it, and a run of blanks ends where the next token begins. Line feeds are
tokens themselves: what stands behind one begins a new column.
-/

namespace RoomLayout

/-- A text in a script and the blanks after it. -/
structure SpacedText where
  text : List Char
  blanks : List Char

namespace SpacedText

/-- The script of some texts, each with its blanks behind it. -/
def joined (entries : List SpacedText) : List Char :=
  entries.flatMap fun entry => entry.text ++ entry.blanks

theorem joined_cons (entry : SpacedText) (rest : List SpacedText) :
    joined (entry :: rest) = entry.text ++ (entry.blanks ++ joined rest) := by
  rw [joined, List.flatMap_cons, List.append_assoc, joined]

end SpacedText

/-- A text that is a token by itself; if it writes a number, that is one of 64 bits. -/
structure IsTokenText (text : List Char) (kind : TokenKind) : Prop where
  whole : (scan text).whole? = some (.token kind)
  in_range : ∀ number, (Lexeme.token kind).WritesNumber text number → IsSigned64 number

/-- Texts that are tokens by themselves, with blanks behind each of them, at least one before
the next text. -/
structure StandApart (entries : List SpacedText) : Prop where
  tokens : ∀ entry ∈ entries, ∃ kind, IsTokenText entry.text kind
  blank : ∀ entry ∈ entries, IsBlankRun entry.blanks
  apart : ∀ entry ∈ entries.dropLast, entry.blanks ≠ []

namespace IsTokenText

variable {text : List Char} {kind : TokenKind}

/-- The numbers that 64 bits cannot hold are those out of range. -/
theorem iff_isOutOfRange (whole : (scan text).whole? = some (.token kind)) :
    IsTokenText text kind ↔ (Lexeme.token kind).isOutOfRange text = false := by
  rw [← Bool.not_eq_true, (scan_eq_some_iff.mp whole).isOutOfRange_iff]
  constructor
  · rintro isToken ⟨number, writes, outside⟩
    exact outside (isToken.in_range number writes)
  · intro noneOutside
    refine ⟨whole, fun number writes => ?_⟩
    by_contra outside
    exact noneOutside ⟨number, writes, outside⟩

theorem nonempty (isToken : IsTokenText text kind) : text ≠ [] := by
  rintro rfl
  have empty : (scan []).whole? = none := by decide +kernel
  exact nomatch empty.symm.trans isToken.whole

theorem not_isTrivia (isToken : IsTokenText text kind) : ¬ IsTrivia text :=
  fun trivia => (isTrivia_iff_of_scan isToken.nonempty isToken.whole).mp trivia kind rfl

/-- A token does not begin with a blank. -/
theorem head_not_blank (isToken : IsTokenText text kind) :
    ∀ c ∈ text.head?, ¬ IsBlankRun [c] := by
  intro c head areBlank
  have blank := areBlank c List.mem_cons_self
  have member := List.mem_of_mem_head? head
  have separator : c ∈ separators := by
    rcases blank with rfl | rfl | rfl <;> decide
  obtain ⟨pattern, accepted, -⟩ := (scan_eq_some_iff.mp isToken.whole).exists_pattern
  rcases Pattern.isTrivia_or_lineFeed_of_accepts accepted member separator with trivia | rfl
  · exact isToken.not_isTrivia trivia
  · obtain rfl := List.mem_singleton.mp member
    exact absurd blank (by decide)

/-- A token before a separator, or at the end of the text, is cut off as a whole. -/
theorem longestMatch_append (isToken : IsTokenText text kind) {rest : List Char}
    (ends : ∀ c ∈ rest.head?, c ∈ separators) :
    longestMatch (text ++ rest) = some (.token kind, text.length) := by
  rw [← longestMatch_of_scan isToken.nonempty isToken.whole]
  cases rest with
  | nil => rw [List.append_nil]
  | cons c others => exact longestMatch_append_separator isToken.not_isTrivia (ends c rfl) others

/-- Reading goes on behind the token. -/
theorem tokenizeFrom_append (isToken : IsTokenText text kind) {rest : List Char}
    (ends : ∀ c ∈ rest.head?, c ∈ separators) (position : Position) :
    tokenizeFrom position (text ++ rest) =
      (tokenizeFrom (position.advance text) rest).map (⟨kind, position⟩ :: ·) := by
  have inRange := (iff_isOutOfRange isToken.whole).mp isToken
  rw [tokenizeFrom_of_longestMatch (isToken.longestMatch_append ends), List.take_left,
    List.drop_left, inRange]
  rfl

end IsTokenText

/-- Blanks before a token, or at the end of the text, are skipped. -/
theorem tokenizeFrom_blanks_append {blanks rest : List Char} (areBlank : IsBlankRun blanks)
    (ends : ∀ c ∈ rest.head?, ¬ IsBlankRun [c]) (position : Position) :
    tokenizeFrom position (blanks ++ rest) = tokenizeFrom (position.advance blanks) rest := by
  by_cases isEmpty : blanks = []
  · subst isEmpty
    rfl
  · obtain ⟨lexeme, found, noToken⟩ := longestMatch_of_isTrivia isEmpty (.inl areBlank)
    have sameMatch := longestMatch_blanks_append areBlank isEmpty ends
    rw [tokenizeFrom_of_no_token (sameMatch.trans found) noToken, List.take_left, List.drop_left]

namespace StandApart

variable {entry : SpacedText} {rest : List SpacedText}

theorem tail (apart : StandApart (entry :: rest)) : StandApart rest where
  tokens other member := apart.tokens other (List.mem_cons_of_mem _ member)
  blank other member := apart.blank other (List.mem_cons_of_mem _ member)
  apart other member := by
    refine apart.apart other ?_
    rw [List.dropLast_cons_of_ne_nil (List.ne_nil_of_mem (List.mem_of_mem_dropLast member))]
    exact List.mem_cons_of_mem _ member

/-- What follows a text begins with a blank. -/
theorem head_blanks_append (apart : StandApart (entry :: rest)) :
    ∀ c ∈ (entry.blanks ++ SpacedText.joined rest).head?, c ∈ separators := by
  intro c head
  have areBlank := apart.blank entry List.mem_cons_self
  have inBlanks : c ∈ entry.blanks := by
    by_cases isLast : rest = []
    · subst isLast
      rw [SpacedText.joined, List.flatMap_nil, List.append_nil] at head
      exact List.mem_of_mem_head? head
    · have someBlank : entry.blanks ≠ [] := by
        apply apart.apart entry
        rw [List.dropLast_cons_of_ne_nil isLast]
        exact List.mem_cons_self
      rw [List.head?_append_of_ne_nil _ someBlank] at head
      exact List.mem_of_mem_head? head
  rcases areBlank c inBlanks with rfl | rfl | rfl <;> decide

/-- What follows the blanks, if anything does, begins with no blank. -/
theorem head_joined (apart : StandApart rest) :
    ∀ c ∈ (SpacedText.joined rest).head?, ¬ IsBlankRun [c] := by
  cases rest with
  | nil => exact fun c head => nomatch head
  | cons entry rest =>
    obtain ⟨kind, isToken⟩ := apart.tokens entry List.mem_cons_self
    rw [SpacedText.joined_cons, List.head?_append_of_ne_nil _ isToken.nonempty]
    exact isToken.head_not_blank

/-- Texts that stand apart, behind some other text, are tokenized one by one. -/
theorem exists_tokens {entries : List SpacedText} (apart : StandApart entries)
    (before : List Char) :
    ∃ tokens, tokenizeFrom (Position.start.advance before) (SpacedText.joined entries) = .ok tokens
      ∧ tokens.length = entries.length
      ∧ ∀ (i : Nat) entry token, entries[i]? = some entry → tokens[i]? = some token →
        IsTokenOf (before ++ SpacedText.joined (entries.take i)) entry.text token := by
  induction entries generalizing before with
  | nil => exact ⟨[], tokenizeFrom_nil _, rfl, nofun⟩
  | cons entry rest inductionHypothesis =>
    obtain ⟨kind, isToken⟩ := apart.tokens entry List.mem_cons_self
    obtain ⟨tokens, tokenized, sameLength, isTokenOf⟩ :=
      inductionHypothesis apart.tail (before ++ (entry.text ++ entry.blanks))
    refine ⟨⟨kind, Position.start.advance before⟩ :: tokens, ?_, ?_, ?_⟩
    · rw [Position.advance_append, Position.advance_append] at tokenized
      rw [SpacedText.joined_cons, isToken.tokenizeFrom_append apart.head_blanks_append,
        tokenizeFrom_blanks_append (apart.blank entry List.mem_cons_self) apart.tail.head_joined,
        tokenized]
      rfl
    · rw [List.length_cons, List.length_cons, sameLength]
    · intro i other token isEntry isAt
      cases i with
      | zero =>
        obtain rfl := Option.some.inj isEntry
        obtain rfl := Option.some.inj isAt
        rw [List.take_zero, SpacedText.joined, List.flatMap_nil, List.append_nil]
        exact ⟨isToken.whole, Position.line_advance_start before, Position.column_advance_start before⟩
      | succ i =>
        have later := isTokenOf i other token isEntry isAt
        rwa [List.append_assoc, List.append_assoc, ← SpacedText.joined_cons] at later

end StandApart

/-- Separated tokens are read independently of each other. Let texts be tokens by themselves,
with numbers of 64 bits, and let blanks stand between each and the next. Then tokenizing their
script succeeds, with one token for each text: of the kind that the text has alone, and at the
line and column where the text begins in the script. -/
theorem tokenize_standApart {entries : List SpacedText} (apart : StandApart entries) :
    ∃ tokens, tokenize (String.ofList (SpacedText.joined entries)) = .ok tokens
      ∧ tokens.length = entries.length
      ∧ ∀ (i : Nat) entry token, entries[i]? = some entry → tokens[i]? = some token →
        IsTokenOf (SpacedText.joined (entries.take i)) entry.text token := by
  rw [tokenize, String.toList_ofList]
  exact apart.exists_tokens []

/-- Two texts that would be one keyword if they stood together, the smallest number, and a line
feed between blanks that begins a new line. -/
theorem tokenize_standApart_two_lines :
    let entries : List SpacedText :=
      [⟨['w', 'a', 'l', 'l'], [' ']⟩, ⟨"-north".toList, ['\t']⟩, ⟨['\n'], [' ', '\r']⟩,
        ⟨"-9223372036854775808".toList, []⟩]
    StandApart entries
      ∧ ∃ tokens, tokenize "wall -north\t\n \r-9223372036854775808" = .ok tokens
        ∧ tokens.length = 4
        ∧ ∀ token, tokens[3]? = some token →
          IsTokenOf "wall -north\t\n \r".toList "-9223372036854775808".toList token := by
  intro entries
  have apart : StandApart entries := by
    refine ⟨?_, by decide, by decide⟩
    simp only [entries, List.mem_cons, List.not_mem_nil, or_false, forall_eq_or_imp, forall_eq]
    refine ⟨⟨.keyword .wall, (IsTokenText.iff_isOutOfRange ?_).mpr ?_⟩,
      ⟨.word "-north", (IsTokenText.iff_isOutOfRange ?_).mpr ?_⟩,
      ⟨.newline, (IsTokenText.iff_isOutOfRange ?_).mpr ?_⟩,
      ⟨.integer (-9223372036854775808), (IsTokenText.iff_isOutOfRange ?_).mpr ?_⟩⟩
      <;> decide +kernel
  obtain ⟨tokens, tokenized, count, isTokenOf⟩ := tokenize_standApart apart
  exact ⟨apart, tokens, tokenized, count, fun token isLast => isTokenOf 3 _ token rfl isLast⟩

end RoomLayout
