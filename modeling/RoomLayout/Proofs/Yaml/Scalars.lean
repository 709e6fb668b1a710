import RoomLayout.Proofs.Yaml.BlockText
import RoomLayout.Proofs.Yaml.DoubleQuotes
import RoomLayout.Proofs.Yaml.SingleQuotes

/-!
# Scalars in block context

A scalar that is written in a style that fits its text (`Scalar.Legible`) is read back as
what stands inside an entry. It opens nothing else: no collection starts with its first
character, it has no properties, and no colon follows that would make a key of it. The same
goes for the two collections that are written inline, since they are empty.
-/

namespace RoomLayout.Yaml

/-- A scalar without a tag in a style that fits its text. -/
inductive Scalar.Legible : Scalar → Prop where
  | plain {text : String} (fits : fitsPlain text.toList = true) :
      Legible { style := .plain, text }
  | singleQuoted {text : String} (fits : fitsSingleQuotes text.toList = true)
      (noLineFeed : '\n' ∉ text.toList) : Legible { style := .singleQuoted, text }
  | doubleQuoted {text : String} : Legible { style := .doubleQuoted, text }
  | literal {text : String} (fits : fitsLiteral text.toList = true)
      (nonempty : text.toList ≠ []) : Legible { style := .literal, text }

/-! ## What opens nothing -/

theorem Reader.close_nothing (reader : Reader) (node : Node) :
    reader.close {} node = (node, reader) := by
  cases node <;> rfl

/-- A text whose first token opens no entry of a block collection, ends no key, and is no
property. -/
structure OpensNothing (c : Char) (rest : List Char) : Prop where
  start : IsTokenStart c
  noAnchor : c ≠ '&'
  noTag : c ≠ '!'
  noMark : c = '-' ∨ c = '?' ∨ c = ':' → startsWithSpacing rest = false

/-- What can start a text without quotes is no spacing and is reserved for nothing else. -/
theorem noSpacing_noReserved_of_startsPlain {c : Char} {rest : List Char}
    (starts : startsPlain false (c :: rest) = true) :
    isSpacing c = false ∧ isReserved c = false := by
  rw [startsPlain] at starts
  split at starts
  · exact absurd starts (by simp)
  · next free => exact Bool.or_eq_false_iff.mp (Bool.eq_false_iff.mpr free)

namespace OpensNothing

/-- Most characters open nothing. -/
theorem of_not_mem {c : Char} (rest : List Char) (noSpacing : isSpacing c = false)
    (ordinary : c ∉ ['#', '&', '!', '-', '?', ':']) : OpensNothing c rest := by
  simp only [List.mem_cons, List.not_mem_nil, or_false, not_or] at ordinary
  obtain ⟨noComment, noAnchor, noTag, noDash, noQuestion, noColon⟩ := ordinary
  exact ⟨⟨noSpacing, noComment⟩, noAnchor, noTag, by simp [noDash, noQuestion, noColon]⟩

/-- A text without quotes opens nothing. -/
theorem of_startsPlain {c : Char} {rest : List Char}
    (starts : startsPlain false (c :: rest) = true) : OpensNothing c rest := by
  obtain ⟨noSpacing, noReserved⟩ := noSpacing_noReserved_of_startsPlain starts
  simp only [isReserved, isFlowIndicator, Bool.or_eq_false_iff, decide_eq_false_iff_not]
    at noReserved
  refine ⟨⟨noSpacing, by simp [noReserved]⟩, by simp [noReserved], by simp [noReserved], ?_⟩
  rintro (rfl | rfl | rfl) <;> simpa [startsPlain, isSpacing, isBlank, isBreak, isReserved,
    isFlowIndicator] using starts

/-- A text that fits without quotes opens nothing, whatever comes behind it. -/
theorem of_fitsPlain {text : List Char} (fits : fitsPlain text = true) (behind : List Char) :
    ∃ c rest, text ++ behind = c :: rest ∧ startsPlain false (c :: rest) = true
      ∧ OpensNothing c rest := by
  have starts := startsPlain_of_fitsPlain fits behind
  cases written : text ++ behind with
  | nil =>
    rw [written] at starts
    exact absurd starts (by decide)
  | cons c rest =>
    rw [written] at starts
    exact ⟨c, rest, rfl, starts, .of_startsPlain starts⟩

variable {c : Char} {rest : List Char} {line column : Nat} {keyAllowed : Bool}

theorem not_isAtIndicator (opens : OpensNothing c rest) {indicator : Char}
    (mark : indicator = '-' ∨ indicator = '?' ∨ indicator = ':') :
    (Place.mk (c :: rest) line column keyAllowed).isAtIndicator indicator = false := by
  refine Bool.eq_false_iff.mpr fun at_ => ?_
  obtain ⟨here, spaced⟩ := Bool.and_eq_true_iff.mp at_
  obtain rfl : c = indicator := Option.some.inj (of_decide_eq_true here)
  exact absurd spaced (by simp [opens.noMark mark])

theorem properties? (opens : OpensNothing c rest) (handles : TagHandles) (line column : Nat)
    (keyAllowed : Bool) :
    (Place.mk (c :: rest) line column keyAllowed).properties? handles false 3 {}
      = some ({}, ⟨c :: rest, line, column, keyAllowed⟩) := by
  simp [Place.properties?, Place.isAt, opens.noAnchor, opens.noTag]

end OpensNothing

section Reading

variable {margin fuel line column : Nat} {dashes keyAllowed : Bool} {c : Char}
  {rest suffix : List Char} {reader : Reader} {node : Node} {after : Place}

/-- Inside something, what is no collection and has no properties is a scalar or an inline
collection. -/
theorem readBlockNode_opensNothing (opens : OpensNothing c rest) (positive : 0 < margin)
    (inside : margin ≤ column)
    (sought : reader.place.seek false = ⟨c :: rest, line, column, keyAllowed⟩)
    (noKey : readKey margin fuel (reader.moveTo ⟨c :: rest, line, column, keyAllowed⟩) = none) :
    readBlockNode margin dashes (fuel + 1) {} reader
      = if c = '|' || c = '>' then do
          let (value, after) ← (Place.mk (c :: rest) line column keyAllowed).block? margin
          return (Node.scalar value, reader.moveTo after)
        else
          readInline false margin fuel {}
            (reader.moveTo ⟨c :: rest, line, column, keyAllowed⟩) := by
  have notOutside : (Place.mk (c :: rest) line column keyAllowed).isOutside margin dashes
      = false := by
    simp [Place.isOutside, Place.atDocumentEnd]
    omega
  have merged : Properties.merge {} {} = some {} := rfl
  have noProperties := opens.properties? reader.handles line column keyAllowed
  have moved : reader.seek false = reader.moveTo ⟨c :: rest, line, column, keyAllowed⟩ := by
    rw [Reader.seek, sought]
  rw [readBlockNode, moved]
  simp only [Reader.moveTo] at noKey ⊢
  simp [notOutside, opens.not_isAtIndicator, noKey, noProperties, merged, Reader.close_nothing,
    Place.isAtBlockScalar, Place.isAt]

/-- No key starts where no colon follows. -/
theorem readKey_eq_none (opens : OpensNothing c rest)
    (unread : ∀ node later, readInline false margin fuel {}
        (reader.moveTo ⟨c :: rest, line, column, keyAllowed⟩) = some (node, later) →
      (later.place.seek false).isAtIndicator ':' = false) :
    readKey margin fuel (reader.moveTo ⟨c :: rest, line, column, keyAllowed⟩) = none := by
  rw [readKey]
  split
  · rfl
  · have noProperties := opens.properties? reader.handles line column keyAllowed
    simp only [Reader.moveTo] at unread ⊢
    simp only [noProperties, Option.bind_eq_bind, Option.bind_some]
    cases read : readInline false margin fuel {}
        { reader with place := ⟨c :: rest, line, column, keyAllowed⟩ } with
    | none => simp
    | some result =>
      have noColon := unread result.1 result.2 read
      simp [Place.reachesColon, Reader.seek, Reader.moveTo, noColon]

/-- What is read inline and is followed by no colon is what stands inside an entry. -/
theorem readBlockNode_inline (opens : OpensNothing c rest) (noBlock : c ≠ '|' ∧ c ≠ '>')
    (positive : 0 < margin) (inside : margin ≤ column)
    (sought : reader.place.seek false = ⟨c :: rest, line, column, keyAllowed⟩)
    (follows : Follows margin dashes suffix) (leaves : after.Leaves suffix)
    (read : readInline false margin fuel {} (reader.moveTo ⟨c :: rest, line, column, keyAllowed⟩)
      = some (node, reader.moveTo after)) :
    readBlockNode margin dashes (fuel + 1) {} reader = some (node, reader.moveTo after) := by
  have noKey : readKey margin fuel (reader.moveTo ⟨c :: rest, line, column, keyAllowed⟩)
      = none := by
    refine readKey_eq_none opens fun node' later same => ?_
    obtain ⟨-, rfl⟩ := Prod.mk.inj (Option.some.inj (read.symm.trans same))
    exact follows.not_isAtIndicator_colon leaves
  rw [readBlockNode_opensNothing opens positive inside sought noKey,
    if_neg (by simp [noBlock.1, noBlock.2]), read]

/-! ## Scalars -/

/-- What reads back in quotes reads back inline. -/
theorem readInline_quoted (quote : c = '\x27' ∨ c = '\x22') {value : Scalar}
    (read : (Place.mk (c :: rest) line column keyAllowed).quoted? = some (value, after)) :
    readInline false margin (fuel + 1) {} (reader.moveTo ⟨c :: rest, line, column, keyAllowed⟩)
      = some (.scalar value, reader.moveTo after) := by
  have noAlias : c ≠ '*' := by rcases quote with rfl | rfl <;> decide
  simp [readInline, Reader.moveTo, Place.isAt, noAlias, quote, read, Reader.close_nothing]

/-- What reads back without quotes reads back inline. -/
theorem readInline_plain (noReserved : isReserved c = false)
    (starts : startsPlain false (c :: rest) = true) {value : Scalar}
    (read : (Place.mk (c :: rest) line column keyAllowed).plain? false margin
      = some (value, after)) :
    readInline false margin (fuel + 1) {} (reader.moveTo ⟨c :: rest, line, column, keyAllowed⟩)
      = some (.scalar value, reader.moveTo after) := by
  simp only [isReserved, isFlowIndicator, Bool.or_eq_false_iff, decide_eq_false_iff_not]
    at noReserved
  simp [readInline, Reader.moveTo, Place.isAt, noReserved, starts, read, Reader.close_nothing]

/-- An empty list in brackets reads back inline. -/
theorem readInline_noItems (behind : List Char) :
    readInline false margin (fuel + 2) {}
        (reader.moveTo ⟨'[' :: ']' :: behind, line, column, keyAllowed⟩)
      = some (.sequence [], reader.moveTo ⟨behind, line, column + 1 + 1, false⟩) := by
  have closed : Place.seek ⟨']' :: behind, line, column + 1, false⟩ true
      = ⟨']' :: behind, line, column + 1, false⟩ :=
    Place.seekFrom_token true line (column + 1) false ⟨by decide, by decide⟩ behind
  simp [readInline, readFlowItems, Reader.moveTo, Reader.seek, Place.isAt, Place.skip, closed,
    Reader.close_nothing]

/-- An empty list in braces reads back inline. -/
theorem readInline_noEntries (behind : List Char) :
    readInline false margin (fuel + 2) {}
        (reader.moveTo ⟨'\x7b' :: '\x7d' :: behind, line, column, keyAllowed⟩)
      = some (.mapping [], reader.moveTo ⟨behind, line, column + 1 + 1, false⟩) := by
  have closed : Place.seek ⟨'\x7d' :: behind, line, column + 1, false⟩ true
      = ⟨'\x7d' :: behind, line, column + 1, false⟩ :=
    Place.seekFrom_token true line (column + 1) false ⟨by decide, by decide⟩ behind
  simp [readInline, readFlowEntries, Reader.moveTo, Reader.seek, Place.isAt, Place.skip, closed,
    Reader.close_nothing]

/-- The text of a scalar starts with a token. -/
theorem Scalar.Legible.starts {value : Scalar} (legible : value.Legible) (indent : Nat) :
    ∃ c rest, value.layout indent = c :: rest ∧ IsTokenStart c := by
  cases legible with
  | plain fits =>
    obtain ⟨c, rest, written, -, opens⟩ := OpensNothing.of_fitsPlain fits ['\n']
    exact ⟨c, rest, written, opens.start⟩
  | singleQuoted => exact ⟨'\x27', _, rfl, by decide, by decide⟩
  | doubleQuoted => exact ⟨'\x22', _, rfl, by decide, by decide⟩
  | literal => exact ⟨'|', _, rfl, by decide, by decide⟩

/-- A scalar inside an entry is read back. -/
theorem readBlockNode_scalar (fuel : Nat) {value : Scalar} (legible : value.Legible)
    (positive : 0 < margin) (inside : margin ≤ column) (follows : Follows margin dashes suffix)
    (sought : reader.place.seek false
      = ⟨value.layout (margin + 1) ++ suffix, line, column, keyAllowed⟩) :
    ∃ after, readBlockNode margin dashes (fuel + 2) {} reader
        = some (.scalar value, reader.moveTo after) ∧ after.Leaves suffix := by
  cases legible with
  | @plain text fits =>
    obtain ⟨after, read, leaves⟩ := Place.plain?_line follows fits line
      (Nat.lt_of_lt_of_le positive inside) keyAllowed
    obtain ⟨c, rest, written, starts, opens⟩ := OpensNothing.of_fitsPlain fits ('\n' :: suffix)
    obtain ⟨-, noReserved⟩ := noSpacing_noReserved_of_startsPlain starts
    have shape : Scalar.layout (margin + 1) ⟨.plain, text, none⟩ ++ suffix
        = text.toList ++ '\n' :: suffix := List.append_assoc _ _ _
    rw [shape, written] at sought
    rw [written] at read
    refine ⟨after, readBlockNode_inline opens ?noBlock positive inside sought follows leaves
      (readInline_plain noReserved starts read), leaves⟩
    simp only [isReserved, Bool.or_eq_false_iff, decide_eq_false_iff_not] at noReserved
    simp [noReserved]
  | @singleQuoted text fits noLineFeed =>
    obtain ⟨line', column', read⟩ := Place.quoted?_single (Nat.succ_pos margin) fits noLineFeed line
      column keyAllowed ('\n' :: suffix) (by simp)
    have shape : Scalar.layout (margin + 1) ⟨.singleQuoted, text, none⟩ ++ suffix
        = '\x27' :: singleQuotedBody (margin + 1) false text.toList
            ++ '\x27' :: '\n' :: suffix := by
      simp [Scalar.layout]
    rw [shape] at sought
    have leaves := Place.leaves_lineFeed suffix line' column' false
    exact ⟨_, readBlockNode_inline (.of_not_mem _ (by decide) (by decide)) (by decide) positive
      inside sought follows leaves (readInline_quoted (.inl rfl) read), leaves⟩
  | @doubleQuoted text =>
    obtain ⟨column', read⟩ := Place.quoted?_double text line column keyAllowed ('\n' :: suffix)
    have shape : Scalar.layout (margin + 1) ⟨.doubleQuoted, text, none⟩ ++ suffix
        = '\x22' :: text.toList.flatMap quotedCharacter ++ '\x22' :: '\n' :: suffix := by
      simp [Scalar.layout]
    rw [shape] at sought
    have leaves := Place.leaves_lineFeed suffix line column' false
    exact ⟨_, readBlockNode_inline (.of_not_mem _ (by decide) (by decide)) (by decide) positive
      inside sought follows leaves (readInline_quoted (.inr rfl) read), leaves⟩
  | @literal text fits nonempty =>
    obtain ⟨after, read, leaves⟩ := Place.block?_literal (follows.inside (Nat.le_succ margin) .inl)
      positive fits nonempty line column keyAllowed
    obtain ⟨header, written, -⟩ := read_literalHeader text.toList []
    have shape : Scalar.layout (margin + 1) ⟨.literal, text, none⟩ ++ suffix
        = '|' :: (header ++ '\n' :: (literalBody (margin + 1) true text.toList ++ suffix)) := by
      simp [Scalar.layout, written]
    rw [shape] at sought
    rw [written, List.cons_append] at read
    have opens : OpensNothing '|' (header ++ '\n'
        :: (literalBody (margin + 1) true text.toList ++ suffix)) :=
      .of_not_mem _ (by decide) (by decide)
    refine ⟨after, ?_, leaves⟩
    rw [readBlockNode_opensNothing opens positive inside sought, if_pos (by decide), read]
    · rfl
    · refine readKey_eq_none opens fun node later same => ?_
      simp [readInline, Reader.moveTo, Place.isAt, startsPlain, isReserved, Properties.isEmpty]
        at same

end Reading

end RoomLayout.Yaml
