import RoomLayout.Proofs.Yaml.Scalars

/-!
# Block collections

Sequences and mappings are read back entry by entry. What one entry may rely on is the same
everywhere: the next token, of the next entry or of what follows the collection, lies to the
left of what is inside the entry. So it is enough to know how each item and each value is
read (`Node.ReadsAsItem`, `Node.ReadsAsValue`), and a node of any depth is read back by
induction on it (`Node.Legible.reads`).

The reader takes fuel. A node is given two calls more than its text is long, a list of
entries one more; the text of an entry is at least two characters longer than that of what
is inside.
-/

namespace RoomLayout.Yaml

namespace Node

/-- A key that is written before its colon, in a form that the reader takes for one. -/
inductive LegibleKey : Node → Prop where
  | plain {text : String} (fits : fitsPlain text.toList = true)
      (short : text.toList.length ≤ 1024) : LegibleKey (.scalar { style := .plain, text })

/-- A node whose scalars are written in styles that fit and whose keys are legible. -/
inductive Legible : Node → Prop where
  | scalar {value : Scalar} (legible : value.Legible) : Legible (.scalar value)
  | sequence {items : List Node} (each : ∀ item ∈ items, Legible item) :
      Legible (.sequence items)
  | mapping {entries : List (Node × Node)} (keys : ∀ entry ∈ entries, LegibleKey entry.1)
      (values : ∀ entry ∈ entries, Legible entry.2) : Legible (.mapping entries)

/-- Behind the dash of an item, the node is read back from its text. -/
def ReadsAsItem (node : Node) : Prop :=
  ∀ (column line fuel : Nat) (suffix : List Char) (reader : Reader),
    Follows (column + 1) false suffix →
    reader.place = ⟨' ' :: (node.layout (column + 2) ++ suffix), line, column + 1, true⟩ →
    (node.layout (column + 2)).length + 2 ≤ fuel →
    ∃ after, readBlockNode (column + 1) false fuel {} reader = some (node, reader.moveTo after)
      ∧ after.Leaves suffix

/-- Behind the colon of an entry, the node is read back from its text. -/
def ReadsAsValue (node : Node) : Prop :=
  ∀ (column line behind fuel : Nat) (suffix : List Char) (reader : Reader), column < behind →
    Follows (column + 1) true suffix →
    reader.place = ⟨node.layoutValue column ++ suffix, line, behind, false⟩ →
    (node.layoutValue column).length + 2 ≤ fuel →
    ∃ after, readBlockNode (column + 1) true fuel {} reader = some (node, reader.moveTo after)
      ∧ after.Leaves suffix

/-- What is written on the line where it starts, be it behind a dash or behind a colon, is
read back inside of anything. -/
structure ReadsInline (node : Node) : Prop where
  starts : ∀ indent, ∃ c rest, node.layout indent = c :: rest ∧ IsTokenStart c
  asValue : ∀ column, node.layoutValue column = ' ' :: node.layout (column + 2)
  reads : ∀ (line column fuel : Nat) (keyAllowed : Bool) {margin : Nat} {dashes : Bool}
    {suffix : List Char} {reader : Reader}, 0 < margin → margin ≤ column →
    Follows margin dashes suffix →
    reader.place.seek false = ⟨node.layout (margin + 1) ++ suffix, line, column, keyAllowed⟩ →
    ∃ after, readBlockNode margin dashes (fuel + 3) {} reader = some (node, reader.moveTo after)
      ∧ after.Leaves suffix

end Node

open Node

section Reading

variable {margin column fuel line : Nat} {dashes : Bool} {suffix : List Char} {reader : Reader}

/-! ## Sequences -/

/-- After a margin of its own the first item is written as on a line of its own. -/
theorem layoutItems_margin (margin indent : Nat) (item : Node) (rest : List Node) :
    layoutItems margin indent (item :: rest)
      = spaces margin ++ layoutItems 0 indent (item :: rest) := by
  rw [layoutItems, layoutItems]
  simp [spaces]

theorem length_layoutItems_le (margin indent : Nat) (items : List Node) :
    (layoutItems 0 indent items).length ≤ (layoutItems margin indent items).length := by
  cases items with
  | nil => exact Nat.le_refl _
  | cons item rest =>
    rw [layoutItems_margin margin, List.length_append]
    omega

/-- What follows an item: the dash of the next one, or what follows the sequence. -/
theorem follows_layoutItems (follows : Follows margin dashes suffix) (inside : margin ≤ column + 1)
    (rest : List Node) : Follows (column + 1) false (layoutItems column column rest ++ suffix) := by
  cases rest with
  | nil => exact follows.inside inside nofun
  | cons item rest =>
    rw [layoutItems, List.append_assoc, List.append_assoc]
    exact .token (Nat.lt_succ_self column) ⟨by decide, by decide⟩ nofun nofun

/-- The items of a sequence are read back. Its dashes stand inside, or below a key in the
column of that key. -/
theorem readBlockItems_layoutItems {items : List Node} (reader : Reader) (fuel : Nat)
    (each : ∀ item ∈ items, item.ReadsAsItem)
    (inside : margin ≤ column ∨ dashes = true ∧ column + 1 = margin)
    (follows : Follows margin dashes suffix)
    (leaves : reader.place.Leaves (layoutItems column column items ++ suffix))
    (enough : (layoutItems 0 column items).length + 1 ≤ fuel) (itemsReversed : List Node) :
    ∃ after, readBlockItems column (column < margin) fuel itemsReversed reader
        = some (itemsReversed.reverse ++ items, reader.moveTo after) ∧ after.Leaves suffix := by
  induction items generalizing fuel itemsReversed reader with
  | nil =>
    obtain ⟨fuel, rfl⟩ : ∃ less, fuel = less + 1 := ⟨fuel - 1, by omega⟩
    refine ⟨reader.place.seek false, ?_, leaves.seek follows⟩
    rw [readBlockItems, List.append_nil]
    simp only [Reader.seek, Reader.moveTo]
    rcases follows.outside leaves with ended | ⟨outside, noDash⟩
    · simp [ended]
    · rcases inside with inside | ⟨inValue, before⟩
      · have left : (reader.place.seek false).column < column := by omega
        simp [left]
      · by_cases left : (reader.place.seek false).column < column
        · simp [left]
        · have same : (reader.place.seek false).column = column := by omega
          have belowKey : column < margin := by omega
          simp [same, noDash inValue (by omega), belowKey]
  | cons item rest inductionHypothesis =>
    obtain ⟨line, sought⟩ := leaves
    rw [layoutItems, List.append_assoc, List.append_assoc, List.cons_append, List.cons_append,
      Place.seek_lineStart_token _ _ ⟨by decide, by decide⟩] at sought
    rw [layoutItems, List.length_append, List.length_append, List.length_cons,
      List.length_cons] at enough
    obtain ⟨fuel, rfl⟩ : ∃ less, fuel = less + 1 := ⟨fuel - 1, by omega⟩
    have further := length_layoutItems_le column column rest
    obtain ⟨afterItem, readItem, leavesItem⟩ := each item List.mem_cons_self column line fuel _
      (reader.moveTo ⟨_, line, column + 1, true⟩)
      (follows_layoutItems follows (by omega) rest) rfl (by omega)
    obtain ⟨after, readRest, leavesRest⟩ := inductionHypothesis (reader.moveTo afterItem) fuel
      (fun item member => each item (List.mem_cons_of_mem _ member)) leavesItem (by omega)
      (item :: itemsReversed)
    refine ⟨after, ?_, leavesRest⟩
    have notOver : (Place.mk ('-' :: ' ' :: (layout (column + 2) item
        ++ (layoutItems column column rest ++ suffix))) line column true).atDocumentEnd
          = false := by
      simp [Place.atDocumentEnd, startsWithMarker]
    rw [readBlockItems]
    simp only [Reader.seek, sought, Reader.moveTo] at readItem readRest ⊢
    simp [notOver, Place.isAtIndicator, Place.isAt, startsWithSpacing, isSpacing, isBlank,
      Place.skip, readItem, readRest]

/-- A sequence with items is read back from its first dash on. -/
theorem readBlockNode_items (line column : Nat) {item : Node} {rest : List Node}
    (each : ∀ node ∈ item :: rest, node.ReadsAsItem)
    (inside : margin ≤ column ∨ dashes = true ∧ column + 1 = margin)
    (follows : Follows margin dashes suffix)
    (sought : reader.place.seek false
      = ⟨layoutItems 0 column (item :: rest) ++ suffix, line, column, true⟩)
    (enough : (layoutItems 0 column (item :: rest)).length + 2 ≤ fuel) :
    ∃ after, readBlockNode margin dashes fuel {} reader
        = some (.sequence (item :: rest), reader.moveTo after) ∧ after.Leaves suffix := by
  obtain ⟨fuel, rfl⟩ : ∃ less, fuel = less + 1 := ⟨fuel - 1, by omega⟩
  obtain ⟨behind, shape⟩ : ∃ behind, layoutItems 0 column (item :: rest) ++ suffix
      = '-' :: ' ' :: behind := ⟨_, by rw [layoutItems]; rfl⟩
  have leaves : (Place.mk ('-' :: ' ' :: behind) line column true).Leaves
      (layoutItems column column (item :: rest) ++ suffix) := by
    rw [layoutItems_margin, List.append_assoc, shape]
    exact Place.leaves_token line column ⟨by decide, by decide⟩ _
  rw [shape] at sought
  obtain ⟨after, read, leavesAfter⟩ := readBlockItems_layoutItems
    (reader.moveTo ⟨'-' :: ' ' :: behind, line, column, true⟩) fuel each inside follows leaves
    (by omega) []
  refine ⟨after, ?_, leavesAfter⟩
  have dash : (Place.mk ('-' :: ' ' :: behind) line column true).isAtIndicator '-' = true := rfl
  have notOutside : (Place.mk ('-' :: ' ' :: behind) line column true).isOutside margin dashes
      = false := by
    have notOver : (Place.mk ('-' :: ' ' :: behind) line column true).atDocumentEnd = false := by
      simp [Place.atDocumentEnd, startsWithMarker]
    rcases inside with inside | ⟨inValue, before⟩
    · simp [Place.isOutside, notOver, Nat.not_lt.mpr inside]
    · simp [Place.isOutside, notOver, inValue, before, dash]
  rw [readBlockNode]
  simp only [Reader.seek, sought, Reader.moveTo] at read ⊢
  simp [notOutside, dash, read, Reader.close_nothing]

/-! ## Mappings -/

/-- After a margin of its own the first entry is written as on a line of its own. -/
theorem layoutEntries_margin (margin indent : Nat) (entry : Node × Node)
    (rest : List (Node × Node)) :
    layoutEntries margin indent (entry :: rest)
      = spaces margin ++ layoutEntries 0 indent (entry :: rest) := by
  obtain ⟨key, value⟩ := entry
  rw [layoutEntries, layoutEntries]
  simp [spaces]

theorem length_layoutEntries_le (margin indent : Nat) (entries : List (Node × Node)) :
    (layoutEntries 0 indent entries).length ≤ (layoutEntries margin indent entries).length := by
  cases entries with
  | nil => exact Nat.le_refl _
  | cons entry rest =>
    rw [layoutEntries_margin margin, List.length_append]
    omega

/-- An entry with a plain key. -/
theorem layoutEntries_plain (margin indent : Nat) (text : String) (value : Node)
    (rest : List (Node × Node)) (suffix : List Char) :
    layoutEntries margin indent ((.scalar { style := .plain, text }, value) :: rest) ++ suffix
      = spaces margin ++ (text.toList ++ ':' :: (value.layoutValue indent
          ++ (layoutEntries indent indent rest ++ suffix))) := by
  rw [layoutEntries]
  simp [keyText?]

theorem length_layoutEntries_plain (margin indent : Nat) (text : String) (value : Node)
    (rest : List (Node × Node)) :
    (layoutEntries margin indent ((.scalar { style := .plain, text }, value) :: rest)).length
      = margin + (text.toList.length + (1 + ((value.layoutValue indent).length
          + (layoutEntries indent indent rest).length))) := by
  have written := congrArg List.length (layoutEntries_plain margin indent text value rest [])
  simpa [spaces, Nat.add_comm 1] using written

/-- What stands behind the colon of an entry is set off from it. -/
theorem startsWithSpacing_layoutValue (indent : Nat) (value : Node) (behind : List Char) :
    startsWithSpacing (value.layoutValue indent ++ behind) = true := by
  cases value with
  | scalar value => rw [layoutValue]; rfl
  | sequence items => cases items <;> rw [layoutValue] <;> rfl
  | mapping entries => cases entries <;> rw [layoutValue] <;> rfl

/-- What follows a value: the key of the next entry, or what follows the mapping. -/
theorem follows_layoutEntries (follows : Follows margin dashes suffix) (inside : margin ≤ column)
    {rest : List (Node × Node)} (keys : ∀ entry ∈ rest, entry.1.LegibleKey) :
    Follows (column + 1) true (layoutEntries column column rest ++ suffix) := by
  cases rest with
  | nil => exact follows.inside (by omega) fun _ => .inr (by omega)
  | cons entry rest =>
    obtain ⟨key, value⟩ := entry
    obtain ⟨fits, short⟩ := keys _ List.mem_cons_self
    obtain ⟨c, behind, written, -, opens⟩ := OpensNothing.of_fitsPlain fits
      (':' :: (value.layoutValue column ++ (layoutEntries column column rest ++ suffix)))
    rw [layoutEntries_plain, written]
    exact .token (Nat.lt_succ_self column) opens.start
      (fun colon => opens.noMark (.inr (.inr colon))) fun _ _ dash => opens.noMark (.inl dash)

/-- A key is read up to its colon. -/
theorem readKey_plain (margin line column fuel : Nat) (reader : Reader) {text : String}
    (fits : fitsPlain text.toList = true) (short : text.toList.length ≤ 1024) {behind : List Char}
    (spaced : startsWithSpacing behind = true) :
    readKey margin (fuel + 1) (reader.moveTo ⟨text.toList ++ ':' :: behind, line, column, true⟩)
      = some (.scalar { style := .plain, text },
          reader.moveTo ⟨':' :: behind, line, column + text.toList.length, false⟩) := by
  have read := Place.plain?_key fits spaced margin line column true
  obtain ⟨c, rest, written, starts, opens⟩ := OpensNothing.of_fitsPlain fits (':' :: behind)
  rw [written] at read ⊢
  have inline : readInline false margin (fuel + 1) {}
      (reader.moveTo ⟨c :: rest, line, column, true⟩) = some (.scalar { style := .plain, text },
          reader.moveTo ⟨':' :: behind, line, column + text.toList.length, false⟩) :=
    readInline_plain (noSpacing_noReserved_of_startsPlain starts).2 starts read
  have colon : Place.seek ⟨':' :: behind, line, column + text.toList.length, false⟩ false
      = ⟨':' :: behind, line, column + text.toList.length, false⟩ :=
    Place.seekFrom_token _ _ _ _ ⟨by decide, by decide⟩ behind
  have noProperties := opens.properties? reader.handles line column true
  rw [readKey]
  simp only [Reader.moveTo] at inline ⊢
  simp [noProperties, inline, Reader.seek, Reader.moveTo, colon, Place.reachesColon,
    Place.isAtIndicator, Place.isAt, spaced, short]

/-- The entries of a mapping are read back. -/
theorem readBlockEntries_layoutEntries {entries : List (Node × Node)} (reader : Reader)
    (fuel : Nat) (keys : ∀ entry ∈ entries, entry.1.LegibleKey)
    (values : ∀ entry ∈ entries, entry.2.ReadsAsValue) (inside : margin ≤ column)
    (follows : Follows margin dashes suffix)
    (leaves : reader.place.Leaves (layoutEntries column column entries ++ suffix))
    (enough : (layoutEntries 0 column entries).length + 1 ≤ fuel)
    (entriesReversed : List (Node × Node)) :
    ∃ after, readBlockEntries column fuel entriesReversed reader
        = some (entriesReversed.reverse ++ entries, reader.moveTo after)
      ∧ after.Leaves suffix := by
  induction entries generalizing fuel entriesReversed reader with
  | nil =>
    obtain ⟨fuel, rfl⟩ : ∃ less, fuel = less + 1 := ⟨fuel - 1, by omega⟩
    refine ⟨reader.place.seek false, ?_, leaves.seek follows⟩
    rw [readBlockEntries, List.append_nil]
    simp only [Reader.seek, Reader.moveTo]
    rcases follows.outside leaves with ended | ⟨outside, -⟩
    · simp [ended]
    · have left : (reader.place.seek false).column < column := by omega
      simp [left]
  | cons entry rest inductionHypothesis =>
    obtain ⟨key, value⟩ := entry
    have keysOfRest : ∀ entry ∈ rest, entry.1.LegibleKey :=
      fun entry member => keys entry (List.mem_cons_of_mem _ member)
    obtain @⟨text, fits, short⟩ := keys _ List.mem_cons_self
    obtain ⟨line, sought⟩ := leaves
    obtain ⟨c, behind, written, starts, opens⟩ := OpensNothing.of_fitsPlain fits
      (':' :: (value.layoutValue column ++ (layoutEntries column column rest ++ suffix)))
    rw [layoutEntries_plain, written, Place.seek_lineStart_token _ _ opens.start] at sought
    rw [length_layoutEntries_plain] at enough
    have positive := List.length_pos_iff.mpr (ne_nil_of_fitsPlain fits)
    obtain ⟨fuel, rfl⟩ : ∃ less, fuel = less + 2 := ⟨fuel - 2, by omega⟩
    have further := length_layoutEntries_le column column rest
    have readKey := readKey_plain (column + 1) line column fuel reader fits short
      (startsWithSpacing_layoutValue column value (layoutEntries column column rest ++ suffix))
    obtain ⟨afterValue, readValue, leavesValue⟩ := values _ List.mem_cons_self column line
      (column + text.toList.length + 1) (fuel + 1) _ (reader.moveTo ⟨_, line, _, false⟩) (by omega)
      (follows_layoutEntries follows inside keysOfRest) rfl (by dsimp only; omega)
    obtain ⟨after, readRest, leavesRest⟩ := inductionHypothesis (reader.moveTo afterValue)
      (fuel + 1) keysOfRest (fun entry member => values entry (List.mem_cons_of_mem _ member))
      leavesValue (by omega)
      ((.scalar { style := .plain, text }, value) :: entriesReversed)
    refine ⟨after, ?_, leavesRest⟩
    have notOver : (Place.mk (c :: behind) line column true).atDocumentEnd = false := by
      rw [← written]
      simp [Place.atDocumentEnd, not_startsWithMarker_of_fitsPlain fits]
    rw [written] at readKey
    rw [readBlockEntries]
    simp only [Reader.seek, sought, Reader.moveTo] at readKey readValue readRest ⊢
    simp [notOver, opens.not_isAtIndicator, Place.skip, readKey, readValue, readRest]

/-- A mapping with entries is read back from its first key on. -/
theorem readBlockNode_entries (line column : Nat) {entry : Node × Node} {rest : List (Node × Node)}
    (keys : ∀ each ∈ entry :: rest, each.1.LegibleKey)
    (values : ∀ each ∈ entry :: rest, each.2.ReadsAsValue) (inside : margin ≤ column)
    (follows : Follows margin dashes suffix)
    (sought : reader.place.seek false
      = ⟨layoutEntries 0 column (entry :: rest) ++ suffix, line, column, true⟩)
    (enough : (layoutEntries 0 column (entry :: rest)).length + 2 ≤ fuel) :
    ∃ after, readBlockNode margin dashes fuel {} reader
        = some (.mapping (entry :: rest), reader.moveTo after) ∧ after.Leaves suffix := by
  have each := keys entry List.mem_cons_self
  obtain ⟨key, value⟩ := entry
  obtain @⟨text, fits, short⟩ := each
  obtain ⟨fuel, rfl⟩ : ∃ less, fuel = less + 2 := ⟨fuel - 2, by omega⟩
  obtain ⟨c, behind, written, starts, opens⟩ := OpensNothing.of_fitsPlain fits
    (':' :: (value.layoutValue column ++ (layoutEntries column column rest ++ suffix)))
  have shape : layoutEntries 0 column ((.scalar { style := .plain, text }, value) :: rest) ++ suffix
      = c :: behind := by
    rw [layoutEntries_plain, written]
    rfl
  have leaves : (Place.mk (c :: behind) line column true).Leaves
      (layoutEntries column column ((.scalar { style := .plain, text }, value) :: rest)
        ++ suffix) := by
    rw [layoutEntries_margin, List.append_assoc, shape]
    exact Place.leaves_token line column opens.start behind
  rw [shape] at sought
  obtain ⟨after, read, leavesAfter⟩ := readBlockEntries_layoutEntries
    (reader.moveTo ⟨c :: behind, line, column, true⟩) (fuel + 1) keys values inside follows leaves
    (by omega) []
  refine ⟨after, ?_, leavesAfter⟩
  have notOutside : (Place.mk (c :: behind) line column true).isOutside margin dashes = false := by
    rw [← written]
    simp [Place.isOutside, Place.atDocumentEnd, not_startsWithMarker_of_fitsPlain fits,
      Nat.not_lt.mpr inside]
  have readKey := readKey_plain margin line column fuel reader fits short
    (startsWithSpacing_layoutValue column value (layoutEntries column column rest ++ suffix))
  rw [written] at readKey
  rw [readBlockNode]
  simp only [Reader.seek, sought, Reader.moveTo] at readKey read ⊢
  simp [notOutside, opens.not_isAtIndicator, readKey, read, Reader.close_nothing]

/-! ## Nodes -/

theorem Node.ReadsInline.readsAsItem {node : Node} (inline : node.ReadsInline) :
    node.ReadsAsItem := by
  intro column line fuel suffix reader follows place enough
  obtain ⟨c, rest, written, start⟩ := inline.starts (column + 2)
  rw [written, List.length_cons] at enough
  obtain ⟨fuel, rfl⟩ : ∃ less, fuel = less + 3 := ⟨fuel - 3, by omega⟩
  refine inline.reads line (column + 2) fuel true (Nat.succ_pos column) (Nat.le_succ _) follows ?_
  rw [place, written, List.cons_append, Place.seek_space _ _ _ _ start]

theorem Node.ReadsInline.readsAsValue {node : Node} (inline : node.ReadsInline) :
    node.ReadsAsValue := by
  intro column line behind fuel suffix reader isBehind follows place enough
  obtain ⟨c, rest, written, start⟩ := inline.starts (column + 2)
  rw [inline.asValue, written, List.length_cons] at enough
  obtain ⟨fuel, rfl⟩ : ∃ less, fuel = less + 3 := ⟨fuel - 3, by omega⟩
  refine inline.reads line (behind + 1) fuel false (Nat.succ_pos column) (by omega) follows ?_
  rw [place, inline.asValue, written, List.cons_append, List.cons_append,
    Place.seek_space _ _ _ _ start]

/-- A legible scalar is written inline. -/
theorem readsInline_scalar {value : Scalar} (legible : value.Legible) :
    (Node.scalar value).ReadsInline where
  starts indent := by
    obtain ⟨c, rest, written, start⟩ := legible.starts indent
    exact ⟨c, rest, by rw [layout, written], start⟩
  asValue column := by rw [layout, layoutValue]
  reads line column fuel keyAllowed margin dashes suffix reader positive inside follows sought :=
    readBlockNode_scalar (fuel + 1) legible positive inside follows sought

/-- An empty sequence is written inline. -/
theorem readsInline_noItems : (Node.sequence []).ReadsInline where
  starts indent := ⟨'[', _, by rw [layout], by decide, by decide⟩
  asValue column := by rw [layout, layoutValue]
  reads line column fuel keyAllowed margin dashes suffix reader positive inside follows sought := by
    rw [layout] at sought
    have leaves := Place.leaves_lineFeed suffix
    exact ⟨_, readBlockNode_inline (.of_not_mem _ (by decide) (by decide)) (by decide) positive
      inside sought follows (leaves _ _ _) (readInline_noItems ('\n' :: suffix)), leaves _ _ _⟩

/-- An empty mapping is written inline. -/
theorem readsInline_noEntries : (Node.mapping []).ReadsInline where
  starts indent := ⟨'\x7b', _, by rw [layout], by decide, by decide⟩
  asValue column := by rw [layout, layoutValue]
  reads line column fuel keyAllowed margin dashes suffix reader positive inside follows sought := by
    rw [layout] at sought
    have leaves := Place.leaves_lineFeed suffix
    exact ⟨_, readBlockNode_inline (.of_not_mem _ (by decide) (by decide)) (by decide) positive
      inside sought follows (leaves _ _ _) (readInline_noEntries ('\n' :: suffix)), leaves _ _ _⟩

/-- A sequence with items starts behind the dash it is an item of, or below its key. -/
theorem reads_items {item : Node} {rest : List Node}
    (each : ∀ node ∈ item :: rest, node.ReadsAsItem) :
    (Node.sequence (item :: rest)).ReadsAsItem ∧ (Node.sequence (item :: rest)).ReadsAsValue := by
  constructor
  · intro column line fuel suffix reader follows place enough
    rw [layout] at place enough
    refine readBlockNode_items line (column + 2) each (.inl (Nat.le_succ _))
      follows ?_ enough
    rw [place, layoutItems, List.append_assoc, List.append_assoc]
    exact Place.seek_space _ _ _ _ ⟨by decide, by decide⟩ _
  · intro column line behind fuel suffix reader isBehind follows place enough
    rw [layoutValue, List.length_cons] at enough
    have shorter := length_layoutItems_le column column (item :: rest)
    refine readBlockNode_items (line + 1) column each (.inr ⟨rfl, rfl⟩) follows
      ?_ (by omega)
    rw [place, layoutValue, List.cons_append, Place.seek_eq, Place.seekFrom_lineFeed,
      layoutItems_margin, List.append_assoc, layoutItems]
    exact Place.seek_lineStart_token _ _ ⟨by decide, by decide⟩ _

/-- A mapping with entries starts behind the dash it is an item of, or below its key. -/
theorem reads_entries {entry : Node × Node} {rest : List (Node × Node)}
    (keys : ∀ each ∈ entry :: rest, each.1.LegibleKey)
    (values : ∀ each ∈ entry :: rest, each.2.ReadsAsValue) :
    (Node.mapping (entry :: rest)).ReadsAsItem ∧ (Node.mapping (entry :: rest)).ReadsAsValue := by
  have starts (indent : Nat) (suffix : List Char) : ∃ c behind,
      layoutEntries 0 indent (entry :: rest) ++ suffix = c :: behind ∧ IsTokenStart c := by
    have key := keys entry List.mem_cons_self
    obtain ⟨key, value⟩ := entry
    obtain @⟨text, fits, short⟩ := key
    obtain ⟨c, behind, written, -, opens⟩ := OpensNothing.of_fitsPlain fits
      (':' :: (value.layoutValue indent ++ (layoutEntries indent indent rest ++ suffix)))
    exact ⟨c, behind, by rw [layoutEntries_plain, written]; rfl, opens.start⟩
  constructor
  · intro column line fuel suffix reader follows place enough
    rw [layout] at place enough
    obtain ⟨c, behind, written, start⟩ := starts (column + 2) suffix
    refine readBlockNode_entries line (column + 2) keys values (Nat.le_succ _)
      follows ?_ enough
    rw [place, written, Place.seek_space _ _ _ _ start]
  · intro column line behind fuel suffix reader isBehind follows place enough
    rw [layoutValue, List.length_cons] at enough
    have shorter := length_layoutEntries_le (column + 2) (column + 2) (entry :: rest)
    obtain ⟨c, behind, written, start⟩ := starts (column + 2) suffix
    refine readBlockNode_entries (line + 1) (column + 2) keys values
      (Nat.le_succ _) follows ?_ (by omega)
    rw [place, layoutValue, List.cons_append, Place.seek_eq, Place.seekFrom_lineFeed,
      layoutEntries_margin, List.append_assoc, written, Place.seek_lineStart_token _ _ start]

/-- A legible node is read back, as an item and as a value. -/
theorem Node.Legible.reads {node : Node} (legible : node.Legible) :
    node.ReadsAsItem ∧ node.ReadsAsValue := by
  induction legible with
  | scalar legible =>
    have inline := readsInline_scalar legible
    exact ⟨inline.readsAsItem, inline.readsAsValue⟩
  | @sequence items each inductionHypothesis =>
    cases items with
    | nil => exact ⟨readsInline_noItems.readsAsItem, readsInline_noItems.readsAsValue⟩
    | cons item rest => exact reads_items fun node member => (inductionHypothesis node member).1
  | @mapping entries keys values inductionHypothesis =>
    cases entries with
    | nil => exact ⟨readsInline_noEntries.readsAsItem, readsInline_noEntries.readsAsValue⟩
    | cons entry rest =>
      exact reads_entries keys fun each member => (inductionHypothesis each member).2

end Reading

end RoomLayout.Yaml
