import RoomLayout.Yaml.Document
import RoomLayout.Proofs.Yaml.Collections

/-!
# Documents

A legible mapping is read back from its text (`Node.ofText?_toText`). Only printable
characters are written, so that nothing of the text is taken for a foreign line end or for
the mark of a byte order, and the first key is neither a directive nor a line between
documents.
-/

namespace RoomLayout.Yaml

/-! ## What is written is printable -/

/-- Only printable characters stand in a text. -/
abbrev Printable (text : List Char) : Prop := ∀ c ∈ text, isPrintable c = true

namespace Printable

theorem nil : Printable [] := nofun

/-- On a closed text the characters are checked one by one. -/
theorem of_all {text : List Char} (all : text.all isPrintable = true) : Printable text :=
  List.all_eq_true.mp all

theorem cons {c : Char} {text : List Char} (first : isPrintable c = true) (rest : Printable text) :
    Printable (c :: text) :=
  List.forall_mem_cons.mpr ⟨first, rest⟩

theorem append {text further : List Char} (here : Printable text) (there : Printable further) :
    Printable (text ++ further) :=
  List.forall_mem_append.mpr ⟨here, there⟩

theorem spaces (count : Nat) : Printable (spaces count) := by
  intro c member
  rw [(List.mem_replicate.mp member).2]
  decide

end Printable

/-- Hexadecimal digits are printable. -/
theorem isPrintable_of_digitValue {c : Char} (digit : digitValue c < 16) :
    isPrintable c = true := by
  rw [digitValue] at digit
  split at digit
  · next number => exact isPrintable_of_range number (by decide)
  · split at digit
    · next small => exact isPrintable_of_range small (by decide)
    · split at digit
      · next capital =>
        exact isPrintable_of_range ((Bool.decide_and _ _).symm.trans capital) (by decide)
      · exact absurd digit (by decide)

theorem printable_hexadecimal (width count : Nat) : Printable (hexadecimal width count) := by
  refine .append (fun c member => ?_) fun c member =>
    isPrintable_of_digitValue ((hexadecimalValue_toDigits count).2 c member)
  rw [(List.mem_replicate.mp member).2]
  decide

theorem printable_quotedCharacter (c : Char) : Printable (quotedCharacter c) := by
  have letters : ∀ entry ∈ letterEscapes, isPrintable entry.1 = true := by decide
  rw [quotedCharacter]
  split
  · next plain =>
    have printable : isPrintable c = true := by
      simp only [needsEscape, Bool.not_or, Bool.not_not, Bool.and_eq_true] at plain
      exact plain.1.1.1
    exact .cons printable .nil
  · split
    · next letter lettered =>
      obtain ⟨entry, found, rfl⟩ := Option.map_eq_some_iff.mp lettered
      exact .cons (by decide) (.cons (letters entry (List.mem_of_find?_eq_some found)) .nil)
    · split
      · exact .cons (by decide) (.cons (by decide) (printable_hexadecimal _ _))
      · split <;> exact .cons (by decide) (.cons (by decide) (printable_hexadecimal _ _))

theorem printable_singleQuotedBody (indent : Nat) (afterBreak : Bool) {text : List Char}
    (printable : Printable text) : Printable (singleQuotedBody indent afterBreak text) := by
  have margin : Printable (if afterBreak then spaces indent else []) := by
    split
    · exact .spaces indent
    · exact .nil
  induction text generalizing afterBreak with
  | nil => exact margin
  | cons c rest inductionHypothesis =>
    obtain ⟨first, rest⟩ := List.forall_mem_cons.mp printable
    rw [singleQuotedBody]
    split
    · exact .cons first (inductionHypothesis true rest (.spaces indent))
    · refine .append (.append margin ?_) (inductionHypothesis false rest .nil)
      split
      · exact .cons (by decide) (.cons (by decide) .nil)
      · exact .cons first .nil

theorem printable_literalBody (indent : Nat) (afterBreak : Bool) {text : List Char}
    (printable : Printable text) : Printable (literalBody indent afterBreak text) := by
  induction text generalizing afterBreak with
  | nil =>
    rw [literalBody]
    split <;> exact .of_all (by decide)
  | cons c rest inductionHypothesis =>
    obtain ⟨first, rest⟩ := List.forall_mem_cons.mp printable
    rw [literalBody]
    split
    · exact .cons first (inductionHypothesis true rest)
    · refine .append ?_ (.cons first (inductionHypothesis false rest))
      split
      · exact .spaces indent
      · exact .nil

theorem printable_literalHeader (text : List Char) : Printable (literalHeader text) := by
  refine .cons (by decide) (.append ?_ ?_)
  · split
    · exact .nil
    · split <;> exact .of_all (by decide)
  · split
    · exact .of_all (by decide)
    · split <;> exact .of_all (by decide)
    · split
      · exact .of_all (by decide)
      · split <;> exact .of_all (by decide)

/-- What is written for a legible scalar is printable. -/
theorem Scalar.Legible.printable {value : Scalar} (legible : value.Legible) (indent : Nat) :
    Printable (value.layout indent) := by
  have lineFeed : Printable ['\n'] := .cons (by decide) .nil
  cases legible with
  | plain fits => exact .append (plainRest_of_fitsPlain fits).printable lineFeed
  | singleQuoted fits _ =>
    have text := List.all_eq_true.mp (Bool.and_eq_true_iff.mp fits).1
    exact .cons (by decide) (.append (printable_singleQuotedBody indent false text)
      (.cons (by decide) lineFeed))
  | doubleQuoted =>
    refine .cons (by decide) (.append (fun c member => ?_) (.cons (by decide) lineFeed))
    obtain ⟨d, -, member⟩ := List.mem_flatMap.mp member
    exact printable_quotedCharacter d c member
  | @literal text fits _ =>
    have text : Printable text.toList := by
      simp only [fitsLiteral, isWritable, Bool.and_eq_true, List.all_eq_true] at fits
      exact fits.1.1
    exact .append (printable_literalHeader _)
      (.cons (by decide) (printable_literalBody indent true text))

open Node

theorem printable_layoutItems {items : List Node}
    (each : ∀ item ∈ items, ∀ indent, Printable (item.layout indent)) (margin indent : Nat) :
    Printable (layoutItems margin indent items) := by
  induction items generalizing margin with
  | nil =>
    rw [layoutItems]
    exact .nil
  | cons item rest inductionHypothesis =>
    rw [layoutItems]
    have dash : isPrintable '-' = true := by decide
    have space : isPrintable ' ' = true := by decide
    exact .append (.append (.spaces margin) (.cons dash (.cons space
      (each item List.mem_cons_self _)))) (inductionHypothesis
        (fun item member => each item (List.mem_cons_of_mem _ member)) indent)

theorem printable_layoutEntries {entries : List (Node × Node)}
    (keys : ∀ entry ∈ entries, entry.1.LegibleKey)
    (values : ∀ entry ∈ entries, ∀ indent, Printable (entry.2.layoutValue indent))
    (margin indent : Nat) : Printable (layoutEntries margin indent entries) := by
  induction entries generalizing margin with
  | nil =>
    rw [layoutEntries]
    exact .nil
  | cons entry rest inductionHypothesis =>
    obtain ⟨key, value⟩ := entry
    obtain @⟨text, fits, -⟩ := keys _ List.mem_cons_self
    have written := layoutEntries_plain margin indent text value rest []
    rw [List.append_nil, List.append_nil] at written
    rw [written]
    have colon : isPrintable ':' = true := by decide
    exact .append (.spaces margin) (.append (plainRest_of_fitsPlain fits).printable (.cons colon
      (.append (values _ List.mem_cons_self indent) (inductionHypothesis
        (fun entry member => keys entry (List.mem_cons_of_mem _ member))
        (fun entry member => values entry (List.mem_cons_of_mem _ member)) indent))))

/-- What is written for a legible node is printable. -/
theorem Node.Legible.printable {node : Node} (legible : node.Legible) :
    (∀ indent, Printable (node.layout indent)) ∧ ∀ indent, Printable (node.layoutValue indent) := by
  have space : isPrintable ' ' = true := by decide
  have lineFeed : isPrintable '\n' = true := by decide
  induction legible with
  | scalar legible =>
    constructor
    · intro indent
      rw [layout]
      exact legible.printable indent
    · intro indent
      rw [layoutValue]
      exact .cons space (legible.printable (indent + 2))
  | @sequence items each inductionHypothesis =>
    have items' := printable_layoutItems fun item member => (inductionHypothesis item member).1
    cases items with
    | nil =>
      constructor
      · intro indent
        rw [layout]
        exact .of_all (by decide)
      · intro indent
        rw [layoutValue]
        exact .of_all (by decide)
    | cons item rest =>
      constructor
      · intro indent
        rw [layout]
        exact items' 0 indent
      · intro indent
        rw [layoutValue]
        exact .cons lineFeed (items' indent indent)
  | @mapping entries keys values inductionHypothesis =>
    have entries' := printable_layoutEntries keys fun entry member =>
      (inductionHypothesis entry member).2
    cases entries with
    | nil =>
      constructor
      · intro indent
        rw [layout]
        exact .of_all (by decide)
      · intro indent
        rw [layoutValue]
        exact .of_all (by decide)
    | cons entry rest =>
      constructor
      · intro indent
        rw [layout]
        exact entries' 0 indent
      · intro indent
        rw [layoutValue]
        exact .cons lineFeed (entries' (indent + 2) (indent + 2))

/-! ## Documents -/

/-- Printable characters are allowed in a text. -/
theorem isAllowed_of_isPrintable {c : Char} (printable : isPrintable c = true) :
    isAllowed c = true := by
  simp only [isPrintable, Bool.or_eq_true, Bool.and_eq_true, decide_eq_true_eq] at printable
  simp only [isAllowed, Bool.or_eq_true, Bool.and_eq_true, decide_eq_true_eq]
  rcases printable with ((lineFeed | ascii) | low) | high
  · simp [lineFeed]
  · simp [ascii]
  · have high : c ≤ '\ufffd' := Char.le_trans low.2 (by decide)
    simp [low.1, high]
  · have low : '\xa0' ≤ c := Char.le_trans (by decide) high.1.1
    simp [low, high.1.2]

/-- The only line end in a printable text is the line feed. -/
theorem unifyBreaks_of_printable {text : List Char} (printable : Printable text) :
    unifyBreaks text = text := by
  have kept (reversed : List Char) : text.foldl (fun (state : List Char × Bool) c =>
      if c = '\n' && state.2 then (state.1, false)
      else if c = '\r' then ('\n' :: state.1, true)
      else if c = '\x85' then ('\n' :: state.1, false)
      else (c :: state.1, false)) (reversed, false) = (text.reverse ++ reversed, false) := by
    induction text generalizing reversed with
    | nil => rfl
    | cons c rest inductionHypothesis =>
      obtain ⟨first, rest⟩ := List.forall_mem_cons.mp printable
      have noReturn : c ≠ '\r' := by rintro rfl; exact absurd first (by decide)
      have noNextLine : c ≠ '\x85' := by rintro rfl; exact absurd first (by decide)
      rw [List.foldl_cons]
      simp only [Bool.and_false, Bool.false_eq_true, noReturn, noNextLine, if_false]
      rw [inductionHypothesis rest]
      simp
  rw [unifyBreaks, kept]
  simp

/-- No printable text starts with the mark of a byte order. -/
theorem dropByteOrderMark_of_printable {text : List Char} (printable : Printable text) :
    dropByteOrderMark text = text := by
  cases text with
  | nil => rfl
  | cons c rest =>
    have noMark : c ≠ '\ufeff' := by
      rintro rfl
      exact absurd (printable _ List.mem_cons_self) (by decide)
    unfold dropByteOrderMark
    split
    · next same => exact absurd (List.cons.inj same).1 noMark
    · rfl

/-- A text without quotes is a token. -/
theorem Place.seek_fitsPlain {text : List Char} (fits : fitsPlain text = true) (inFlow : Bool)
    (line column : Nat) (keyAllowed : Bool) (behind : List Char) :
    (Place.mk (text ++ behind) line column keyAllowed).seek inFlow
      = ⟨text ++ behind, line, column, keyAllowed⟩ := by
  obtain ⟨c, rest, written, -, opens⟩ := OpensNothing.of_fitsPlain fits behind
  rw [written]
  exact Place.seekFrom_token _ _ _ _ opens.start rest

/-- A document that starts with a text without quotes has neither directives nor a line
before it. -/
theorem documentStart_plain {text : List Char} (fits : fitsPlain text = true) (fuel : Nat)
    (behind : List Char) :
    documentStart fuel (text ++ ':' :: behind)
      = some { place := ⟨text ++ ':' :: behind, 0, 0, true⟩, handles := standardHandles } := by
  have first : (Place.start (text ++ ':' :: behind)).seek false
      = ⟨text ++ ':' :: behind, 0, 0, true⟩ := Place.seek_fitsPlain fits false 0 0 true _
  obtain ⟨c, rest, written, starts, opens⟩ := OpensNothing.of_fitsPlain fits (':' :: behind)
  have noMarker := not_startsWithMarker_of_fitsPlain fits ':' (by decide) (by decide) behind
  rw [written] at first noMarker ⊢
  have noDirective : c ≠ '%' := by
    obtain ⟨-, noReserved⟩ := noSpacing_noReserved_of_startsPlain starts
    simp only [isReserved, Bool.or_eq_false_iff, decide_eq_false_iff_not] at noReserved
    simp [noReserved]
  simp [documentStart, first, Place.isAt, noDirective, noMarker]

/-- Nothing is left behind a node that is followed by nothing. -/
theorem isOver_of_leaves {place : Place} (leaves : place.Leaves []) (fuel : Nat) :
    isOver (fuel + 1) place = true := by
  obtain ⟨line, sought⟩ := leaves
  rw [isOver, sought]
  rfl

/-- The text of a legible mapping with entries holds one document, that mapping. -/
theorem readDocument_mapping {entry : Node × Node} {rest : List (Node × Node)}
    (keys : ∀ each ∈ entry :: rest, each.1.LegibleKey)
    (values : ∀ each ∈ entry :: rest, each.2.ReadsAsValue) :
    readDocument (layoutEntries 0 0 (entry :: rest)) = some (.mapping (entry :: rest)) := by
  obtain ⟨start, sought⟩ : (∀ fuel, documentStart fuel (layoutEntries 0 0 (entry :: rest))
        = some { place := ⟨layoutEntries 0 0 (entry :: rest), 0, 0, true⟩,
                 handles := standardHandles })
      ∧ (Place.mk (layoutEntries 0 0 (entry :: rest)) 0 0 true).seek false
        = ⟨layoutEntries 0 0 (entry :: rest), 0, 0, true⟩ := by
    have key := keys entry List.mem_cons_self
    obtain ⟨key, value⟩ := entry
    obtain @⟨name, fits, -⟩ := key
    have shape := layoutEntries_plain 0 0 name value rest []
    rw [List.append_nil, List.append_nil] at shape
    rw [shape]
    exact ⟨fun fuel => documentStart_plain fits fuel _, Place.seek_fitsPlain fits false 0 0 true _⟩
  generalize written : layoutEntries 0 0 (entry :: rest) = text at start sought ⊢
  have follows : Follows 0 false [] := .nothing
  have enough : (layoutEntries 0 0 (entry :: rest)).length + 2 ≤ 8 * (text.length + 1) := by
    rw [written]
    omega
  have atFirstKey : ({ place := ⟨text, 0, 0, true⟩, handles := standardHandles }
      : Reader).place.seek false = ⟨layoutEntries 0 0 (entry :: rest) ++ [], 0, 0, true⟩ := by
    rw [List.append_nil, written, sought]
  obtain ⟨after, read, leaves⟩ := readBlockNode_entries 0 0 keys values (Nat.le_refl 0) follows
    atFirstKey enough
  simp only [readDocument, start, Option.bind_eq_bind, Option.bind_some, read]
  exact if_pos (isOver_of_leaves leaves _)

/-- A legible mapping is read back from its text. -/
theorem Node.ofText?_toText {entries : List (Node × Node)} (legible : (mapping entries).Legible)
    (nonempty : entries ≠ []) : Node.ofText? (mapping entries).toText = some (mapping entries) := by
  have printable := legible.printable.1 0
  have allowed : (layout 0 (mapping entries)).all isAllowed = true :=
    List.all_eq_true.mpr fun c member => isAllowed_of_isPrintable (printable c member)
  rw [Node.ofText?, toText, String.toList_ofList, dropByteOrderMark_of_printable printable]
  simp only [allowed, if_true]
  rw [unifyBreaks_of_printable printable]
  obtain - | - | ⟨keys, values⟩ := legible
  obtain ⟨entry, rest, rfl⟩ := List.exists_cons_of_ne_nil nonempty
  rw [layout]
  exact readDocument_mapping keys fun each member => (values each member).reads.2

end RoomLayout.Yaml
