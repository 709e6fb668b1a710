import RoomLayout.Proofs.Stitching.Survivors
import RoomLayout.Room.Tiling
import RoomLayout.Session.Config

/-!
# Quads that many rooms share

The rooms that share one quad lose it two by two, in placement order: the pass visits two
neighbors in this order before either of them meets a room of a later pair, and after the
visit neither has anything left that another room could match. So of an odd number of rooms
the last one keeps the quad, and which polygons survive depends on how many rooms share
them.
-/

namespace RoomLayout.Level

variable {α : Type} [Coordinate α]

/-- Rooms that share one quad: at ascending positions, each with a copy of it that matches the
copies of the others and nothing else. -/
structure SharedBy (level : Level α) (tolerance : α) (count : Nat) (position : Nat → Nat)
    (copy : Nat → Polygon α) : Prop where
  ascending : ∀ m m', m < m' → m' < count → position m < position m'
  present : ∀ m < count, level.HasAt (position m) (copy m)
  matched : ∀ m m', m < m' → m' < count →
    level.Matches tolerance (position m) (copy m) (position m') (copy m')
  closed : ∀ m < count, ∀ j q, level.Matches tolerance (position m) (copy m) j q →
    level.HasAt j q → ∃ m' < count, j = position m' ∧ q = copy m'

namespace SharedBy

/-- The holder that a holder goes with: the holders pair up in order. -/
def partner (m : Nat) : Nat := if m % 2 = 0 then m + 1 else m - 1

theorem partner_partner (m : Nat) : partner (partner m) = m := by
  unfold partner
  split <;> split <;> omega

theorem partner_ne (m : Nat) : partner m ≠ m := by
  unfold partner
  split <;> omega

theorem partner_div (m : Nat) : partner m / 2 = m / 2 := by
  unfold partner
  split <;> omega

/-- A pair consists of two partners. -/
theorem eq_or_eq_partner {m m' : Nat} (samePair : m' / 2 = m / 2) : m' = m ∨ m' = partner m := by
  unfold partner
  split <;> omega

variable {tolerance : α} {level : Level α} {count : Nat} {position : Nat → Nat}
  {copy : Nat → Polygon α} (shared : level.SharedBy tolerance count position copy)

include shared

/-- The step on two holders. -/
theorem visit_eq {m m' : Nat} (ascending : m < m') (inRange : m' < count) :
    visit (position m) (position m') = (position m, position m') := by
  have positions := shared.ascending m m' ascending inRange
  rw [visit, Nat.min_eq_left (Nat.le_of_lt positions), Nat.max_eq_right (Nat.le_of_lt positions)]

/-- Partners meet before either of them meets a holder of a later pair. -/
theorem partner_precedes {m m' : Nat} (laterPair : m / 2 < m' / 2) (inRange : m' < count) :
    Precedes (visit (position m) (position (partner m))) (visit (position m) (position m')) := by
  rw [shared.visit_eq (by omega : m < m') inRange]
  unfold partner
  split
  · next even =>
    rw [shared.visit_eq (by omega : m < m + 1) (by omega)]
    exact .inr ⟨rfl, shared.ascending _ _ (by omega) inRange⟩
  · next odd =>
    rw [visit_comm, shared.visit_eq (by omega : m - 1 < m) (by omega)]
    exact .inl (shared.ascending _ _ (by omega) (by omega))

/-- Two holders match. -/
theorem matched_of_ne {m m' : Nat} (different : m ≠ m') (inRange : m < count)
    (inRange' : m' < count) :
    level.Matches tolerance (position m) (copy m) (position m') (copy m') := by
  rcases Nat.lt_or_gt_of_ne different with ascending | descending
  · exact shared.matched m m' ascending inRange'
  · exact (shared.matched m' m descending inRange).symm

/-- When holders of two pairs meet, the earlier pair has met. -/
theorem partner_met {m m' : Nat} (laterPair : m / 2 < m' / 2) (inRange : m' < count)
    {earlier : List (Nat × Nat)}
    (meeting : earlier ++ [visit (position m) (position m')] <+: pairs level.length) :
    partner m < count ∧ visit (position m) (position (partner m)) ∈ earlier := by
  have samePair := partner_div m
  have partnerInRange : partner m < count := by omega
  have matched := shared.matched_of_ne (partner_ne m).symm (by omega) partnerInRange
  exact ⟨partnerInRange, mem_earlier_of_precedes meeting matched.visit_mem_pairs
    (shared.partner_precedes laterPair inRange)⟩

/-- A holder that has not met its partner keeps its copy, if the holders of earlier pairs lose
theirs when they meet. -/
theorem hasAt_of_not_met {m : Nat} (inRange : m < count) {steps : List (Nat × Nat)}
    (part : steps <+: pairs level.length)
    (lost : ∀ m' < count, m' / 2 < m / 2 → ∀ earlier, earlier <+: pairs level.length →
      partner m' < count ∧ visit (position m') (position (partner m')) ∈ earlier →
      ¬ (stitchAlong tolerance earlier level).1.HasAt (position m') (copy m'))
    (notMet : ¬ (partner m < count ∧ visit (position m) (position (partner m)) ∈ steps)) :
    (stitchAlong tolerance steps level).1.HasAt (position m) (copy m) := by
  rw [hasAt_stitchAlong_iff (ascending_of_isPrefix part)]
  refine ⟨shared.present m inRange, fun earlier j q visited matched still => ?_⟩
  have meeting := visited.trans part
  have partEarlier : earlier <+: pairs level.length := (List.prefix_append _ _).trans meeting
  obtain ⟨m', inRange', rfl, rfl⟩ := shared.closed m inRange j q matched
    (still.of_stitchAlong (ascending_of_isPrefix partEarlier))
  rcases Nat.lt_trichotomy (m' / 2) (m / 2) with earlierPair | samePair | laterPair
  · rw [visit_comm] at meeting
    exact lost m' inRange' earlierPair earlier partEarlier
      (shared.partner_met earlierPair inRange meeting) still
  · rcases eq_or_eq_partner samePair with rfl | rfl
    · exact matched.ne rfl
    · exact notMet ⟨inRange', visited.subset (List.mem_append_right _ (List.mem_singleton_self _))⟩
  · obtain ⟨partnerInRange, met⟩ := shared.partner_met laterPair inRange' meeting
    exact notMet ⟨partnerInRange, ((List.prefix_append _ _).trans visited).subset met⟩

/-- A holder keeps its copy until it meets its partner. -/
theorem hasAt_stitchAlong_iff_not_met {m : Nat} (inRange : m < count) {steps : List (Nat × Nat)}
    (part : steps <+: pairs level.length) :
    (stitchAlong tolerance steps level).1.HasAt (position m) (copy m)
      ↔ ¬ (partner m < count ∧ visit (position m) (position (partner m)) ∈ steps) := by
  -- The induction is on the pair that the holder is in.
  induction ofPair : m / 2 using Nat.strong_induction_on generalizing m steps with
  | _ pair inductionHypothesis =>
    have lost : ∀ m' < count, m' / 2 < pair → ∀ earlier, earlier <+: pairs level.length →
        partner m' < count ∧ visit (position m') (position (partner m')) ∈ earlier →
        ¬ (stitchAlong tolerance earlier level).1.HasAt (position m') (copy m') :=
      fun m' inRange' earlierPair earlier part met still =>
        (inductionHypothesis _ earlierPair inRange' part rfl).mp still met
    subst ofPair
    refine ⟨?_, shared.hasAt_of_not_met inRange part lost⟩
    rintro survives ⟨partnerInRange, met⟩
    -- The partner has not met any holder but those of earlier pairs, so it is there to be met.
    obtain ⟨earlier, meeting, firstMeeting⟩ := exists_first_of_mem met
    have partnerKeeps : (stitchAlong tolerance earlier level).1.HasAt (position (partner m))
        (copy (partner m)) := by
      refine shared.hasAt_of_not_met partnerInRange
        ((List.prefix_append _ _).trans (meeting.trans part))
        (partner_div m ▸ lost) ?_
      rw [partner_partner, visit_comm]
      exact fun metEarlier => firstMeeting metEarlier.2
    exact ((hasAt_stitchAlong_iff (ascending_of_isPrefix part)).mp survives).2 earlier _ _ meeting
      (shared.matched_of_ne (partner_ne m).symm inRange partnerInRange) partnerKeeps

/-- Of the rooms that share one quad all lose it, except for the last of an odd number. -/
theorem hasAt_stitch_iff_last {m : Nat} (inRange : m < count) :
    (level.stitch tolerance).1.HasAt (position m) (copy m) ↔ m + 1 = count ∧ count % 2 = 1 := by
  rw [stitch_eq_stitchAlong, shared.hasAt_stitchAlong_iff_not_met inRange (List.prefix_refl _)]
  constructor
  · intro notMet
    have noPartner : ¬ partner m < count := fun partnerInRange => notMet ⟨partnerInRange,
      (shared.matched_of_ne (partner_ne m).symm inRange partnerInRange).visit_mem_pairs⟩
    unfold partner at noPartner
    split at noPartner
    · omega
    · omega
  · rintro ⟨last, odd⟩ ⟨partnerInRange, -⟩
    unfold partner at partnerInRange
    split at partnerInRange
    · omega
    · omega

end SharedBy

/-- What the pass leaves of the polygons of a level. -/
structure Survivors (level : Level α) (tolerance : α) : Prop where
  /-- A polygon stays if it meets no counterpart. -/
  in_order : ∀ i p, (level.stitch tolerance).1.HasAt i p
    ↔ level.HasAt i p ∧ ¬ level.MeetsCounterpart tolerance i p
  /-- The level as it was decides about a polygon exactly where having a counterpart means
  meeting one. -/
  as_it_was : ∀ i p, level.HasAt i p →
    (((level.stitch tolerance).1.HasAt i p ↔ ¬ level.HasCounterpart tolerance i p)
      ↔ (level.HasCounterpart tolerance i p → level.MeetsCounterpart tolerance i p))
  /-- It does so where no third room comes into play. -/
  between_two : ∀ i p, level.HasAt i p →
    (∀ j q, level.Matches tolerance i p j q → level.HasAt j q →
      ∀ k r, level.Matches tolerance j q k r → level.HasAt k r → k = i) →
    ((level.stitch tolerance).1.HasAt i p ↔ ¬ level.HasCounterpart tolerance i p)
  /-- Of the rooms that share one quad all lose it, except for the last of an odd number. -/
  among_many : ∀ count position copy, level.SharedBy tolerance count position copy →
    ∀ m < count, ((level.stitch tolerance).1.HasAt (position m) (copy m)
      ↔ m + 1 = count ∧ count % 2 = 1)

/-- Stitching deletes a polygon when its room is visited together with a room that still has
a counterpart of it. Between two rooms that is to have a counterpart in the level as it was;
among more rooms it depends on their number. -/
theorem stitch_survivors (tolerance : α) (level : Level α) : level.Survivors tolerance where
  in_order _ _ := hasAt_stitch_iff
  as_it_was i p present := by
    have met : level.MeetsCounterpart tolerance i p → level.HasCounterpart tolerance i p :=
      MeetsCounterpart.hasCounterpart
    rw [hasAt_stitch_iff, and_iff_right present, not_iff_not]
    exact ⟨Iff.mpr, fun meets => ⟨met, meets⟩⟩
  between_two i p present paired := by
    rw [hasAt_stitch_iff, and_iff_right present, not_iff_not]
    refine ⟨MeetsCounterpart.hasCounterpart, ?_⟩
    rintro ⟨j, q, matched, counterpart⟩
    exact meetsCounterpart_of_paired matched counterpart (paired j q matched counterpart)
  among_many _ _ _ shared _ inRange := shared.hasAt_stitch_iff_last inRange

/-- Three rooms that consist of the same floor: the third one keeps it, although the first one
had a counterpart. Of four such rooms none keeps it. -/
theorem third_room_keeps_floor :
    let room : Room Float := Room.build 100 Vec3.zero ⟨100, 100, 100⟩
      (Surfaces.setAll {} (.ceiling :: Face.walls) .removed)
    let three : Level Float := [room, room, room]
    let four : Level Float := [room, room, room, room]
    room.polygons.length = 1
      ∧ (∀ p ∈ room.polygons, three.HasCounterpart defaultTolerance 2 p
        ∧ (three.stitch defaultTolerance).1.HasAt 2 p)
      ∧ (three.stitch defaultTolerance).1.map (·.polygons.length) = [0, 0, 1]
      ∧ (four.stitch defaultTolerance).1.map (·.polygons.length) = [0, 0, 0, 0] := by
  intro room three four
  have shared : ∀ p ∈ room.polygons, Shared room room defaultTolerance p p := by decide +kernel
  have third : (three.stitch defaultTolerance).1[2]? = some room := by decide +kernel
  refine ⟨by decide +kernel, ?_, by decide +kernel, by decide +kernel⟩
  intro p member
  have matched : three.Matches defaultTolerance 2 p 0 p :=
    ⟨room, room, rfl, rfl, .inr ⟨by decide, shared p member⟩⟩
  exact ⟨⟨0, p, matched, room, rfl, member⟩, room, third, member⟩

end RoomLayout.Level
