import Lending.Time.Moment
import Lending.Proofs.Except
import Lending.Proofs.Time.Changes

/-!
# Clocks that are never changed

Moments of one zone are compared by their wall clocks, others by the instants that they denote, and
where clocks are changed the two orders differ. In a zone whose clocks are never changed a wall
clock and its instant are always the same distance apart. Then there is one order, that of the
instants, and a date is a span of instants that is followed by that of the next date.

## Main definitions

* `Zone.wallAt` — what clocks that are never changed show at an instant

## Main results

* `Moment.le_iff_instant`, `Moment.lt_iff_instant` — the order of moments is that of instants
* `Moment.wall_of_inZone`, `Moment.wallAt_showing` — instants by what the clocks of a zone show
* `Moment.mem_of_latest?`, `Moment.mem_of_earliest?` — a last or first moment is one of the list
* `Moment.latest?_eq_some`, `Moment.earliest?_eq_some` — the last and first of some moments
-/

namespace Lending

/-! ## Zones -/

namespace Zone

/-- What clocks that are never changed show at an instant. -/
def wallAt (zone : Zone) (instant : Int) : Int := instant + zone.standardOffset * 1000000

end Zone

namespace Moment

variable {zone : Zone} {a b m : Moment}

/-! ## The order of moments -/

/-- A moment's wall clock is what the clocks of its zone show at its instant. -/
theorem wallAt_instant (never : m.zone.NeverChanges) :
    m.zone.wallAt m.instant = m.wall.micros := by
  simp only [Zone.wallAt, instant, offset, never.interpretation_eq_standardOffset]
  omega

/-- Moments are as far apart as their instants if the clocks of one of them are never changed. -/
theorem since_eq_sub (never : a.zone.NeverChanges) : a.since b = a.instant - b.instant := by
  unfold since
  split
  · next same =>
    -- within one zone wall clocks are subtracted, and both are equally far from their instants
    have ha := wallAt_instant never
    have hb := wallAt_instant (m := b) (same ▸ never)
    rw [Zone.wallAt] at ha hb
    rw [same] at ha
    omega
  · rfl

theorem le_iff_instant (never : a.zone.NeverChanges) : a ≤ b ↔ a.instant ≤ b.instant := by
  rw [le_def, since_eq_sub never]
  omega

theorem lt_iff_instant (never : a.zone.NeverChanges) : a < b ↔ a.instant < b.instant := by
  rw [lt_def, since_eq_sub never]
  omega

theorem le_iff_instant_right (never : b.zone.NeverChanges) : a ≤ b ↔ a.instant ≤ b.instant := by
  rw [← not_lt, lt_iff_instant never]
  omega

/-! ## Instants by the clock -/

/-- A clock in a zone that is never changed shows a moment at the zone's distance. -/
theorem wall_of_inZone {shown : Moment} (never : zone.NeverChanges)
    (h : m.inZone zone = .ok shown) : (shown.wall.micros : Int) = zone.wallAt m.instant := by
  have there := inZone_eq_ok.mp h
  obtain rfl := zone_of_inZone? there
  rw [← instant_of_inZone? there, wallAt_instant never]

/-- A time on a date, by the clocks of a zone. -/
theorem wallAt_showing (never : zone.NeverChanges) (date : Date) (time : TimeOfDay) :
    zone.wallAt (showing date time zone).instant = date.ordinal * 86400000000 + time.micros := by
  have shows := wallAt_instant (m := showing date time zone) never
  rw [zone_showing] at shows
  rw [shows, wall_showing]
  simp only [WallClock.showing]
  omega

theorem showing_le_iff (never : zone.NeverChanges) (date : Date) (time : TimeOfDay) (t : Int) :
    (showing date time zone).instant ≤ t ↔
      (date.ordinal : Int) * 86400000000 + time.micros ≤ zone.wallAt t := by
  rw [← wallAt_showing never, Zone.wallAt, Zone.wallAt]
  omega

theorem le_showing_iff (never : zone.NeverChanges) (date : Date) (time : TimeOfDay) (t : Int) :
    t ≤ (showing date time zone).instant ↔
      zone.wallAt t ≤ date.ordinal * 86400000000 + time.micros := by
  rw [← wallAt_showing never, Zone.wallAt, Zone.wallAt]
  omega

/-- A moment falls on the date that the clocks of the zone show at its instant. -/
theorem ordinal_of_dateIn {date : Date} (never : zone.NeverChanges)
    (fallsOn : m.dateIn zone = .ok date) :
    (date.ordinal : Int) * 86400000000 ≤ zone.wallAt m.instant ∧
      zone.wallAt m.instant < (date.ordinal + 1) * 86400000000 := by
  obtain ⟨shown, there, rfl⟩ := Option.map_eq_some_iff.mp (Fault.require_eq_ok.mp fallsOn)
  rw [← wall_of_inZone never (inZone_eq_ok.mpr there)]
  simp only [WallClock.date]
  omega

/-- What clocks show on an earlier date than that of a moment is before the moment. -/
theorem showing_lt_of_date_lt {date earlier : Date} (never : zone.NeverChanges)
    (fallsOn : m.dateIn zone = .ok date) (before : earlier < date) (time : TimeOfDay) :
    (showing earlier time zone).instant < m.instant := by
  have shows := wallAt_showing never earlier time
  have onDate := (ordinal_of_dateIn never fallsOn).1
  have inDay := time.inRange
  rw [Date.lt_def] at before
  unfold Zone.wallAt at *
  omega

/-- What clocks show on a later date than that of a moment is after the moment. -/
theorem lt_showing_of_date_lt {date later : Date} (never : zone.NeverChanges)
    (fallsOn : m.dateIn zone = .ok date) (after : date < later) (time : TimeOfDay) :
    m.instant < (showing later time zone).instant := by
  have shows := wallAt_showing never later time
  have onDate := (ordinal_of_dateIn never fallsOn).2
  rw [Date.lt_def] at after
  unfold Zone.wallAt at *
  omega

/-! ## The last and the first of some moments -/

theorem later_eq_or (a b : Moment) : later a b = a ∨ later a b = b := by
  unfold later
  split <;> simp

theorem earlier_eq_or (a b : Moment) : earlier a b = a ∨ earlier a b = b := by
  unfold earlier
  split <;> simp

/-- The later of two moments is the one of the greater instant. -/
theorem later_cases (never : a.zone.NeverChanges) (b : Moment) :
    (later a b = a ∨ later a b = b) ∧
      a.instant ≤ (later a b).instant ∧ b.instant ≤ (later a b).instant := by
  unfold later
  split
  · next after =>
    rw [lt_iff_instant never] at after
    exact ⟨.inr rfl, by omega, by omega⟩
  · next notAfter =>
    rw [lt_iff_instant never] at notAfter
    exact ⟨.inl rfl, by omega, by omega⟩

/-- The earlier of two moments is the one of the lesser instant. -/
theorem earlier_cases (a : Moment) (never : b.zone.NeverChanges) :
    (earlier a b = a ∨ earlier a b = b) ∧
      (earlier a b).instant ≤ a.instant ∧ (earlier a b).instant ≤ b.instant := by
  unfold earlier
  split
  · next before =>
    rw [lt_iff_instant never] at before
    exact ⟨.inr rfl, by omega, by omega⟩
  · next notBefore =>
    rw [lt_iff_instant never] at notBefore
    exact ⟨.inl rfl, by omega, by omega⟩

/-- If one of two moments is picked that neither exceeds, then one is picked of a list of moments
that none of them exceeds. -/
theorem mem_and_bound_of_foldl_pick (Le : Int → Int → Prop) (pick : Moment → Moment → Moment)
    {Among : Moment → Prop} (refl : ∀ t, Le t t) (trans : ∀ t u v, Le t u → Le u v → Le t v)
    (picks : ∀ a b, Among a → Among b → (pick a b = a ∨ pick a b = b) ∧
      Le a.instant (pick a b).instant ∧ Le b.instant (pick a b).instant)
    {ms : List Moment} (m : Moment) (among : ∀ n ∈ m :: ms, Among n) :
    ms.foldl pick m ∈ m :: ms ∧ ∀ n ∈ m :: ms, Le n.instant (ms.foldl pick m).instant := by
  induction ms generalizing m with
  | nil => simp [refl]
  | cons n ms ih =>
    obtain ⟨either, overFirst, overSecond⟩ := picks m n (among m (by simp)) (among n (by simp))
    -- the induction goes on with the one that was picked, which is one of the list
    have picked : pick m n ∈ [m, n] := by simpa using either
    have listed : ∀ k ∈ pick m n :: ms, k ∈ m :: n :: ms := by
      intro k member
      rcases List.mem_cons.mp member with rfl | later
      · exact List.mem_append_left ms picked
      · simp [later]
    obtain ⟨member, bound⟩ := ih (pick m n) fun k member => among k (listed k member)
    have overPick := bound (pick m n) (by simp)
    refine ⟨listed _ member, ?_⟩
    intro k inList
    rcases List.mem_cons.mp inList with rfl | inRest
    · exact trans _ _ _ overFirst overPick
    · rcases List.mem_cons.mp inRest with rfl | later
      · exact trans _ _ _ overSecond overPick
      · exact bound k (by simp [later])

variable {ms : List Moment}

theorem mem_of_latest? (h : latest? ms = some m) : m ∈ ms := by
  cases ms with
  | nil => simp [latest?] at h
  | cons first rest =>
    obtain rfl := Option.some.inj h
    exact (mem_and_bound_of_foldl_pick (fun _ _ => True) later (fun _ => trivial)
      (fun _ _ _ _ _ => trivial) (fun a b _ _ => ⟨later_eq_or a b, trivial, trivial⟩) first
      (fun _ _ => trivial)).1

theorem mem_of_earliest? (h : earliest? ms = some m) : m ∈ ms := by
  cases ms with
  | nil => simp [earliest?] at h
  | cons first rest =>
    obtain rfl := Option.some.inj h
    exact (mem_and_bound_of_foldl_pick (fun _ _ => True) earlier (fun _ => trivial)
      (fun _ _ _ _ _ => trivial) (fun a b _ _ => ⟨earlier_eq_or a b, trivial, trivial⟩) first
      (fun _ _ => trivial)).1

@[simp] theorem latest?_eq_none_iff : latest? ms = none ↔ ms = [] := by
  cases ms <;> simp [latest?]

@[simp] theorem earliest?_eq_none_iff : earliest? ms = none ↔ ms = [] := by
  cases ms <;> simp [earliest?]

/-- The latest of some moments is the one of the greatest instant. -/
theorem latest?_eq_some (never : ∀ n ∈ ms, n.zone.NeverChanges) (h : latest? ms = some m) :
    m ∈ ms ∧ ∀ n ∈ ms, n.instant ≤ m.instant := by
  cases ms with
  | nil => simp [latest?] at h
  | cons first rest =>
    obtain rfl := Option.some.inj h
    exact mem_and_bound_of_foldl_pick (· ≤ ·) later Int.le_refl
      (fun _ _ _ => Int.le_trans) (fun a b ha _ => later_cases ha b) first never

/-- The earliest of some moments is the one of the least instant. -/
theorem earliest?_eq_some (never : ∀ n ∈ ms, n.zone.NeverChanges) (h : earliest? ms = some m) :
    m ∈ ms ∧ ∀ n ∈ ms, m.instant ≤ n.instant := by
  cases ms with
  | nil => simp [earliest?] at h
  | cons first rest =>
    obtain rfl := Option.some.inj h
    exact mem_and_bound_of_foldl_pick (· ≥ ·) earlier Int.le_refl
      (fun _ _ _ tu uv => Int.le_trans uv tu) (fun a b _ hb => earlier_cases a hb) first never

end Moment

end Lending
