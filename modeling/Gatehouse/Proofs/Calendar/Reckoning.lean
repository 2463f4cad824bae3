import Gatehouse.Proofs.Calendar.NumericDate

/-!
Reckoning with points in time. On clocks that tell their offset, comparing and moving is
comparing and adding instants.
-/
namespace Gatehouse.DateTime
variable {d e : DateTime} {span : Int}

/-- In UTC the clock reading is the instant. -/
@[simp] theorem instant_utc (reading : Int) :
    (⟨reading, some 0⟩ : DateTime).instant = reading := by
  simp [instant]

theorem WholeSecond.aware (h : d.WholeSecond) : d.offset.isSome = true := by
  obtain ⟨n, rfl, -⟩ := h
  rfl

theorem WholeSecond.inRange_instant (h : d.WholeSecond) : inRange d.instant = true := by
  obtain ⟨n, rfl, hrange⟩ := h
  rwa [instant_utc]

/-- A whole second is told by its instant. -/
theorem WholeSecond.eq_of_instant (h : d.WholeSecond) (hinstant : e.instant = d.instant) :
    (⟨e.instant / second * second, some 0⟩ : DateTime) = d := by
  obtain ⟨n, rfl, -⟩ := h
  rw [hinstant]
  simp [instant, second]

theorem since_of_aware (hd : d.offset.isSome = true) (he : e.offset.isSome = true) :
    d.since e = .ok (d.instant - e.instant) := by
  rw [since, hd, he, if_pos rfl]

theorem notAfter_of_aware (hd : d.offset.isSome = true) (he : e.offset.isSome = true) :
    d.notAfter e = .ok (decide (d.instant ≤ e.instant)) := by
  have hle : d.instant - e.instant ≤ 0 ↔ d.instant ≤ e.instant := by omega
  simp only [notAfter, since_of_aware hd he, Functor.map, Except.map, hle]

theorem shift_eq_ok : d.shift span = .ok e ↔
    inRange (d.reading + span) = true ∧ e = ⟨d.reading + span, d.offset⟩ := by
  unfold shift ofReading
  split
  · next h => simp [h, eq_comm]
  · next h => simp [h]

theorem instant_of_shift (h : d.shift span = .ok e) : e.instant = d.instant + span := by
  obtain ⟨-, rfl⟩ := shift_eq_ok.1 h
  simp only [instant]
  omega

theorem aware_of_shift (h : d.shift span = .ok e) : e.offset.isSome = d.offset.isSome := by
  obtain ⟨-, rfl⟩ := shift_eq_ok.1 h
  rfl

theorem toUtc_eq_ok :
    d.toUtc = .ok e ↔ inRange d.instant = true ∧ e = ⟨d.instant, some 0⟩ := by
  unfold toUtc ofReading
  split
  · next h => simp [h, eq_comm]
  · next h => simp [h]

theorem truncateToSeconds_eq_ok : d.truncateToSeconds = .ok e ↔
    inRange d.instant = true ∧ e = ⟨d.instant / second * second, some 0⟩ := by
  simp only [truncateToSeconds, bind_eq_ok, toUtc_eq_ok, Except.ok.injEq]
  constructor
  · rintro ⟨u, ⟨hr, rfl⟩, rfl⟩
    exact ⟨hr, rfl⟩
  · rintro ⟨hr, rfl⟩
    exact ⟨_, ⟨hr, rfl⟩, rfl⟩

/-- The whole second of UTC that a point in time lies in. -/
def floorSecond (d : DateTime) : DateTime := ⟨d.instant / second * second, some 0⟩

theorem eq_floorSecond (h : d.truncateToSeconds = .ok e) : e = d.floorSecond :=
  (truncateToSeconds_eq_ok.1 h).2

theorem wholeSecond_floorSecond (h : inRange d.instant = true) : d.floorSecond.WholeSecond :=
  wholeSecond_truncateToSeconds (truncateToSeconds_eq_ok.2 ⟨h, rfl⟩)

theorem instant_floorSecond (d : DateTime) :
    d.floorSecond.instant = d.instant / second * second := instant_utc _

theorem floorSecond_floorSecond (d : DateTime) : d.floorSecond.floorSecond = d.floorSecond := by
  have hfloor : d.instant / second * second / second * second = d.instant / second * second := by
    rw [Int.mul_ediv_cancel _ (by decide)]
  rw [floorSecond, instant_floorSecond, hfloor, floorSecond]

/-- The earlier of two points in time is one of them, and at the earlier instant. -/
theorem earlier_of_aware (hd : d.offset.isSome = true) (he : e.offset.isSome = true) :
    d.earlier e = .ok (if e.instant < d.instant then e else d) := by
  have hlt : e.instant - d.instant < 0 ↔ e.instant < d.instant := by omega
  simp only [earlier, since_of_aware he hd, bind, Except.bind, hlt]
  split <;> rfl

/-- Moved by a span, the point in time stays in years 1 to 9999 on its own clock and on that of
UTC. -/
structure Reaches (d : DateTime) (span : Int) : Prop where
  own : inRange (d.reading + span) = true
  utc : inRange (d.instant + span) = true

instance (d : DateTime) (span : Int) : Decidable (d.Reaches span) :=
  decidable_of_iff (inRange (d.reading + span) = true ∧ inRange (d.instant + span) = true)
    ⟨fun h => ⟨h.1, h.2⟩, fun h => ⟨h.own, h.utc⟩⟩

theorem Reaches.shift (h : d.Reaches span) : d.shift span = .ok ⟨d.reading + span, d.offset⟩ :=
  shift_eq_ok.2 ⟨h.own, rfl⟩

/-- A clock ahead of UTC that shows the first moment of year 1, which UTC cannot tell. -/
def earlyClock : DateTime := ⟨minReading, some (3600 * second)⟩

theorem truncateToSeconds_earlyClock : earlyClock.truncateToSeconds = .error .outOfRange := rfl

end Gatehouse.DateTime
