import Gatehouse.Proofs.Calendar.Reckoning

/-!
Points in time as instants. What a clock of any offset shows is compared, moved, cut to the second
and counted by its instant alone, as long as it is shown; so it does not matter which clock told it.
-/
namespace Gatehouse.DateTime
variable {d d' e e' : DateTime} {span n : Int}

/-- The same instant, on clocks that both tell their offset or both do not. -/
structure Same (d e : DateTime) : Prop where
  instant : d.instant = e.instant
  aware : d.offset.isSome = e.offset.isSome

theorem Same.refl (d : DateTime) : d.Same d := ⟨rfl, rfl⟩

theorem Same.since (h : d.Same d') (h' : e.Same e') : d.since e = d'.since e' := by
  rw [DateTime.since, DateTime.since, h.instant, h'.instant, h.aware, h'.aware]

theorem Same.notAfter (h : d.Same d') (h' : e.Same e') : d.notAfter e = d'.notAfter e' := by
  rw [DateTime.notAfter, DateTime.notAfter, h.since h']

theorem Same.of_shift (h : d.Same d') (hd : d.shift span = .ok e) (hd' : d'.shift span = .ok e') :
    e.Same e' := by
  constructor
  · rw [instant_of_shift hd, instant_of_shift hd', h.instant]
  · rw [aware_of_shift hd, aware_of_shift hd', h.aware]

/-- The earlier of two points in time is at the same instant, or they cannot be compared. -/
theorem Same.earlier (h : d.Same d') (e : DateTime) :
    (∃ f, d.earlier e = .error f ∧ d'.earlier e = .error f) ∨
      ∃ x x', d.earlier e = .ok x ∧ d'.earlier e = .ok x' ∧ x.instant = x'.instant := by
  have hsince := (Same.refl e).since h
  simp only [DateTime.earlier, hsince, bind, Except.bind]
  cases e.since d' with
  | error f => exact .inl ⟨f, rfl, rfl⟩
  | ok ahead =>
    dsimp only
    split
    · exact .inr ⟨e, e, rfl, rfl, rfl⟩
    · exact .inr ⟨d, d', rfl, rfl, h.instant⟩

theorem truncateToSeconds_congr (h : d.instant = e.instant) :
    d.truncateToSeconds = e.truncateToSeconds := by
  rw [truncateToSeconds, truncateToSeconds, toUtc_congr h]

theorem toNumericDate_congr (h : d.instant = e.instant) : d.toNumericDate = e.toNumericDate := by
  rw [toNumericDate, toNumericDate, toUtc_congr h]

/-- Cutting to the second goes back by less than one. -/
theorem instant_floorSecond_bounds (d : DateTime) :
    d.floorSecond.instant ≤ d.instant ∧ d.instant < d.floorSecond.instant + second := by
  rw [instant_floorSecond]
  unfold second
  omega

theorem truncateToSeconds_of_dvd (h : second ∣ d.instant) : d.truncateToSeconds = d.toUtc := by
  unfold truncateToSeconds toUtc ofReading
  split
  · show Except.ok (⟨d.instant / second * second, some 0⟩ : DateTime) = _
    rw [Int.ediv_mul_cancel h]
  · rfl

theorem truncateToSeconds_floorSecond (h : inRange d.instant = true) :
    d.floorSecond.truncateToSeconds = .ok d.floorSecond :=
  truncateToSeconds_eq_ok.2
    ⟨(wholeSecond_floorSecond h).inRange_instant, (floorSecond_floorSecond d).symm⟩

theorem eq_of_ofNumericDate (h : ofNumericDate n = .ok d) : d = ⟨n * second, some 0⟩ := by
  unfold ofNumericDate at h
  split_ifs at h
  exact (Except.ok.inj h).symm

/-- Every count of seconds whose instant can be shown is counted again. -/
theorem exists_ofNumericDate (h : inRange (n * second) = true) :
    ∃ d, ofNumericDate n = .ok d ∧ d.toNumericDate = .ok n := by
  have hwhole : WholeSecond ⟨n * second, some 0⟩ := ⟨n, rfl, h⟩
  obtain ⟨k, hcount, hback, -⟩ := hwhole.toNumericDate
  have hreading : n * second = k * second := congrArg DateTime.reading (eq_of_ofNumericDate hback)
  obtain rfl : n = k := Int.eq_of_mul_eq_mul_right (by decide) hreading
  exact ⟨_, hback, hcount⟩

end Gatehouse.DateTime
