import SqlMapper.Proofs.Calendar.Reader

/-! Dates and times read back from the texts that they are written in: years of any size, fractions
of any length and leap seconds. A leap second within a minute has the text of the second after it,
and that one is read back. -/

namespace SqlMapper.Calendar

open Reader (Takes EndsDigits endsDigits_nil endsDigits_cons)

theorem daysInMonth_le (year : Int) (month : Nat) : daysInMonth year month ≤ 31 := by
  unfold daysInMonth
  split
  · split <;> decide
  all_goals decide

namespace Date

variable (d : Date)

theorem toList_toText : d.toText.toList = (yearText d.year).toList ++
    (['-'] ++ ((Decimal.padded 2 d.month).toList ++
      (['-'] ++ (Decimal.padded 2 d.day).toList))) := by
  simp only [toText, String.toList_append, List.append_assoc]
  rfl

theorem takes_toText (rest : List Char) :
    Reader.dateParts.Takes d.toText.toList (d.year, d.month, d.day) rest := by
  obtain ⟨hleast, hgreatest, hm, hm', hd, hd'⟩ := d.isDay
  have hday : d.day ≤ 31 := hd'.trans (daysInMonth_le _ _)
  have hyear : -0x80000000 ≤ d.year ∧ d.year < 0x80000000 := by
    simp only [leastYear, greatestYear] at hleast hgreatest
    omega
  rw [toList_toText, Reader.dateParts]
  -- the year is the only number that could run on, but for the hyphen
  refine (Reader.takes_year hyear (endsDigits_cons rfl _)).bind ?_
  refine (Reader.takes_char '-' _).bind ?_
  refine (Reader.takes_bounded (by omega) ⟨hm, hm'⟩ _).bind ?_
  refine (Reader.takes_char '-' _).bind ?_
  exact (Reader.takes_bounded (by omega) ⟨hd, hday⟩ _).bind_pure rfl

theorem dateOf_parts : Reader.dateOf (d.year, d.month, d.day) = .ok d := by
  rw [Reader.dateOf, Date.ofYmd?, dif_pos d.isDay]
  rfl

end Date

namespace Time

variable (t : Time)

theorem toList_toText : t.toText.toList = (Decimal.padded 2 t.hour).toList ++
    ([':'] ++ ((Decimal.padded 2 t.minute).toList ++
      ([':'] ++ ((Decimal.padded 2 t.shownSecond.1).toList ++
        (fractionText t.shownSecond.2).toList)))) := by
  simp only [toText, String.toList_append, List.append_assoc]
  rfl

theorem shownSecond_le : t.shownSecond.1 ≤ 60 ∧ t.shownSecond.2 < 1000000000 := by
  obtain ⟨-, -, hs, hn⟩ := t.isTimeOfDay
  rw [shownSecond]
  split <;> simp only <;> omega

theorem takes_toText {rest : List Char} (hrest : EndsDigits rest) (hpoint : '.' ∉ rest.head?) :
    Reader.timeParts.Takes t.toText.toList
      (t.hour, t.minute, t.shownSecond.1, t.shownSecond.2) rest := by
  obtain ⟨hh, hm, -⟩ := t.isTimeOfDay
  have hsecond := t.shownSecond_le
  rw [toList_toText, Reader.timeParts]
  refine (Reader.takes_bounded (by omega) ⟨Nat.zero_le _, by omega⟩ _).bind ?_
  refine (Reader.takes_char ':' _).bind ?_
  refine (Reader.takes_bounded (by omega) ⟨Nat.zero_le _, by omega⟩ _).bind ?_
  refine (Reader.takes_char ':' _).bind ?_
  refine (Reader.takes_bounded (by omega) ⟨Nat.zero_le _, hsecond.1⟩ _).bind ?_
  exact (Reader.takes_fraction hsecond.2 hrest hpoint).bind_pure rfl

theorem ofHms?_parts (h : IsOnClock t.second t.nano) :
    ofHms? t.hour t.minute t.second t.nano = some t :=
  dif_pos ⟨t.isTimeOfDay, h⟩

theorem timeOf_of_isOnClock (h : IsOnClock t.second t.nano) :
    Reader.timeOf (t.hour, t.minute, t.shownSecond.1, t.shownSecond.2) = .ok t := by
  obtain ⟨-, -, hs, hn⟩ := t.isTimeOfDay
  rw [Reader.timeOf, shownSecond]
  split
  · rename_i hleap
    have hlast : 59 = t.second := (h.resolve_left (not_lt.mpr hleap)).symm
    have hnano : t.nano - 1000000000 + 1000000000 = t.nano := by omega
    rw [if_pos (by omega), hnano, hlast, t.ofHms?_parts h]
    rfl
  · rw [if_neg (by omega), t.ofHms?_parts h]
    rfl

theorem isTimeOfDay_next (h : ¬IsOnClock t.second t.nano) :
    IsTimeOfDay t.hour t.minute (t.second + 1) (t.nano - 1000000000) := by
  obtain ⟨hh, hm, hs, hn⟩ := t.isTimeOfDay
  obtain ⟨-, hlast⟩ := not_or.mp h
  exact ⟨hh, hm, by omega, by omega⟩

/-- The time that clocks show, with the next second for a leap second within a minute. -/
def onClock : Time :=
  if h : IsOnClock t.second t.nano then t
  else ⟨t.hour, t.minute, t.second + 1, t.nano - 1000000000, t.isTimeOfDay_next h⟩

theorem isOnClock_onClock : IsOnClock t.onClock.second t.onClock.nano := by
  obtain ⟨-, -, -, hn⟩ := t.isTimeOfDay
  rw [onClock]
  split
  · assumption
  · exact .inl (show t.nano - 1000000000 < 1000000000 by omega)

theorem onClock_eq_self_iff : t.onClock = t ↔ IsOnClock t.second t.nano := by
  constructor
  · intro h
    rw [← h]
    exact t.isOnClock_onClock
  · exact fun h => dif_pos h

theorem shownParts_onClock :
    (t.onClock.hour, t.onClock.minute, t.onClock.shownSecond) =
      (t.hour, t.minute, t.shownSecond) := by
  obtain ⟨-, -, -, hn⟩ := t.isTimeOfDay
  rw [onClock]
  split
  · rfl
  · rename_i h
    obtain ⟨hleap, -⟩ := not_or.mp h
    have hnano : ¬1000000000 ≤ t.nano - 1000000000 := by omega
    simp only [shownSecond, if_neg hnano, if_pos (not_lt.mp hleap)]

theorem timeOf_shownSecond :
    Reader.timeOf (t.hour, t.minute, t.shownSecond.1, t.shownSecond.2) = .ok t.onClock := by
  change Reader.timeOf (t.hour, t.minute, t.shownSecond) = _
  rw [← t.shownParts_onClock]
  exact t.onClock.timeOf_of_isOnClock t.isOnClock_onClock

end Time

theorem Date.read_toText (d : Date) : Date.read d.toText = .ok d := by
  change (Reader.dateParts.complete d.toText).bind Reader.dateOf = _
  rw [Reader.complete_of_takes (d.takes_toText []), bind_ok, dateOf_parts]

theorem Time.read_toText (t : Time) : Time.read t.toText = .ok t.onClock := by
  change (Reader.timeParts.complete t.toText).bind Reader.timeOf = _
  rw [Reader.complete_of_takes (t.takes_toText endsDigits_nil nofun), bind_ok, timeOf_shownSecond]

namespace DateTime

variable (t : DateTime)

def onClock : DateTime := { t with time := t.time.onClock }

theorem onClock_eq_self_iff : t.onClock = t ↔ IsOnClock t.time.second t.time.nano := by
  rw [← Time.onClock_eq_self_iff]
  constructor
  · exact congrArg DateTime.time
  · exact fun h => congrArg (DateTime.mk t.date) h

theorem isDigit_head_time {c : Char} (h : c ∈ t.time.toText.toList.head?) : c.isDigit = true := by
  rw [Time.toList_toText] at h
  exact Reader.isDigit_head_padded h

theorem readWith_toText {separator : Reader Unit} {glue : String}
    (h : separator.Takes glue.toList () t.time.toText.toList) :
    readWith separator (t.date.toText ++ glue ++ t.time.toText) = .ok t.onClock := by
  have hglue : separator.Takes glue.toList () (t.time.toText.toList ++ []) := by
    rwa [List.append_nil]
  have htime := t.time.takes_toText endsDigits_nil nofun
  have hparts : (Reader.dateTimeParts separator).Takes
      (t.date.toText ++ glue ++ t.time.toText).toList
      ((t.date.year, t.date.month, t.date.day),
        (t.time.hour, t.time.minute, t.time.shownSecond.1, t.time.shownSecond.2)) [] := by
    rw [String.toList_append, String.toList_append, List.append_assoc, Reader.dateTimeParts]
    refine (t.date.takes_toText _).bind ?_
    exact hglue.bind (htime.bind_pure rfl)
  change ((Reader.dateTimeParts separator).complete _).bind _ = _
  rw [Reader.complete_of_takes hparts, bind_ok]
  change (Reader.dateOf _).bind _ = _
  rw [Date.dateOf_parts, bind_ok]
  change (Reader.timeOf _).bind _ = _
  rw [Time.timeOf_shownSecond, bind_ok]
  rfl

theorem read_toText : read t.toText = .ok t.onClock := by
  have hblank : Text.trimStart (' ' :: t.time.toText.toList) = t.time.toText.toList := by
    have hspace : ∀ c ∈ [' '], Text.isBlank c = true := List.forall_mem_singleton.mpr (by decide)
    change Text.trimStart ([' '] ++ t.time.toText.toList) = _
    rw [Text.trimStart_append_of_blanks hspace, Text.trimStart_eq_self fun c hc => ?_]
    exact Text.isBlank_of_isDigit (isDigit_head_time t hc)
  have hskip : Reader.skipBlank.Takes " ".toList () t.time.toText.toList :=
    congrArg (fun cs => Except.ok ((), cs)) hblank
  rw [read, toText, readWith_toText t hskip]

end DateTime

namespace Timestamp

variable {t : Timestamp}

def onClock (t : Timestamp) : Timestamp := ⟨t.utc.onClock⟩

theorem onClock_eq_self_iff : t.onClock = t ↔ IsOnClock t.utc.time.second t.utc.time.nano := by
  rw [← DateTime.onClock_eq_self_iff]
  constructor
  · exact congrArg Timestamp.utc
  · exact congrArg Timestamp.mk

end Timestamp

end SqlMapper.Calendar
