import SqlClient.Calendar.WallClock

namespace SqlClient

def ZonedDateTime.Shows (dt : ZonedDateTime) (offsetAt : DateTime → Offset) (wall : DateTime) : Prop :=
  dt.wall = wall ∧ dt.offset = offsetAt dt.utc

/-- A zone, whose clocks may be changed. A wall clock that they skip has no instant; of two instants that
show the same, the earlier one counts, which is the one with the greater offset. -/
structure Zone where
  offsetAt : DateTime → Offset
  offsetNow : Offset
  ofLocal? : DateTime → Option ZonedDateTime
  shows : ∀ {wall dt}, ofLocal? wall = some dt → dt.Shows offsetAt wall
  earliest : ∀ {wall dt}, ofLocal? wall = some dt →
    ∀ other : ZonedDateTime, other.Shows offsetAt wall → other.offset.seconds ≤ dt.offset.seconds
  skips : ∀ {wall}, ofLocal? wall = none → ∀ dt : ZonedDateTime, ¬dt.Shows offsetAt wall

namespace ZonedDateTime

variable {dt : ZonedDateTime} {wall : DateTime} {offset : Offset}

theorem ofLocal?_eq_some_iff : ofLocal? wall offset = some dt ↔ dt.Shows (fun _ => offset) wall := by
  constructor
  · exact wall_of_ofLocal?
  · rintro ⟨rfl, rfl⟩
    exact dt.ofLocal?_wall

theorem ofLocal?_earliest (h : ofLocal? wall offset = some dt) (other : ZonedDateTime)
    (also : other.Shows (fun _ => offset) wall) : other.offset.seconds ≤ dt.offset.seconds := by
  have same : other.offset = dt.offset := also.2.trans (wall_of_ofLocal? h).2.symm
  exact Int.le_of_eq (congrArg Offset.seconds same)

theorem ofLocal?_skips (h : ofLocal? wall offset = none) (dt : ZonedDateTime) :
    ¬dt.Shows (fun _ => offset) wall := by
  intro shows
  rw [ofLocal?_eq_some_iff.mpr shows] at h
  cases h

end ZonedDateTime

namespace Zone

def fixed (offset : Offset) : Zone where
  offsetAt _ := offset
  offsetNow := offset
  ofLocal? wall := ZonedDateTime.ofLocal? wall offset
  shows := ZonedDateTime.wall_of_ofLocal?
  earliest := ZonedDateTime.ofLocal?_earliest
  skips := ZonedDateTime.ofLocal?_skips

instance : Inhabited Zone := ⟨fixed .utc⟩

instance : Repr Zone := ⟨fun zone _ => repr zone.offsetNow⟩

end Zone

def ZonedDateTime.inZone (dt : ZonedDateTime) (zone : Zone) : ZonedDateTime :=
  dt.moveTo (zone.offsetAt dt.utc)

end SqlClient
