import SqlClient.Calendar.Zone
import SqlClient.Proofs.Instants

namespace SqlClient

namespace Zone

variable {zone : Zone} {wall : DateTime} {dt other : ZonedDateTime}

def Tells (zone : Zone) (wall : DateTime) : Prop :=
  ∃ dt : ZonedDateTime, dt.Shows zone.offsetAt wall

theorem ofLocal?_eq_none_iff : zone.ofLocal? wall = none ↔ ¬zone.Tells wall := by
  constructor
  · rintro none ⟨dt, shows⟩
    exact zone.skips none dt shows
  · intro silent
    cases attached : zone.ofLocal? wall with
    | none => rfl
    | some dt => exact absurd ⟨dt, zone.shows attached⟩ silent

theorem Tells.ofLocal? (h : zone.Tells wall) : ∃ dt, zone.ofLocal? wall = some dt := by
  apply Option.ne_none_iff_exists'.mp
  intro none
  exact ofLocal?_eq_none_iff.mp none h

theorem seconds_le_of_shows (h : zone.ofLocal? wall = some dt) (also : other.Shows zone.offsetAt wall) :
    dt.utc.seconds ≤ other.utc.seconds := by
  have first := dt.seconds_wall
  have second := other.seconds_wall
  rw [(zone.shows h).1] at first
  rw [also.1] at second
  have ahead := zone.earliest h other also
  omega

theorem tells_iff_of_constant {offset : Offset} (h : ∀ utc, zone.offsetAt utc = offset) :
    zone.Tells wall ↔ (wall.shift (-offset.seconds)).InCalendar := by
  have same : zone.offsetAt = fun _ => offset := funext h
  constructor
  · rintro ⟨dt, shows⟩
    rw [same] at shows
    obtain ⟨rfl, rfl⟩ := shows
    have utc : dt.wall.shift (-dt.offset.seconds) = dt.utc := dt.utc.shift_shift_neg dt.offset.small
    rw [utc]
    exact dt.inCalendar
  · intro inside
    refine ⟨⟨wall.shift (-offset.seconds), offset, inside⟩, ?_⟩
    rw [same]
    exact ZonedDateTime.wall_of_ofLocal? (dif_pos inside)

end Zone

namespace ZonedDateTime

variable {offsets : List Offset} {offsetAt : DateTime → Offset} {wall : DateTime} {dt : ZonedDateTime}

def firstShown (offsets : List Offset) (offsetAt : DateTime → Offset) (wall : DateTime) :
    Option ZonedDateTime :=
  offsets.findSome? fun offset => (ofLocal? wall offset).filter fun dt => dt.offset = offsetAt dt.utc

theorem shown_eq_some_iff {offset : Offset} :
    ((ofLocal? wall offset).filter fun dt => dt.offset = offsetAt dt.utc) = some dt ↔
      dt.Shows offsetAt wall ∧ dt.offset = offset := by
  rw [Option.filter_eq_some_iff, ofLocal?_eq_some_iff]
  simp only [Shows, decide_eq_true_eq]
  constructor
  · rintro ⟨⟨shows, own⟩, kept⟩
    exact ⟨⟨shows, kept⟩, own⟩
  · rintro ⟨⟨shows, kept⟩, own⟩
    exact ⟨⟨shows, own⟩, kept⟩

theorem firstShown_shows (h : firstShown offsets offsetAt wall = some dt) : dt.Shows offsetAt wall := by
  obtain ⟨offset, -, shown⟩ := List.exists_of_findSome?_eq_some h
  exact (shown_eq_some_iff.mp shown).1

theorem firstShown_earliest (descending : offsets.Pairwise fun a b => b.seconds ≤ a.seconds)
    (all : ∀ utc, offsetAt utc ∈ offsets) (h : firstShown offsets offsetAt wall = some dt)
    (other : ZonedDateTime) (also : other.Shows offsetAt wall) :
    other.offset.seconds ≤ dt.offset.seconds := by
  obtain ⟨greater, offset, smaller, rfl, shown, none⟩ := List.findSome?_eq_some_iff.mp h
  obtain ⟨-, rfl⟩ := shown_eq_some_iff.mp shown
  have listed := all other.utc
  rw [← also.2, List.mem_append, List.mem_cons] at listed
  rcases listed with before | same | after
  · have found := shown_eq_some_iff.mpr ⟨also, rfl⟩
    rw [none _ before] at found
    cases found
  · exact Int.le_of_eq (congrArg Offset.seconds same)
  · exact (List.pairwise_cons.mp (List.pairwise_append.mp descending).2.1).1 _ after

theorem firstShown_skips (all : ∀ utc, offsetAt utc ∈ offsets)
    (h : firstShown offsets offsetAt wall = none) (dt : ZonedDateTime) : ¬dt.Shows offsetAt wall := by
  intro shows
  have none := List.findSome?_eq_none_iff.mp h _ (all dt.utc)
  rw [shown_eq_some_iff.mpr ⟨shows, shows.2⟩] at none
  cases none

end ZonedDateTime

def Zone.ofOffsets (offsets : List Offset) (offsetAt : DateTime → Offset) (now : Offset)
    (descending : offsets.Pairwise fun a b => b.seconds ≤ a.seconds)
    (all : ∀ utc, offsetAt utc ∈ offsets) : Zone where
  offsetAt := offsetAt
  offsetNow := now
  ofLocal? := ZonedDateTime.firstShown offsets offsetAt
  shows := ZonedDateTime.firstShown_shows
  earliest := ZonedDateTime.firstShown_earliest descending all
  skips := ZonedDateTime.firstShown_skips all

namespace CentralEurope

def winter : Offset := ⟨3600, by decide⟩

def summer : Offset := ⟨7200, by decide⟩

def oneOClock : Time := { Time.midnight with second := 3600, second_lt := by decide }

def summerBegins : DateTime := ⟨⟨2024, 3, 31, by decide⟩, oneOClock⟩

def summerEnds : DateTime := ⟨⟨2024, 10, 27, by decide⟩, oneOClock⟩

def offsetAt (utc : DateTime) : Offset :=
  if summerBegins.seconds ≤ utc.seconds ∧ utc.seconds < summerEnds.seconds then summer else winter

theorem descending : [summer, winter].Pairwise fun a b => b.seconds ≤ a.seconds := by decide

theorem all (utc : DateTime) : offsetAt utc ∈ [summer, winter] := by
  unfold offsetAt
  split
  · exact List.mem_cons_self
  · exact List.mem_cons_of_mem _ List.mem_cons_self

/-- The clocks of central Europe in the year 2024, when it is winter there. -/
def zone : Zone :=
  .ofOffsets [summer, winter] offsetAt winter descending all

def halfPastTwo : Time :=
  { Time.midnight with second := 9000, second_lt := by decide }

/-- Half an hour before the clocks go back, and show half past two again. -/
def beforeChange : ZonedDateTime :=
  ⟨⟨summerEnds.date, { Time.midnight with second := 1800, second_lt := by decide }⟩, summer, by decide⟩

example : zone.ofLocal? ⟨summerBegins.date, halfPastTwo⟩ = none := by decide

example : zone.ofLocal? ⟨summerEnds.date, halfPastTwo⟩ = some beforeChange := by decide

end CentralEurope

end SqlClient
