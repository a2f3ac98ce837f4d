import SqlClient.Calendar.DateTime
import SqlClient.Text.Digits

namespace SqlClient

open Text

def Date.text (d : Date) : List Char :=
  let year := padLeft 4 (digits d.year.natAbs)
  let signed := if d.year < 0 then '-' :: year else if 9999 < d.year then '+' :: year else year
  signed ++ '-' :: twoDigits d.month ++ '-' :: twoDigits d.day

def fractionText (nano : Nat) : List Char :=
  if nano = 0 then []
  else if nano % 1000000 = 0 then '.' :: padLeft 3 (digits (nano / 1000000))
  else if nano % 1000 = 0 then '.' :: padLeft 6 (digits (nano / 1000))
  else '.' :: padLeft 9 (digits nano)

def Time.text (t : Time) : List Char :=
  let second := if t.isLeap then t.secondOfMinute + 1 else t.secondOfMinute
  twoDigits t.hour ++ ':' :: twoDigits t.minute ++ ':' :: twoDigits second ++
    fractionText (t.nano % Calendar.nanosPerSecond)

def Offset.text (o : Offset) : List Char :=
  let n := o.seconds.natAbs
  let body := twoDigits (n / 3600) ++ ':' :: twoDigits (n / 60 % 60)
  let full := if n % 60 = 0 then body else body ++ ':' :: twoDigits (n % 60)
  (if o.seconds < 0 then '-' else '+') :: full

def OffsetTime.text (t : OffsetTime) : List Char :=
  t.time.text ++ t.offset.text

def DateTime.text (separator : Char) (dt : DateTime) : List Char :=
  dt.date.text ++ separator :: dt.time.text

end SqlClient
