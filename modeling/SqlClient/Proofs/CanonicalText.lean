import SqlClient.Proofs.CalendarText
import SqlClient.Proofs.DecimalText

namespace SqlClient

open Text

variable {writer reader : ConversionContext} {v : WireValue} {t : Target} {cs : List Char} {s : String}

theorem integerLiteral_signedDigits (n : Int) : IntegerLiteral (signedDigits n) n := by
  have denotes := denotes_digits n.natAbs
  unfold signedDigits
  split
  next below =>
    have literal := IntegerLiteral.minus denotes.isNumeral
    rwa [denotes.value, show -(n.natAbs : Int) = n by omega] at literal
  next =>
    have literal := IntegerLiteral.unsigned denotes.isNumeral
    rwa [denotes.value, show (n.natAbs : Int) = n by omega] at literal

theorem unblank_signedDigits (n : Int) : Unblank (signedDigits n) := by
  have digits : Unblank (digits n.natAbs) := unblank_of_isNumeral (denotes_digits n.natAbs).isNumeral
  unfold signedDigits
  split
  · exact unblank_cons (by decide) digits
  · exact digits

theorem temporalLiteral_eq {α : Type} {read : List Char → Option α} {a : α}
    (h : read (trim s.toList) = some a) : temporalLiteral t s read = .ok a := by
  simp only [temporalLiteral, h]

namespace WireValue

def ReadsBack (writer reader : ConversionContext) (v : WireValue) (t : Target) : Prop :=
  ∃ s, v.read writer .string = .ok (.string s) ∧
    ∀ before after : String, before.toList.all isBlank = true → after.toList.all isBlank = true →
      ∃ host, (character (before ++ s ++ after)).read reader t = .ok host ∧
        host.kind? = some t ∧ host.toWire = v

theorem readsBack_of_literal (host : HostValue) (unblank : Unblank cs)
    (writes : v.read writer .string = .ok (.string (String.ofList cs)))
    (reads : ∀ s : String, trim s.toList = cs → (character s).read reader t = .ok host)
    (kind : host.kind? = some t) (wire : host.toWire = v) : v.ReadsBack writer reader t := by
  refine ⟨String.ofList cs, writes, fun before after blankBefore blankAfter => ?_⟩
  refine ⟨host, reads _ ?_, kind, wire⟩
  rw [String.toList_append, String.toList_append, String.toList_ofList]
  exact trim_append blankBefore blankAfter unblank

theorem readsBack_boolean (b : Bool) : (boolean b).ReadsBack writer reader .boolean := by
  have unblank : Unblank (if b then "true".toList else "false".toList) := by
    cases b <;> decide
  refine readsBack_of_literal (.boolean b) unblank rfl (fun s hs => ?_) rfl rfl
  have reads : readBoolean s = .ok b := by
    rw [readBoolean, hs]
    cases b <;> rfl
  exact congrArg (Except.map HostValue.boolean) reads

theorem readsBack_integer {w : Width} {n : Int} (has : w.Has n)
    (writes : v.read writer .string = .ok (.string (String.ofList (signedDigits n))))
    (wire : (w.wrap n).toWire = v) : v.ReadsBack writer reader w.target := by
  have kind : (w.wrap n).kind? = some w.target := by cases w <;> rfl
  refine readsBack_of_literal (w.wrap n) (unblank_signedDigits n) writes (fun s hs => ?_) kind wire
  have literal : IntegerLiteral (trim s.toList) n := hs ▸ integerLiteral_signedDigits n
  exact read_of_literal reader literal has

theorem readsBack_int4 (n : Int32) : (int4 n).ReadsBack writer reader .int := by
  have has : Width.int.Has n.toInt := ⟨n.le_toInt, Int.le_sub_one_of_lt n.toInt_lt⟩
  exact readsBack_integer has rfl (congrArg int4 (Int32.ofInt_toInt n))

theorem readsBack_int8 (n : Int64) : (int8 n).ReadsBack writer reader .long := by
  have has : Width.long.Has n.toInt := ⟨n.le_toInt, Int.le_sub_one_of_lt n.toInt_lt⟩
  exact readsBack_integer has rfl (congrArg int8 (Int64.ofInt_toInt n))

theorem readsBack_decimal (hr : reader.scale = none) {d : Decimal} (hs : d.scale ≤ Decimal.maxScale)
    (hz : d.mantissa = 0 → d.negative = false) : (decimal d).ReadsBack writer reader .decimal := by
  refine readsBack_of_literal (.decimal d) d.unblank_text rfl (fun s htrim => ?_) rfl rfl
  have literal : decimalLiteral s = .ok d := by
    simp only [decimalLiteral, htrim, Decimal.read?_text hs hz]
  have reads : (character s).read reader .decimal =
      decimalLiteral s >>= fun d => (atScale reader d).map HostValue.decimal := rfl
  rw [reads, literal]
  exact congrArg (Except.map HostValue.decimal) (atScale_unscaled hr d)

theorem readsBack_date {d : Date} (hd : d.InCalendar) :
    (date d).ReadsBack writer reader .localDate := by
  refine readsBack_of_literal (.localDate d) d.unblank_text rfl (fun s hs => ?_) rfl rfl
  exact congrArg (Except.map HostValue.localDate) (temporalLiteral_eq (hs ▸ Date.read?_text hd))

theorem readsBack_timeOfDay {clock : Time} (ht : clock.LeapEndsMinute) :
    (timeOfDay clock).ReadsBack writer reader .localTime := by
  refine readsBack_of_literal (.localTime clock) clock.unblank_text rfl (fun s hs => ?_) rfl rfl
  exact congrArg (Except.map HostValue.localTime) (temporalLiteral_eq (hs ▸ Time.read?_text ht))

theorem readsBack_timePoint {dt : DateTime} (hd : dt.InCalendar) (ht : dt.time.LeapEndsMinute) :
    (timePoint dt).ReadsBack writer reader .localDateTime := by
  refine readsBack_of_literal (.localDateTime dt) dt.unblank_text rfl (fun s hs => ?_) rfl rfl
  exact congrArg (Except.map HostValue.localDateTime)
    (temporalLiteral_eq (hs ▸ DateTime.read?_text hd ht))

def HasLiteral : WireValue → Prop
  | boolean _ | int4 _ | int8 _ => True
  | decimal d => d.scale ≤ Decimal.maxScale ∧ (d.mantissa = 0 → d.negative = false)
  | date d => d.InCalendar
  | timeOfDay clock => clock.LeapEndsMinute
  | timePoint dt => dt.InCalendar ∧ dt.time.LeapEndsMinute
  | _ => False

theorem canonical_text (writer reader : ConversionContext) (hr : reader.scale = none) {v : WireValue}
    {a : Atom} (ha : v.atom? = some a) (hv : v.HasLiteral) :
    v.ReadsBack writer reader a.naturalTarget := by
  cases v with
  | boolean b => cases ha; exact readsBack_boolean b
  | int4 n => cases ha; exact readsBack_int4 n
  | int8 n => cases ha; exact readsBack_int8 n
  | decimal d => cases ha; exact readsBack_decimal hr hv.1 hv.2
  | date d => cases ha; exact readsBack_date hv
  | timeOfDay clock => cases ha; exact readsBack_timeOfDay hv
  | timePoint dt => cases ha; exact readsBack_timePoint hv.1 hv.2
  | _ => exact hv.elim

def ancientLeap : DateTime :=
  ⟨⟨-43, 12, 31, Date.december _⟩, ⟨3599, 1234567890, by decide, by decide⟩⟩

theorem canonical_text_ancientLeap :
    (default : ConversionContext).scale = none ∧ (timePoint ancientLeap).atom? = some .timePoint ∧
      (timePoint ancientLeap).HasLiteral ∧
      (timePoint ancientLeap).ReadsBack default default .localDateTime := by
  have literal : (timePoint ancientLeap).HasLiteral :=
    show ancientLeap.InCalendar ∧ ancientLeap.time.LeapEndsMinute by decide
  have atom : (timePoint ancientLeap).atom? = some .timePoint := rfl
  exact ⟨rfl, atom, literal, canonical_text default default rfl atom literal⟩

end WireValue

end SqlClient
