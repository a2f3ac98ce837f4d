import SqlClient.Parameter.Bindings
import SqlClient.Proofs.Readings

namespace SqlClient

abbrev Untimed {α : Type} : Except Error α → Prop :=
  Ends (fun _ => True) fun e => e.isTimeout = false

variable {ctx : ConversionContext}

theorem WireValue.Fails.untimed {v : WireValue} {t : Target} {e : Error} (hf : v.Fails ctx t e)
    (h : ctx.lobs = none) : e.isTimeout = false := by
  cases hf with
  | unsupported | outOfRange | malformed | outside => rfl
  | channel id _ _ answer =>
    simp only [ConversionContext.readLob, h] at answer
    cases answer
    rfl

theorem WireValue.untimed_read (h : ctx.lobs = none) (v : WireValue) (target : Target) :
    Untimed (v.read ctx target) := by
  cases ha : v.atom? with
  | none =>
    rw [atom?_eq_none_iff.mp ha]
    trivial
  | some a => exact (readsAs_read ha target).mono (fun _ _ => trivial) fun _ fails => fails.untimed h

namespace HostValue

theorem untimed_wireAs (h : ctx.lobs = none) (v : HostValue) (atom : Atom) :
    Untimed (v.wireAs ctx atom) := by
  unfold wireAs
  split
  · trivial
  · exact (v.toWire.untimed_read h atom.naturalTarget).map fun _ _ => trivial

theorem untimed_encode (h : ctx.lobs = none) (name : String) (v : HostValue)
    (declared : Option Atom) : Untimed (v.encode ctx name declared) := by
  unfold encode
  split
  · exact rfl
  · split
    · exact rfl
    · split
      · trivial
      · exact (v.untimed_wireAs h _).map fun _ _ => trivial

end HostValue

namespace Bindings

theorem untimed_encode (h : ctx.lobs = none) (b : Bindings) : Untimed (b.encode ctx) := by
  refine Ends.mapM fun slot _ => ?_
  unfold parameterAt
  split
  · exact HostValue.untimed_encode h _ _ _
  · exact rfl

theorem untimed_placeholders (b : Bindings) : Untimed b.placeholders := by
  refine Ends.mapM fun slot _ => ?_
  unfold placeholderAt
  split
  · trivial
  · exact rfl

end Bindings

end SqlClient
