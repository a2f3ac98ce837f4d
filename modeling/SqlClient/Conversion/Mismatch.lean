import SqlClient.Error
import SqlClient.Value.Host

namespace SqlClient

def Target.nullValue : Target → HostValue
  | .boolean => .boolean false
  | .byte => .byte 0
  | .short => .short 0
  | .int => .int 0
  | .long => .long 0
  | .float => .float ⟨0⟩
  | .double => .double ⟨0⟩
  | _ => .null

theorem Target.nullValue_of_not_primitive {t : Target} (h : t.isPrimitive = false) :
    t.nullValue = .null := by
  cases t <;> first | rfl | cases h

def WireValue.mismatch (v : WireValue) (t : Target) : Except Error HostValue :=
  match v.atom? with
  | some a => .error (.unsupportedConversion a t)
  | none => .ok t.nullValue

end SqlClient
