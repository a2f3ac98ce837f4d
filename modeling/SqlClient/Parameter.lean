import SqlClient.Conversion

namespace SqlClient

structure Placeholder where
  name : String
  atom : Atom
deriving DecidableEq, Repr, Inhabited

structure Parameter where
  name : String
  atom : Atom
  value : WireValue
deriving DecidableEq, Repr, Inhabited

def Parameter.placeholder (p : Parameter) : Placeholder :=
  ⟨p.name, p.atom⟩

def placeholderName (index : Nat) : String :=
  "p" ++ toString index

def HostValue.wireAs (ctx : ConversionContext) (v : HostValue) (atom : Atom) :
    Except Error WireValue :=
  if v.toWire.atom? = some atom then .ok v.toWire
  else (v.toWire.read ctx atom.naturalTarget).map HostValue.toWire

def HostValue.encode (ctx : ConversionContext) (name : String) (v : HostValue)
    (declared : Option Atom) : Except Error Parameter :=
  match declared.or v.atom? with
  | none => .error (.parameter (.untypedNull name))
  | some atom =>
    if atom.isLargeObject then .error (.parameter (.largeObject name atom))
    else if v = .null then .ok ⟨name, atom, .null⟩
    else (v.wireAs ctx atom).map fun wire => ⟨name, atom, wire⟩

end SqlClient
