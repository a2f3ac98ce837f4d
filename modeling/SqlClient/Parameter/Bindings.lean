import SqlClient.Parameter

namespace SqlClient

structure Slot where
  atom : Atom
  value : Option HostValue
deriving DecidableEq, Repr, Inhabited

structure Bindings where
  slots : List (Option Slot)
  changed : Bool
deriving DecidableEq, Repr, Inhabited

namespace Bindings

def empty : Bindings := ⟨[], false⟩

def size (b : Bindings) : Nat := b.slots.length

def grow (b : Bindings) (count : Nat) : Bindings :=
  { b with slots := b.slots ++ List.replicate (count - b.slots.length) none }

def established (b : Bindings) (position : Nat) : Option Atom :=
  (b.slots[position]?.join).map Slot.atom

/-- The type that a binding gives its position: the declared one, else that of the value, or for a null
the one established before. -/
def typeFor (b : Bindings) (position : Nat) (value : HostValue) (declared : Option Atom) :
    Option Atom :=
  if value = .null then declared.or (b.established position) else declared.or value.atom?

def bind (b : Bindings) (index : Nat) (value : HostValue) (declared : Option Atom) :
    Except Error Unit × Bindings :=
  match index with
  | 0 => (.error (.parameter .indexZero), b)
  | position + 1 =>
    let b := b.grow index
    match b.typeFor position value declared with
    | none => (.error (.parameter (.nullWithoutType index)), b)
    | some atom =>
      (.ok (), { slots := b.slots.set position (some ⟨atom, some value⟩)
                 changed := b.changed || b.established position != some atom })

def clear (b : Bindings) : Bindings :=
  { b with slots := b.slots.map (·.map fun s => { s with value := none }) }

def takeChanged (b : Bindings) : Bool × Bindings :=
  (b.changed, { b with changed := false })

def placeholderAt (s : Option Slot × Nat) : Except Error Placeholder :=
  match s.1 with
  | some slot => .ok ⟨placeholderName (s.2 + 1), slot.atom⟩
  | none => .error (.parameter (.notSet (s.2 + 1)))

def placeholders (b : Bindings) : Except Error (List Placeholder) :=
  b.slots.zipIdx.mapM placeholderAt

def parameterAt (ctx : ConversionContext) (s : Option Slot × Nat) : Except Error Parameter :=
  match s.1 with
  | some ⟨atom, some value⟩ => value.encode ctx (placeholderName (s.2 + 1)) (some atom)
  | _ => .error (.parameter (.notSet (s.2 + 1)))

def encode (b : Bindings) (ctx : ConversionContext) : Except Error (List Parameter) :=
  b.slots.zipIdx.mapM (parameterAt ctx)

end Bindings

end SqlClient
