import SqlClient.Conversion.Context
import SqlClient.Conversion.Mismatch

namespace SqlClient

def decodeClob (target : Target) (bytes : Bytes) : Except Error String :=
  match Text.decodeUtf8 bytes with
  | .ok s => .ok s
  | .error fault => .error (.malformedLiteral target "<character large object>" (.utf8 fault))

def WireValue.octets? (ctx : ConversionContext) : WireValue → Option (Except Error Bytes)
  | .octet bytes => some (.ok bytes)
  | .blob id => some (ctx.readLob id)
  | _ => none

def WireValue.characters? (ctx : ConversionContext) (target : Target) :
    WireValue → Option (Except Error String)
  | .character s => some (.ok s)
  | .clob id => some (ctx.readLob id >>= decodeClob target)
  | _ => none

def WireValue.toBytes (ctx : ConversionContext) (v : WireValue) : Except Error HostValue :=
  match v.octets? ctx with
  | some bytes => bytes.map .bytes
  | none => v.mismatch .bytes

def WireValue.toBlob (ctx : ConversionContext) (v : WireValue) : Except Error HostValue :=
  match v.octets? ctx with
  | some bytes => bytes.map .blob
  | none => v.mismatch .blob

def WireValue.toBinaryStream (ctx : ConversionContext) (v : WireValue) : Except Error HostValue :=
  match v.octets? ctx with
  | some bytes => bytes.map fun b => .byteStream ⟨b, 0⟩
  | none => v.mismatch .binaryStream

def WireValue.toAsciiStream (ctx : ConversionContext) (v : WireValue) : Except Error HostValue :=
  match v.octets? ctx, v.characters? ctx .asciiStream with
  | some bytes, _ => bytes.map fun b => .byteStream ⟨b, 0⟩
  | none, some text => text.map fun s => .byteStream ⟨Text.encodeAscii s, 0⟩
  | none, none => v.mismatch .asciiStream

def WireValue.toCharacterStream (ctx : ConversionContext) (v : WireValue) :
    Except Error HostValue :=
  match v.characters? ctx .characterStream with
  | some text => text.map fun s => .characterStream ⟨s, 0⟩
  | none => v.mismatch .characterStream

def WireValue.toClob (ctx : ConversionContext) (v : WireValue) : Except Error HostValue :=
  match v.characters? ctx .clob with
  | some text => text.map .clob
  | none => v.mismatch .clob

end SqlClient
