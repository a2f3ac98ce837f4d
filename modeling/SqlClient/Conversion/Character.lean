import SqlClient.Calendar.Text
import SqlClient.Conversion.LargeObject
import SqlClient.Conversion.Temporal
import SqlClient.Number.Binary.Shortest

namespace SqlClient

private def text (cs : List Char) : Except Error HostValue :=
  .ok (.string (String.ofList cs))

def zonedText (dt : ZonedDateTime) : Except Error (List Char) := do
  return (← ownWall dt).text 'T' ++ dt.offset.text

def WireValue.toText (ctx : ConversionContext) (v : WireValue) : Except Error HostValue :=
  match v with
  | .boolean b => text (if b then "true".toList else "false".toList)
  | .int4 n => text (Text.signedDigits n.toInt)
  | .int8 n => text (Text.signedDigits n.toInt)
  | .float4 x => text (x.text .long)
  | .float8 x => text (x.text .long)
  | .decimal d => text d.text
  | .character s => .ok (.string s)
  | .date d => text d.text
  | .timeOfDay t => text t.text
  | .timePoint dt => text (dt.text 'T')
  | .timeOfDayWithTimeZone t => text t.text
  | .timePointWithTimeZone dt => zonedText dt >>= text
  | .clob id => (ctx.readLob id >>= decodeClob .string).map .string
  | v => v.mismatch .string

end SqlClient
