import SqlClient.Calendar.Zone
import SqlClient.Error
import SqlClient.Value.Mapping
import SqlClient.Text.Record

namespace SqlClient

structure ConversionSettings where
  mapping : ObjectMapping
  rounding : Decimal.Rounding
  defaultZone : Option Offset
  -- the zone of the host, for callers that give none on a connection without a default
  system : Zone := default
deriving Repr, Inhabited

abbrev LobReader := LobId → Except Error Bytes

structure ConversionContext where
  settings : ConversionSettings
  calendar : Option Offset
  scale : Option Nat
  lobs : Option LobReader
deriving Inhabited

namespace ConversionContext

def ofSettings (settings : ConversionSettings) : ConversionContext :=
  ⟨settings, none, none, none⟩

def zone (ctx : ConversionContext) : Zone :=
  match ctx.calendar.or ctx.settings.defaultZone with
  | some offset => .fixed offset
  | none => ctx.settings.system

def readLob (ctx : ConversionContext) (id : LobId) : Except Error Bytes :=
  match ctx.lobs with
  | some read => read id
  | none => .error (.closed .largeObjectChannel)

end ConversionContext

def ObjectMapping.name : ObjectMapping → String
  | .natural => "Natural"
  | .sqlTemporal => "SqlTemporal"
  | .firstCompatible => "FirstCompatible"

def Decimal.Rounding.name : Decimal.Rounding → String
  | .reject => "Reject"
  | .halfUp => "HalfUp"

def describeOffset (o : Option Offset) : String :=
  Text.option (o.map fun o => String.ofList o.text)

def ConversionSettings.describe (s : ConversionSettings) : String :=
  Text.record "ConversionSettings"
    [Text.item "object_mapping" s.mapping.name, Text.item "decimal_rounding" s.rounding.name,
      Text.item "default_zone" (describeOffset s.defaultZone)]

def ConversionContext.describe (ctx : ConversionContext) : String :=
  Text.record "ConversionContext"
    [Text.item "settings" ctx.settings.describe,
      Text.item "calendar" (describeOffset ctx.calendar),
      Text.item "scale" (Text.option (ctx.scale.map toString)),
      Text.item "lob_reader" (toString ctx.lobs.isSome)]

end SqlClient
