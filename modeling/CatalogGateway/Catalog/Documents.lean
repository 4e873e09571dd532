import CatalogGateway.Json.Decode

/-!
# Documents of the catalog

The documents that the catalog answers with, and their JSON forms.
-/

namespace CatalogGateway.Catalog

structure ConfigV1 where
  defaultBranch : String
  maxSupportedApiVersion : UInt32
deriving DecidableEq, Repr

namespace ConfigV1

def toJson (c : ConfigV1) : Json :=
  .object [("defaultBranch", .string c.defaultBranch), ("maxSupportedApiVersion", .nat c.maxSupportedApiVersion.toNat)]

def record : Json.Record ConfigV1 :=
  ConfigV1.mk <$> .required "defaultBranch" Json.decodeText <*> .required "maxSupportedApiVersion" Json.decodeUInt32

def ofJson : Json.Decoder ConfigV1 := record.decode "ConfigV1Dto"

end ConfigV1

structure ConfigV2 where
  defaultBranch : String
  minSupportedApiVersion : UInt32
  maxSupportedApiVersion : UInt32
  actualApiVersion : UInt32
  specVersion : String
deriving DecidableEq, Repr

namespace ConfigV2

def toJson (c : ConfigV2) : Json :=
  .object [("defaultBranch", .string c.defaultBranch),
    ("minSupportedApiVersion", .nat c.minSupportedApiVersion.toNat),
    ("maxSupportedApiVersion", .nat c.maxSupportedApiVersion.toNat),
    ("actualApiVersion", .nat c.actualApiVersion.toNat), ("specVersion", .string c.specVersion)]

def record : Json.Record ConfigV2 :=
  ConfigV2.mk <$> .required "defaultBranch" Json.decodeText <*> .required "minSupportedApiVersion" Json.decodeUInt32
    <*> .required "maxSupportedApiVersion" Json.decodeUInt32 <*> .required "actualApiVersion" Json.decodeUInt32
    <*> .required "specVersion" Json.decodeText

def ofJson : Json.Decoder ConfigV2 := record.decode "ConfigV2Dto"

end ConfigV2

inductive ReferenceKind where
  | branch
deriving DecidableEq, Repr

namespace ReferenceKind

def name : ReferenceKind → String
  | branch => "BRANCH"

def toJson (k : ReferenceKind) : Json := .string k.name

def ofJson : Json.Decoder ReferenceKind := Json.decodeChoice [("BRANCH", branch)]

end ReferenceKind

structure Reference where
  kind : ReferenceKind
  name : String
deriving DecidableEq, Repr

namespace Reference

def branch (name : String) : Reference := ⟨.branch, name⟩

def toJson (r : Reference) : Json := .object [("type", r.kind.toJson), ("name", .string r.name)]

def record : Json.Record Reference :=
  Reference.mk <$> .required "type" ReferenceKind.ofJson <*> .required "name" Json.decodeText

def ofJson : Json.Decoder Reference := record.decode "ReferenceDto"

end Reference

structure References where
  references : List Reference
deriving DecidableEq, Repr

namespace References

def toJson (r : References) : Json := .object [("references", .array (r.references.map Reference.toJson))]

def record : Json.Record References :=
  References.mk <$> .required "references" (Json.decodeList Reference.ofJson)

def ofJson : Json.Decoder References := record.decode "ReferencesDto"

end References

structure Health where
  status : String
  service : String
deriving DecidableEq, Repr

namespace Health

def toJson (h : Health) : Json := .object [("status", .string h.status), ("service", .string h.service)]

def record : Json.Record Health :=
  Health.mk <$> .required "status" Json.decodeText <*> .required "service" Json.decodeText

def ofJson : Json.Decoder Health := record.decode "HealthDto"

end Health

end CatalogGateway.Catalog
